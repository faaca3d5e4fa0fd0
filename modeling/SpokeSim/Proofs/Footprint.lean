import SpokeSim.Proofs.KeyMap
import SpokeSim.Proofs.PlainHub

/-!
# What provisioning leaves on a plain hub

A step stores its object under a key of the cluster, the one under which the object will be removed,
as long as the template bears the name under which it is read.  So whatever becomes of a
provisioning, the hub has grown under the cluster's keys only (`grows_provision`), and if all
templates are ready each step succeeds and leaves its object there (`allSucceed_of_ready`).

Names may be too long.  If even the config map cannot be created, provisioning leaves nothing at all
(`provision_tooLong`).

At the end there is a hub whose templates are ready, for runs on something.
-/

namespace SpokeSim

/-! ## Metadata of what is made -/

/-- The metadata of a copy in a namespace, without owners if asked to. -/
def ObjectMeta.clone (m : ObjectMeta) (disown : Bool) (space : String) : ObjectMeta :=
  (if disown then m.disown else m).retarget space

lemma ObjectMeta.name_clone (m : ObjectMeta) (disown : Bool) (space : String) :
    (m.clone disown space).name = m.name := by
  cases disown <;> rfl

lemma ObjectMeta.space_clone (m : ObjectMeta) (disown : Bool) (space : String) :
    (m.clone disown space).space = some space := by
  cases disown <;> rfl

lemma Kind.metadata_clone (k : Kind) (disown : Bool) (space : String) (o : k.Object) :
    k.metadata (k.clone disown space o) = (k.metadata o).clone disown space := by
  cases k <;> rfl

lemma Deployment.metadata_simulate {d d' : Deployment} {cluster : String} {id : ClusterId}
    (h : d.simulate cluster id = .ok d') : d'.metadata = d.metadata.clone true cluster := by
  rw [simulate] at h
  cases hspec : d.spec with
  | none => simp [hspec] at h
  | some spec =>
    cases hpod : spec.template.spec with
    | none => simp [hspec, hpod] at h
    | some pod =>
      simp only [hspec, hpod] at h
      cases hsimulate : pod.simulate cluster id with
      | error f => rw [hsimulate] at h; cases h
      | ok pod' =>
        rw [hsimulate] at h
        rw [← Except.ok.inj h]; rfl

namespace ProvisionStep

variable {cluster : String} {id : ClusterId} {s : ProvisionStep}

/-- The name of the object that a step stores. -/
def objectName (cluster : String) : ProvisionStep → String
  | caBundle => caBundleName
  | signerCert => signerCertName
  | managedCert => managedCertName
  | serviceAccount => endpointAccountName
  | deployment => collectorName
  | roleBinding => bindingName cluster

/-- The object that a step stores, kind and name. -/
def target (cluster : String) (s : ProvisionStep) : Kind × String := (s.kind, s.objectName cluster)

/-- The key of the object that a step stores. -/
def key (cluster : String) (s : ProvisionStep) : String := objectKey cluster (s.target cluster)

lemma target_mem (cluster : String) (s : ProvisionStep) :
    s.target cluster ∈ clusterObjects cluster := by
  cases s <;> simp [clusterObjects, target, kind, objectName]

/-- What is removed from a cluster is what the steps store. -/
lemma exists_target_eq {o : Kind × String} (ho : o ∈ clusterObjects cluster) :
    ∃ s : ProvisionStep, s.target cluster = o := by
  simp only [clusterObjects, List.mem_cons, List.not_mem_nil, or_false] at ho
  obtain rfl | rfl | rfl | rfl | rfl | rfl := ho
  · exact ⟨roleBinding, rfl⟩
  · exact ⟨deployment, rfl⟩
  · exact ⟨serviceAccount, rfl⟩
  · exact ⟨signerCert, rfl⟩
  · exact ⟨managedCert, rfl⟩
  · exact ⟨caBundle, rfl⟩

lemma mem_clusterKeys_iff {key : String} :
    key ∈ clusterKeys cluster ↔ ∃ s : ProvisionStep, s.key cluster = key := by
  rw [clusterKeys_eq, List.mem_map]
  constructor
  · rintro ⟨o, ho, rfl⟩
    obtain ⟨s, rfl⟩ := exists_target_eq ho
    exact ⟨s, rfl⟩
  · rintro ⟨s, rfl⟩
    exact ⟨s.target cluster, s.target_mem cluster, rfl⟩

lemma key_mem (cluster : String) (s : ProvisionStep) : s.key cluster ∈ clusterKeys cluster :=
  mem_clusterKeys_iff.2 ⟨s, rfl⟩

lemma isStored_kind (s : ProvisionStep) : s.kind.isStored = true := by cases s <;> rfl

/-- A kind without namespaces has the same collection in all. -/
lemma collection_space (cluster : String) (s : ProvisionStep) :
    s.kind.collection (s.space cluster) = s.kind.collection cluster := by
  cases s <;> rfl

/-! ### What comes from a template -/

section

variable {name : String} {make? : s.kind.Object → Option s.kind.Object}

lemma objectName_eq (hsource : s.source cluster id = .template name make?) :
    s.objectName cluster = name := by
  cases s <;> cases hsource <;> rfl

/-- **What comes from a template is a copy in the cluster's namespace**, as far as metadata go. -/
lemma metadata_make? (hsource : s.source cluster id = .template name make?)
    {template copy : s.kind.Object} (hcopy : make? template = some copy) :
    ∃ disown, s.kind.metadata copy = (s.kind.metadata template).clone disown cluster := by
  cases s with
  | deployment =>
    cases hsource
    have hcopy : (Deployment.simulate template cluster id).toOption = some copy := hcopy
    cases hsimulate : Deployment.simulate template cluster id with
    | error f => rw [hsimulate] at hcopy; cases hcopy
    | ok d =>
      rw [hsimulate] at hcopy
      rw [← Option.some.inj hcopy]
      exact ⟨true, Deployment.metadata_simulate hsimulate⟩
  | roleBinding => cases hsource
  | caBundle | signerCert | managedCert | serviceAccount =>
    cases hsource
    rw [← Option.some.inj hcopy]
    exact ⟨_, Kind.metadata_clone ..⟩

lemma name_make? (hsource : s.source cluster id = .template name make?)
    {template copy : s.kind.Object} (hcopy : make? template = some copy) :
    (s.kind.metadata copy).name = (s.kind.metadata template).name := by
  obtain ⟨disown, hmetadata⟩ := metadata_make? hsource hcopy
  rw [hmetadata, ObjectMeta.name_clone]

lemma space_make? (hsource : s.source cluster id = .template name make?)
    {template copy : s.kind.Object} (hcopy : make? template = some copy) :
    (s.kind.metadata copy).space = some cluster := by
  obtain ⟨disown, hmetadata⟩ := metadata_make? hsource hcopy
  rw [hmetadata, ObjectMeta.space_clone]

end

lemma name_roleBinding? {b : ClusterRoleBinding} (hb : roleBinding? cluster = some b) :
    b.metadata.name = some (bindingName cluster) := by
  rw [roleBinding?] at hb
  split at hb
  · cases hb
  · rw [← Option.some.inj hb]

/-! ## One step -/

variable {h : Hub} {o : s.kind.Object}

lemma object?_template (hplain : h.isPlain = true) {name : String}
    {make? : s.kind.Object → Option s.kind.Object}
    (hsource : s.source cluster id = .template name make?) :
    (s.source cluster id).object? h
      = (h.read? s.kind (templateKey (s.kind, name))).bind make? := by
  rw [hsource, Source.object?, (Hub.answer_reading hplain (mem_templateObjects hsource)).2]

lemma after_reads (hplain : h.isPlain = true) (s : ProvisionStep) :
    h.after (s.source cluster id).reads = h := by
  cases hsource : s.source cluster id with
  | template name make? => exact (Hub.answer_reading hplain (mem_templateObjects hsource)).1
  | direct made? => rfl

/-- **What a step stores bears the name under which it will be removed.** -/
lemma name_object? (hplain : h.isPlain = true) (hnamed : h.TemplatesNamed)
    (ho : (s.source cluster id).object? h = some o) :
    (s.kind.metadata o).name = some (s.objectName cluster) := by
  cases hsource : s.source cluster id with
  | template name make? =>
    rw [object?_template hplain hsource, Option.bind_eq_some_iff] at ho
    obtain ⟨template, hread, hcopy⟩ := ho
    rw [name_make? hsource hcopy, objectName_eq hsource]
    exact hnamed (s.kind, name) (mem_templateObjects hsource) template hread
  | direct made? =>
    cases s with
    | roleBinding =>
      exact name_roleBinding? ho
    | caBundle | signerCert | managedCert | serviceAccount | deployment => cases hsource

/-- A step that has nothing to store leaves the hub as it is. -/
lemma after_requests_of_none (hplain : h.isPlain = true)
    (ho : (s.source cluster id).object? h = none) : h.after (s.requests cluster id h) = h := by
  rw [requests, Source.requests_of_none ho, after_reads hplain]

/-- A step that cannot send what it has to store fails and leaves the hub as it is. -/
lemma after_requests_of_unsendable (hplain : h.isPlain = true) {f : UriFault}
    (hparse : Target.parse (s.kind.collection cluster ++ "?") = .error f) :
    ¬s.Succeeds cluster id h ∧ h.after (s.requests cluster id h) = h := by
  have hposting : ∀ o, posting? s.kind (s.space cluster) o = none := by
    intro o
    rw [posting?, collection_space]
    exact request?_of_fault hparse
  constructor
  · rw [← stored_iff_succeeds]
    rintro ⟨o, -, q, hq, -⟩
    rw [hposting o] at hq; cases hq
  · rw [requests, Source.requests]
    cases (s.source cluster id).object? h with
    | none => simpa using after_reads hplain s
    | some o => simpa [hposting] using after_reads hplain s

/-- Any other step succeeds, and the hub has something at the place to which it is sent, under its
own name. -/
lemma after_requests_of_sendable (hplain : h.isPlain = true)
    (ho : (s.source cluster id).object? h = some o) {target : Target}
    (hparse : Target.parse (s.kind.collection cluster ++ "?") = .ok target) :
    s.Succeeds cluster id h ∧
      h.after (s.requests cluster id h)
        = h.addNew (target.path ++ "/" ++ (s.kind.metadata o).name.getD "")
            (s.kind.codec.encode o) := by
  have hposting : posting? s.kind (s.space cluster) o = some
      { method := .post, target, body := some (s.kind.codec.encode o) } := by
    rw [posting?, collection_space]
    exact request?_of_parse hparse
  obtain ⟨haccepts, hafter⟩ := Hub.answer_posting hplain s.isStored_kind o target
  constructor
  · rw [← stored_iff_succeeds]
    refine ⟨o, ho, ?_⟩
    rw [after_reads hplain]
    exact ⟨_, hposting, haccepts⟩
  · rw [requests, Source.requests, ho, Option.bind_some, hposting, Hub.after_append,
      after_reads hplain]
    exact hafter

/-- If templates bear their names and the cluster's name is a part of paths, that is the step's
key. -/
lemma after_requests_of_some (hplain : h.isPlain = true) (hnamed : h.TemplatesNamed)
    (ho : (s.source cluster id).object? h = some o)
    (hparse : Target.parse (s.kind.collection cluster ++ "?")
      = .ok ⟨s.kind.collection cluster, ""⟩) :
    s.Succeeds cluster id h ∧
      h.after (s.requests cluster id h) = h.addNew (s.key cluster) (s.kind.codec.encode o) := by
  obtain ⟨hs, hafter⟩ := after_requests_of_sendable hplain ho hparse
  rw [name_object? hplain hnamed ho, Option.getD_some] at hafter
  exact ⟨hs, hafter⟩

end ProvisionStep

/-! ## Growth keeps the templates -/

section

variable {cluster : String} {h h' : Hub}

lemma Hub.Grows.get?_templateKey (hgrows : Hub.Grows (clusterKeys cluster) h h')
    (hn : IsClusterName cluster) (hne : cluster ≠ addonNamespace) {o : Kind × String}
    (ho : o ∈ templateObjects) :
    h'.objects.get? (templateKey o) = h.objects.get? (templateKey o) :=
  hgrows.within _ (templateKey_notMem_clusterKeys hn hne ho)

lemma Hub.TemplatesNamed.congr (hnamed : h.TemplatesNamed) (hsame : h.SameTemplates h') :
    h'.TemplatesNamed := by
  intro o ho template hread
  rw [Hub.read?_template hsame ho] at hread
  exact hnamed o ho template hread

lemma Hub.TemplatesReady.congr (hready : h.TemplatesReady) (hsame : h.SameTemplates h') :
    h'.TemplatesReady := by
  intro o ho
  rw [Hub.read?_template hsame ho]
  exact hready o ho

end

/-! ## All steps -/

namespace ProvisionStep

variable {cluster : String} {id : ClusterId} {h : Hub}

lemma parse_collection_cases (hn : IsClusterName cluster) (s : ProvisionStep) :
    Target.parse (s.kind.collection cluster ++ "?") = .ok ⟨s.kind.collection cluster, ""⟩ ∨
      Target.parse (s.kind.collection cluster ++ "?") = .error .tooLong :=
  Target.parse_open_cases (s.kind.isPath_collection hn.isPath)

lemma grows_after_requests (id : ClusterId) (hn : IsClusterName cluster)
    (hplain : h.isPlain = true) (hnamed : h.TemplatesNamed) (s : ProvisionStep) :
    Hub.Grows (clusterKeys cluster) h (h.after (s.requests cluster id h)) := by
  cases ho : (s.source cluster id).object? h with
  | none =>
    rw [after_requests_of_none hplain ho]
    exact .refl _ h
  | some o =>
    obtain hparse | hparse := parse_collection_cases hn s
    · rw [(after_requests_of_some hplain hnamed ho hparse).2]
      exact Hub.grows_addNew (s.key_mem cluster) _
    · rw [(after_requests_of_unsendable hplain hparse).2]
      exact .refl _ h

/-- **Steps leave nothing but objects of the cluster**, and change nothing that is there. -/
lemma grows_hubAfter (id : ClusterId) (hn : IsClusterName cluster)
    (hne : cluster ≠ addonNamespace) (ss : List ProvisionStep) (hplain : h.isPlain = true)
    (hnamed : h.TemplatesNamed) :
    Hub.Grows (clusterKeys cluster) h (hubAfter cluster id h ss) := by
  induction ss generalizing h with
  | nil => exact .refl _ h
  | cons s ss ih =>
    have hstep := grows_after_requests id hn hplain hnamed s
    have hnamed' := hnamed.congr fun _ => hstep.get?_templateKey hn hne
    rw [hubAfter_cons]
    exact hstep.trans (ih (hstep.plain hplain) hnamed')

/-- At a hub whose templates are ready each step has something to store. -/
lemma exists_object? (hn : IsClusterName cluster) (hplain : h.isPlain = true)
    (hready : h.TemplatesReady) (s : ProvisionStep) :
    ∃ o, (s.source cluster id).object? h = some o := by
  cases hsource : s.source cluster id with
  | template name make? =>
    obtain ⟨template, hread, -, husable⟩ := hready (s.kind, name) (mem_templateObjects hsource)
    obtain ⟨copy, hcopy⟩ :=
      Option.isSome_iff_exists.1 ((isSome_make?_iff hsource template).2 husable)
    exact ⟨copy, by rw [← hsource, object?_template hplain hsource, hread]; exact hcopy⟩
  | direct made? =>
    cases s with
    | roleBinding =>
      cases hsource
      exact ⟨_, if_neg hn.ne_empty⟩
    | caBundle | signerCert | managedCert | serviceAccount | deployment => cases hsource

/-- **At a hub whose templates are ready, all steps succeed** if the cluster's objects have
addresses, and each leaves its object there. -/
lemma allSucceed_of_ready (hn : IsClusterName cluster) (hne : cluster ≠ addonNamespace)
    (haddress : Addressable cluster) (ss : List ProvisionStep) (hplain : h.isPlain = true)
    (hready : h.TemplatesReady) :
    AllSucceed cluster id h ss ∧
      ∀ s ∈ ss, (hubAfter cluster id h ss).objects.contains (s.key cluster) = true := by
  induction ss generalizing h with
  | nil => exact ⟨allSucceed_nil, by simp⟩
  | cons s ss ih =>
    obtain ⟨o, ho⟩ := exists_object? hn hplain hready s
    have hparse := parse_collection hn (haddress _ (s.key_mem cluster))
    obtain ⟨hs, hafter⟩ := after_requests_of_some hplain hready.named ho hparse
    have hstep := grows_after_requests id hn hplain hready.named s
    have hready' := hready.congr fun _ => hstep.get?_templateKey hn hne
    obtain ⟨hall, hcontains⟩ := ih (hstep.plain hplain) hready'
    have hgrows := grows_hubAfter id hn hne ss (hstep.plain hplain) hready'.named
    refine ⟨allSucceed_cons_iff.2 ⟨hs, hall⟩, fun s' hs' => ?_⟩
    rw [hubAfter_cons]
    rcases List.mem_cons.1 hs' with rfl | hs'
    · refine hgrows.contains ?_
      rw [hafter]
      exact Hub.contains_addNew ..
    · exact hcontains s' hs'

end ProvisionStep

/-! ## Provisioning -/

section

open ProvisionStep

variable {cluster : String} {w : World}

/-- **Provisioning leaves nothing but objects of the cluster**, whatever becomes of it. -/
lemma grows_provision (hn : IsClusterName cluster) (hne : cluster ≠ addonNamespace)
    (hplain : w.hub.isPlain = true) (hnamed : w.hub.TemplatesNamed) :
    Hub.Grows (clusterKeys cluster) w.hub (provision cluster w).2.hub := by
  obtain ⟨taken, left, draws, -, hleads, -⟩ := provision_ends cluster w
  rw [hleads.hub]
  exact grows_hubAfter _ hn hne taken hplain hnamed

/-- **Provisioning succeeds where all templates are ready**, if the cluster's objects have
addresses. -/
lemma provision_ok_of_ready (hn : IsClusterName cluster) (hne : cluster ≠ addonNamespace)
    (haddress : Addressable cluster) (hplain : w.hub.isPlain = true)
    (hready : w.hub.TemplatesReady) : (provision cluster w).1 = .ok () := by
  obtain ⟨taken, left, draws, hall, -, hends⟩ := provision_ends cluster w
  rw [hends.eq_ok_iff, ← hall]
  exact (allSucceed_of_ready hn hne haddress _ hplain hready).1

lemma utf8ByteSize_configMaps (cluster : String) :
    (Kind.configMap.collection cluster).utf8ByteSize = cluster.utf8ByteSize + 30 := by
  have hstart : Kind.configMap.start.utf8ByteSize = 19 := by decide +kernel
  have hplural : "/configmaps".utf8ByteSize = 11 := by decide +kernel
  have hcollection : Kind.configMap.collection cluster
      = Kind.configMap.start ++ cluster ++ "/configmaps" :=
    Kind.collection_of_plural rfl cluster
  rw [hcollection, String.utf8ByteSize_append, String.utf8ByteSize_append, hstart, hplural]
  omega

/-- Provisioning takes at least the first step, and no other one if that one does not succeed. -/
lemma exists_provision_eq (cluster : String) (w : World) :
    ∃ taken, (provision cluster w).2.hub
        = hubAfter cluster (w.ids w.drawn)
            (w.hub.after (caBundle.requests cluster (w.ids w.drawn) w.hub)) taken ∧
      (¬caBundle.Succeeds cluster (w.ids w.drawn) w.hub → taken = []) := by
  obtain ⟨taken, left, draws, hall, hleads, hends⟩ := provision_ends cluster w
  cases taken with
  | nil =>
    obtain ⟨rfl, -⟩ | ⟨done, s, htaken, -⟩ := hends
    · cases hall
    · simp at htaken
  | cons s taken =>
    obtain rfl : caBundle = s := (List.cons.inj hall).1
    refine ⟨taken, hleads.hub.trans hubAfter_cons, fun hfails => ?_⟩
    obtain ⟨-, hsucceed, -⟩ | ⟨done, s', htaken, hsucceed, -, -⟩ := hends
    · exact absurd (hsucceed [] _ taken rfl) hfails
    · cases done with
      | nil => exact (List.cons.inj htaken).2
      | cons s₀ done =>
        obtain ⟨rfl, -⟩ := List.cons.inj htaken
        exact absurd (hsucceed [] _ done rfl) hfails

/-- For a name that is too long to create the config map, provisioning leaves nothing at all. -/
lemma provision_tooLong
    (hlong : Target.longest < (Kind.configMap.collection cluster ++ "?").utf8ByteSize)
    (hplain : w.hub.isPlain = true) : (provision cluster w).2.hub = w.hub := by
  have hfirst : ¬caBundle.Succeeds cluster (w.ids w.drawn) w.hub ∧
      w.hub.after (caBundle.requests cluster (w.ids w.drawn) w.hub) = w.hub :=
    after_requests_of_unsendable hplain (Target.parse_tooLong hlong)
  obtain ⟨taken, hhub, hstops⟩ := exists_provision_eq cluster w
  rw [hhub, hstops hfirst.1, hfirst.2]
  rfl

/-- For any other name it leaves at least the config map, if the templates are ready. -/
lemma contains_provision_configMap (hn : IsClusterName cluster) (hne : cluster ≠ addonNamespace)
    (hfits : (Kind.configMap.collection cluster).utf8ByteSize < Target.longest)
    (hplain : w.hub.isPlain = true) (hready : w.hub.TemplatesReady) :
    (provision cluster w).2.hub.objects.contains (caBundle.key cluster) = true := by
  obtain ⟨o, ho⟩ : ∃ o, (caBundle.source cluster (w.ids w.drawn)).object? w.hub = some o :=
    exists_object? hn hplain hready caBundle
  have hparse := Target.parse_path_open (Kind.configMap.isPath_collection hn.isPath) hfits
  have hafter := (after_requests_of_some hplain hready.named ho hparse).2
  have hstep := grows_after_requests (w.ids w.drawn) hn hplain hready.named caBundle
  have hready' := hready.congr fun _ => hstep.get?_templateKey hn hne
  obtain ⟨taken, hhub, -⟩ := exists_provision_eq cluster w
  have hgrows := grows_hubAfter (w.ids w.drawn) hn hne taken (hstep.plain hplain) hready'.named
  rw [hhub]
  refine hgrows.contains ?_
  rw [hafter]
  exact Hub.contains_addNew ..

end

/-! ## A hub whose templates are ready -/

/-- An object with as little in it as can be, so that it can be a template. -/
def Kind.bare : (k : Kind) → k.Object
  | configMap => ({} : ConfigMap)
  | secret => ({} : Secret)
  | serviceAccount => ({} : ServiceAccount)
  | deployment =>
    { spec := some { template := { spec := some { containers := [{ name := "collector" }] } } } }
  | clusterRoleBinding => ({} : ClusterRoleBinding)
  | managedCluster => { metadata := {}, spec := {} }
  | pod => ({} : Pod)

/-- The least template of a name. -/
def bareTemplate (o : Kind × String) : o.1.Object :=
  o.1.setMetadata o.1.bare { name := some o.2 }

/-- A plain hub that keeps the least templates and nothing else. -/
def readyHub : Hub where
  stateful := true
  objects := KeyMap.empty.insertAll templateKey (fun o => o.1.codec.encode (bareTemplate o))
    templateObjects

namespace readyHub

lemma isPlain : readyHub.isPlain = true := rfl

lemma objects_eq :
    readyHub.objects = KeyMap.empty.insertAll templateKey
      (fun o => o.1.codec.encode (bareTemplate o)) templateObjects := rfl

lemma name_bareTemplate (o : Kind × String) : (o.1.metadata (bareTemplate o)).name = some o.2 := by
  obtain ⟨k, name⟩ := o
  cases k <;> rfl

lemma usable_bareTemplate (o : Kind × String) : o.1.Usable (bareTemplate o) := by
  obtain ⟨k, name⟩ := o
  cases k with
  | deployment => exact ⟨_, _, rfl, rfl, List.cons_ne_nil _ _⟩
  | _ => trivial

lemma nodup_templateKeys : (templateObjects.map templateKey).Nodup := by
  have hkeys := nodup_clusterKeys isClusterName_addonNamespace
  rw [clusterKeys_eq, clusterObjects_eq, List.map_cons, List.nodup_cons] at hkeys
  exact hkeys.2

lemma templatesReady : readyHub.TemplatesReady := by
  intro o ho
  have hstored : ∀ o ∈ templateObjects, o.1.isStored = true := by decide
  have := Kind.faithful_codec (hstored o ho)
  refine ⟨bareTemplate o, ?_, name_bareTemplate o, usable_bareTemplate o⟩
  rw [Hub.read?, objects_eq, KeyMap.get?_insertAll_of_mem _ nodup_templateKeys ho,
    Option.bind_some, Codec.ofJson?, Codec.Faithful.decode_encode]
  rfl

/-- There is nothing but what belongs to the add-on. -/
lemma get?_of_not_owns {key : String} (hkey : ¬Owns addonNamespace key) :
    readyHub.objects.get? key = none := by
  have hnotMem : key ∉ templateObjects.map templateKey := by
    rintro hmem
    obtain ⟨o, ho, rfl⟩ := List.mem_map.1 hmem
    exact hkey (owns_templateKey ho)
  rw [objects_eq, KeyMap.get?_insertAll_of_notMem _ hnotMem]
  rfl

/-- So there is nothing of a cluster. -/
lemma get?_of_mem_clusterKeys {cluster : String} (hn : IsClusterName cluster)
    (hne : cluster ≠ addonNamespace) {key : String} (hkey : key ∈ clusterKeys cluster) :
    readyHub.objects.get? key = none :=
  get?_of_not_owns fun howns => hne ((owns_of_mem_clusterKeys hkey).unique hn.slash_notMem
    isClusterName_addonNamespace.slash_notMem howns)

end readyHub

/-- A world with that hub in which nothing has happened. -/
def readyWorld : World := { hub := readyHub, ids := fun _ => default }

/-! ## Long names -/

/-- A name of so many letters. -/
def longName (n : Nat) : String := String.ofList (List.replicate n 'a')

lemma isClusterName_longName {n : Nat} (h : 0 < n) : IsClusterName (longName n) where
  ne_empty heq := by
    have hchars : List.replicate n 'a' = [] := by
      rw [← String.toList_ofList (l := List.replicate n 'a')]
      exact congrArg String.toList heq
    rw [List.replicate_eq_nil_iff] at hchars
    omega
  chars c hc := by
    rw [longName, String.toList_ofList] at hc
    rw [List.eq_of_mem_replicate hc]
    decide

lemma longName_ne_addonNamespace (n : Nat) : longName n ≠ addonNamespace := by
  intro heq
  have hmem : 'o' ∈ addonNamespace.toList := by decide +kernel
  rw [← heq, longName, String.toList_ofList] at hmem
  exact absurd (List.eq_of_mem_replicate hmem) (by decide)

lemma utf8ByteSize_longName (n : Nat) : (longName n).utf8ByteSize = n := by
  induction n with
  | zero => rfl
  | succ n ih =>
    have hcons : longName (n + 1) = "a" ++ longName n := by
      refine String.toList_injective ?_
      have hletter : "a".toList = ['a'] := rfl
      simp only [String.toList_append, longName, String.toList_ofList, List.replicate_succ, hletter,
        List.singleton_append]
    have hletter : "a".utf8ByteSize = 1 := rfl
    rw [hcons, String.utf8ByteSize_append, ih, hletter, Nat.add_comm]

end SpokeSim
