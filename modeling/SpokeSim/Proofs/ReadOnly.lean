import SpokeSim.Proofs.Writes

/-!
# The templates and the add-on's namespace

The simulator never writes to a template as such: it writes for clusters, and the templates are in
the namespace of the add-on.  But that namespace has a name that a cluster may have too.

**Paths.**  A path tells the namespace in which it lies (`spaceOf?`), and writes for a cluster lie
in the namespace of that name or in none (`Request.StoresFor.space_eq`,
`Request.RemovesFor.space_eq`).

**Runs.**  So a write lies in the add-on's namespace only as a cluster of that name, in scope,
comes, goes or is cleaned up; and a template that a plain hub keeps is lost in no other way
(`templates_readOnly`).  Nothing but the scope keeps such a cluster out: of one that is deleted, all
templates are removed (`not_templates_readOnly`).
-/

namespace SpokeSim

variable {n : String} {q : Request} {w w' : World} {scope : String} {e : ClusterEvent}
  {es : List ClusterEvent}

/-! ## Namespaces of paths -/

/-- The namespace in which a path lies: what stands behind the first part that is `namespaces`. -/
def spaceOf? (path : String) : Option String :=
  (((path.toList.splitOn '/').map String.ofList).dropWhile (· ≠ "namespaces"))[1]?

lemma spaceOf?_spaced {k : Kind} (hk : k.plural?.isSome = true) {space tail : String}
    {rest : List Char} (hspace : '/' ∉ space.toList) (htail : tail.toList = '/' :: rest) :
    spaceOf? (k.start ++ (space ++ tail)) = some space := by
  obtain ⟨opening, hopening, hdrop⟩ : ∃ opening : List Char, k.start.toList = opening ++ ['/'] ∧
      ((opening.splitOn '/').map String.ofList).dropWhile (· ≠ "namespaces")
        = ["namespaces"] := by
    refine ⟨k.start.toList.dropLast, ?_⟩
    cases k with
    | clusterRoleBinding | managedCluster => cases hk
    | configMap | secret | serviceAccount | deployment | pod => decide +kernel
  have hpath : (k.start ++ (space ++ tail)).toList
      = opening ++ '/' :: (space.toList ++ '/' :: rest) := by
    simp only [String.toList_append, hopening, htail, List.append_assoc, List.singleton_append]
  have hspace' : ∀ c ∈ space.toList, (c == '/') = false := by
    intro c hc
    rw [beq_eq_false_iff_ne]
    rintro rfl
    exact hspace hc
  have hsplit : (opening ++ '/' :: (space.toList ++ '/' :: rest)).splitOn '/'
      = opening.splitOn '/' ++ space.toList :: rest.splitOn '/' := by
    simp only [List.splitOn]
    rw [List.splitOnP_append_cons opening _ rfl,
      List.splitOnP_append_cons_of_forall_mem hspace' '/' rfl]
  rw [spaceOf?, hpath, hsplit, List.map_append, List.dropWhile_append, hdrop]
  simp

lemma spaceOf?_binding {cluster : String} (h : '/' ∉ cluster.toList) :
    spaceOf? (objectKey cluster (.clusterRoleBinding, bindingName cluster)) = none := by
  have hname : ∀ c ∈ (bindingName cluster).toList, (c == '/') = false := by
    intro c hc
    rw [beq_eq_false_iff_ne]
    rintro rfl
    rw [bindingName, String.toList_append, List.mem_append] at hc
    exact hc.elim h (by decide +kernel)
  have hlong : bindingName cluster ≠ "namespaces" := by
    intro heq
    have hsize := congrArg String.utf8ByteSize heq
    have hsuffix : "-clusters-metrics-collector-view".utf8ByteSize = 32 := by decide +kernel
    have hnamespaces : "namespaces".utf8ByteSize = 10 := by decide +kernel
    rw [bindingName, String.utf8ByteSize_append] at hsize
    omega
  have hpath : (objectKey cluster (.clusterRoleBinding, bindingName cluster)).toList
      = Kind.clusterRoleBinding.start.toList ++ '/' :: (bindingName cluster).toList := by
    rw [objectKey_binding, String.toList_append, String.toList_append]
    rfl
  have hstart : ((Kind.clusterRoleBinding.start.toList.splitOn '/').map String.ofList).dropWhile
      (· ≠ "namespaces") = [] := by decide +kernel
  have hsplit : (Kind.clusterRoleBinding.start.toList
        ++ '/' :: (bindingName cluster).toList).splitOn '/'
      = Kind.clusterRoleBinding.start.toList.splitOn '/' ++ [(bindingName cluster).toList] := by
    simp only [List.splitOn]
    rw [List.splitOnP_append_cons _ _ rfl, List.splitOnP_eq_singleton hname]
  rw [spaceOf?, hpath, hsplit, List.map_append, List.dropWhile_append, hstart]
  simp [hlong]

/-! ## Writes in a namespace -/

/-- A request writes in a namespace. -/
def Request.WritesIn (space : String) (q : Request) : Prop :=
  ¬q.Reads ∧ spaceOf? q.target.path = some space

lemma Request.StoresFor.space_eq (hq : q.StoresFor n) (hn : IsClusterName n) {space : String}
    (hspace : spaceOf? q.target.path = some space) : n = space := by
  cases hq with
  | @copy o j ho =>
    obtain ⟨plural, hplural⟩ := Option.isSome_iff_exists.1 (isSome_plural_template ho)
    obtain ⟨rest, hrest⟩ := Kind.exists_plural_eq hplural
    have hpath : spaceOf? (o.1.collection n) = some n := by
      rw [Kind.collection_of_plural hplural, String.append_assoc]
      exact spaceOf?_spaced (isSome_plural_template ho) hn.slash_notMem hrest
    exact Option.some.inj (hpath.symm.trans hspace)
  | binding =>
    have hnone : spaceOf? Kind.clusterRoleBinding.start = none := by decide +kernel
    rw [Kind.collection_of_plural_none rfl, hnone] at hspace
    cases hspace

lemma spaceOf?_objectKey (hn : '/' ∉ n.toList) {o : Kind × String}
    (ho : o ∈ templateObjects) : spaceOf? (objectKey n o) = some n := by
  obtain ⟨rest, hrest⟩ := exists_keyTail_eq (isSome_plural_template ho)
  rw [objectKey_template ho]
  exact spaceOf?_spaced (isSome_plural_template ho) hn hrest

lemma Request.RemovesFor.space_eq (hq : q.RemovesFor n) (hn : IsClusterName n) {space : String}
    (hspace : spaceOf? q.target.path = some space) : n = space := by
  cases hq with
  | copy ho => exact Option.some.inj ((spaceOf?_objectKey hn.slash_notMem ho).symm.trans hspace)
  | binding => rw [spaceOf?_binding hn.slash_notMem] at hspace; cases hspace

/-- A template that a plain hub keeps is still there if nobody has asked for a removal in the
add-on's namespace. -/
lemma World.Leads.get?_templateKey {qs : List Request} {draws : Nat} (hleads : w.Leads qs draws w')
    (hplain : w.hub.isPlain = true) {o : Kind × String} (ho : o ∈ templateObjects)
    (hkey : w.hub.objects.contains (templateKey o) = true)
    (hqs : ∀ q ∈ qs, q.method = .delete → ¬q.WritesIn addonNamespace) :
    w'.hub.objects.get? (templateKey o) = w.hub.objects.get? (templateKey o) := by
  rw [hleads.hub]
  refine Hub.get?_after_of_kept hplain hkey fun q hq hmethod hpath => ?_
  refine hqs q hq hmethod ⟨fun hreads => hreads.ne_delete hmethod, ?_⟩
  rw [hpath]
  exact spaceOf?_objectKey isClusterName_addonNamespace.slash_notMem ho

/-- An event at which there may be a write in the add-on's namespace: it takes that for a cluster
in scope. -/
lemma Request.AllowedAt.of_writesIn {space : String} (hq : q.AllowedAt scope e)
    (hnames : ∀ n, e.names n = true → IsClusterName n) (hwrites : q.WritesIn space) :
    startsWith space scope = true ∧
      ((q.method = .post ∧ e = .added space) ∨ (q.method = .delete ∧ e = .deleted space)) := by
  obtain ⟨hreads, hspace⟩ := hwrites
  cases hq with
  | reads hq => exact absurd hq hreads
  | @stores n _ hscope hq =>
    obtain rfl := hq.space_eq (hnames n (decide_eq_true rfl)) hspace
    exact ⟨hscope, .inl ⟨hq.method_eq, rfl⟩⟩
  | @removes n _ hscope hq =>
    obtain rfl := hq.space_eq (hnames n (decide_eq_true rfl)) hspace
    exact ⟨hscope, .inr ⟨hq.method_eq, rfl⟩⟩

/-! ## Runs -/

lemma exists_event_of_mem_watched {policy : SeenPolicy} {events : List (Except String ClusterEvent)}
    (hnames : ∀ n, IsNamedIn (Reconciler.heard events) n → IsClusterName n)
    (hq : q ∈ (Reconciler.run Handler.simulator { scope, policy } events w).2.requestsSince w) :
    ∃ e ∈ Reconciler.heard events, q.AllowedAt scope e := by
  obtain ⟨draws, hleads⟩ := Reconciler.run_leads sends_simulator { scope, policy } events w
  rw [hleads.requestsSince_eq] at hq
  obtain ⟨⟨e, qs⟩, hqs, hq⟩ := List.mem_flatMap.1 hq
  exact ⟨e, (Reconciler.exists_handle_of_mem_asked hqs).1,
    Reconciler.allowedAt_of_mem_asked hnames hqs hq⟩

lemma exists_cluster_of_mem_cleaned
    (hlisted : ∀ listing, (listClusters w).1 = .ok listing →
      ∀ c ∈ listing.items, IsClusterName c.name)
    (hq : q ∈ (reapAll listClusters Handler.simulator scope w).2.requestsSince w)
    (hreads : ¬q.Reads) :
    ∃ listing, (listClusters w).1 = .ok listing ∧
      ∃ c ∈ listing.inScope scope, IsClusterName c.name ∧ q.RemovesFor c.name := by
  rw [(reapAll_leads simulator_reap_leads scope w).2.requestsSince_eq] at hq
  cases hlisting : (listClusters w).1 with
  | error e =>
    rw [hlisting, cleaningRequests, List.mem_singleton] at hq
    exact absurd (hq ▸ rfl) hreads
  | ok listing =>
    rw [hlisting, cleaningRequests, List.mem_cons, List.mem_flatMap] at hq
    rcases hq with rfl | ⟨c, hc, hq⟩
    · exact absurd rfl hreads
    · have hn := hlisted listing hlisting c (List.mem_of_mem_filter hc)
      exact ⟨listing, rfl, c, hc, hn, removesFor_of_mem_deletions hn hq⟩

/-- **Templates are read only, as long as the add-on's namespace is no cluster.**  At any hub, a
watch writes in the add-on's namespace only for a cluster of that name in scope: it stores something
there as the cluster is added, and removes something there as it is deleted.  Cleaning up does so
only if such a cluster is listed.  So a template that a plain hub keeps is there for ever, unless a
cluster of that name in scope is deleted or cleaned up. -/
theorem templates_readOnly (scope : String) (policy : SeenPolicy)
    (events : List (Except String ClusterEvent)) (w : World)
    (hnames : ∀ n, IsNamedIn (Reconciler.heard events) n → IsClusterName n)
    (hlisted : ∀ listing, (listClusters w).1 = .ok listing →
      ∀ c ∈ listing.items, IsClusterName c.name) :
    let watched := (Reconciler.run Handler.simulator { scope, policy } events w).2
    let cleaned := (reapAll listClusters Handler.simulator scope w).2
    (∀ q ∈ watched.requestsSince w, q.WritesIn addonNamespace →
      startsWith addonNamespace scope = true ∧
        ((q.method = .post ∧ .added addonNamespace ∈ Reconciler.heard events) ∨
          (q.method = .delete ∧ .deleted addonNamespace ∈ Reconciler.heard events))) ∧
    (∀ q ∈ cleaned.requestsSince w, q.WritesIn addonNamespace →
      ∃ listing, (listClusters w).1 = .ok listing ∧
        ∃ c ∈ listing.inScope scope, c.name = addonNamespace) ∧
    (w.hub.isPlain = true → ∀ o ∈ templateObjects,
      w.hub.objects.contains (templateKey o) = true →
      (¬(startsWith addonNamespace scope = true ∧
          .deleted addonNamespace ∈ Reconciler.heard events) →
        watched.hub.objects.get? (templateKey o) = w.hub.objects.get? (templateKey o)) ∧
      ((∀ listing, (listClusters w).1 = .ok listing →
          ∀ c ∈ listing.inScope scope, c.name ≠ addonNamespace) →
        cleaned.hub.objects.get? (templateKey o) = w.hub.objects.get? (templateKey o))) := by
  intro watched cleaned
  have hwatched : ∀ q ∈ watched.requestsSince w, q.WritesIn addonNamespace →
      startsWith addonNamespace scope = true ∧
        ((q.method = .post ∧ .added addonNamespace ∈ Reconciler.heard events) ∨
          (q.method = .delete ∧ .deleted addonNamespace ∈ Reconciler.heard events)) := by
    intro q hq hwrites
    obtain ⟨e, he, hallowed⟩ := exists_event_of_mem_watched hnames hq
    obtain ⟨hscope, ⟨hpost, rfl⟩ | ⟨hdelete, rfl⟩⟩ :=
      hallowed.of_writesIn (fun n hn => hnames n (isNamedIn_of_mem he hn)) hwrites
    · exact ⟨hscope, .inl ⟨hpost, he⟩⟩
    · exact ⟨hscope, .inr ⟨hdelete, he⟩⟩
  have hcleaned : ∀ q ∈ cleaned.requestsSince w, q.WritesIn addonNamespace →
      ∃ listing, (listClusters w).1 = .ok listing ∧
        ∃ c ∈ listing.inScope scope, c.name = addonNamespace := by
    intro q hq hwrites
    obtain ⟨listing, hlisting, c, hc, hn, hremoves⟩ :=
      exists_cluster_of_mem_cleaned hlisted hq hwrites.1
    exact ⟨listing, hlisting, c, hc, hremoves.space_eq hn hwrites.2⟩
  refine ⟨hwatched, hcleaned, fun hplain o ho hkey => ⟨fun hkept => ?_, fun hkept => ?_⟩⟩
  · obtain ⟨draws, hleads⟩ := Reconciler.run_leads sends_simulator { scope, policy } events w
    refine hleads.get?_templateKey hplain ho hkey fun q hq hmethod hwrites => hkept ?_
    rw [← hleads.requestsSince_eq] at hq
    obtain ⟨hscope, ⟨hpost, -⟩ | ⟨-, hdeleted⟩⟩ := hwatched q hq hwrites
    · rw [hmethod] at hpost; cases hpost
    · exact ⟨hscope, hdeleted⟩
  · have hleads := (reapAll_leads simulator_reap_leads scope w).2
    refine hleads.get?_templateKey hplain ho hkey fun q hq _ hwrites => ?_
    rw [← hleads.requestsSince_eq] at hq
    obtain ⟨listing, hlisting, c, hc, hname⟩ := hcleaned q hq hwrites
    exact hkept listing hlisting c hc hname

/-- A cluster that comes, goes and is cleaned up does no harm to the templates. -/
theorem templates_readOnly_spoke :
    let w := clusterWorld "spoke-1"
    let watched := (Reconciler.run Handler.simulator { scope := "spoke", policy := .forget }
      [.ok (.added "spoke-1"), .ok (.deleted "spoke-1")] w).2
    let cleaned := (reapAll listClusters Handler.simulator "spoke" w).2
    (∀ q ∈ watched.requestsSince w ++ cleaned.requestsSince w, ¬q.WritesIn addonNamespace) ∧
      ∀ o ∈ templateObjects, w.hub.objects.contains (templateKey o) = true →
        watched.hub.objects.get? (templateKey o) = w.hub.objects.get? (templateKey o) ∧
        cleaned.hub.objects.get? (templateKey o) = w.hub.objects.get? (templateKey o) := by
  intro w
  dsimp only
  have hn : IsClusterName "spoke-1" := by decide +kernel
  have hne : "spoke-1" ≠ addonNamespace := by decide +kernel
  have hscope : ¬startsWith addonNamespace "spoke" = true := by decide +kernel
  have hnames : ∀ n, IsNamedIn (Reconciler.heard
      [.ok (.added "spoke-1"), .ok (.deleted "spoke-1")]) n → IsClusterName n := by
    simp [Reconciler.heard, IsNamedIn, hn]
  have hclusters : ∀ listing, (listClusters w).1 = .ok listing →
      ∀ c ∈ listing.items, c = bareCluster "spoke-1" :=
    fun _ h _ => clusterHub.eq_bareCluster hn.slash_notMem rfl h
  have hother : ∀ listing, (listClusters w).1 = .ok listing →
      ∀ c ∈ listing.inScope "spoke", c.name ≠ addonNamespace := by
    intro listing h c hc
    rw [hclusters listing h c (List.mem_of_mem_filter hc)]
    exact hne
  obtain ⟨hwatched, hcleaned, htemplates⟩ := templates_readOnly "spoke" .forget
    [.ok (.added "spoke-1"), .ok (.deleted "spoke-1")] w hnames fun listing h c hc => by
      rw [hclusters listing h c hc]
      exact hn
  refine ⟨fun q hq hwrites => ?_, fun o ho hkey => ?_⟩
  · rcases List.mem_append.1 hq with hq | hq
    · exact hscope (hwatched q hq hwrites).1
    · obtain ⟨listing, h, c, hc, hname⟩ := hcleaned q hq hwrites
      exact hother listing h c hc hname
  · obtain ⟨hkept, hkept'⟩ := htemplates (clusterHub.isPlain "spoke-1") o ho hkey
    exact ⟨hkept fun h => hscope h.1, hkept' hother⟩

/-- If the add-on's namespace is in scope and is deleted as a cluster, all templates go. -/
lemma contains_templateKey_of_deleted (scope : String) (policy : SeenPolicy)
    (hscope : startsWith addonNamespace scope = true) (hplain : w.hub.isPlain = true)
    {o : Kind × String} (ho : o ∈ templateObjects) :
    (Reconciler.run Handler.simulator { scope, policy }
      ([.deleted addonNamespace].map .ok) w).2.hub.objects.contains (templateKey o) = false := by
  have hcall : Reconciler.call? { scope, policy } (.deleted addonNamespace)
      = some (.reap addonNamespace) := if_pos hscope
  have haddress : Addressable addonNamespace := by decide +kernel
  have hkey : templateKey o ∈ clusterKeys addonNamespace :=
    List.mem_map_of_mem (List.mem_cons_of_mem _ ho)
  have hplain' : (Reconciler.herald (.deleted addonNamespace)
      (Reconciler.announce { scope, policy } w).2).2.hub.isPlain = true := by
    rw [hub_herald]
    exact hplain
  have hreap := (reap_plain isClusterName_addonNamespace haddress hplain').2
  rw [hub_run, heard_map_ok, handleAll_singleton_snd, hub_handle_of_reap hcall, hreap,
    KeyMap.contains_eq_false_iff, Hub.get?_without, if_pos hkey]

/-- **The add-on's namespace may be a cluster.**  With an empty scope, a watch in which it is
deleted writes in it, and removes templates that were there. -/
theorem not_templates_readOnly :
    (¬∀ (scope : String) (policy : SeenPolicy) (events : List (Except String ClusterEvent))
      (w : World), (∀ n, IsNamedIn (Reconciler.heard events) n → IsClusterName n) →
      ∀ q ∈ (Reconciler.run Handler.simulator { scope, policy } events w).2.requestsSince w,
        ¬q.WritesIn addonNamespace) ∧
    ¬∀ (scope : String) (policy : SeenPolicy) (events : List (Except String ClusterEvent))
      (w : World), (∀ n, IsNamedIn (Reconciler.heard events) n → IsClusterName n) →
      w.hub.isPlain = true → ∀ o ∈ templateObjects,
        w.hub.objects.contains (templateKey o) = true →
        (Reconciler.run Handler.simulator { scope, policy } events w).2.hub.objects.contains
          (templateKey o) = true := by
  generalize hevents : [ClusterEvent.deleted addonNamespace].map
    (Except.ok : ClusterEvent → Except String ClusterEvent) = events
  have hnames : ∀ n, IsNamedIn (Reconciler.heard events) n → IsClusterName n := by
    rw [← hevents, heard_map_ok]
    simp [IsNamedIn, isClusterName_addonNamespace]
  have ho : (Kind.deployment, collectorName) ∈ templateObjects := List.mem_cons_self
  have hthere := readyHub.templatesReady.contains ho
  have hgone := contains_templateKey_of_deleted "" .forget rfl (w := readyWorld)
    readyHub.isPlain ho
  rw [hevents] at hgone
  refine ⟨fun hlaw => ?_, fun hlaw => ?_⟩
  · obtain ⟨draws, hleads⟩ :=
      Reconciler.run_leads sends_simulator { scope := "", policy := .forget } events readyWorld
    have hwrites := hlaw "" .forget events readyWorld hnames
    rw [hleads.requestsSince_eq] at hwrites
    have hkept := hleads.get?_templateKey readyHub.isPlain ho hthere fun q hq _ => hwrites q hq
    rw [KeyMap.contains, hkept] at hgone
    exact absurd (hthere.symm.trans hgone) (by decide)
  · have hkept := hlaw "" .forget events readyWorld hnames readyHub.isPlain _ ho hthere
    exact absurd (hkept.symm.trans hgone) (by decide)

end SpokeSim
