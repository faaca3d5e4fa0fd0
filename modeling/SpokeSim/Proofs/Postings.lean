import SpokeSim.Proofs.Requests
import SpokeSim.Proofs.Simulation

/-!
# What provisioning stores

The body that a step posts is told from what the step has read: the first four steps store a copy of
their template, the fifth a deployment that simulates the cluster, and the last a role binding that
has nothing to do with the hub (`ProvisionStep.Posts`).

**One step.**  `Stage.isTargeted_of`: a step reads, and if that gives a body it posts this body,
once and to the collection of its kind, and nothing else.

**All steps.**  `provision_posts`: the exchanges of provisioning fall into such stages, one for each
step that is taken.
-/

namespace SpokeSim

/-! ## Bodies -/

/-- **A body is a copy of a template**: the one reading has given a template, and the body is
written of an object that is the template's copy in the cluster's namespace. -/
def IsCopyOf (k : Kind) (name : String) (disowned : Bool) (cluster : String)
    (reads : List (Request × Answer)) (body : Json) : Prop :=
  ∃ a template copy, reads = [(reading k name, a)] ∧ a.object? k = some template ∧
    k.IsCopy disowned cluster template copy ∧ body = k.codec.encode copy ∧
    (k.codec.encode template).IsCopy disowned cluster body

/-- **A body simulates a cluster**: the one reading has given the collector's deployment, and the
body is written of the deployment that is made from it, which is moved to the cluster's namespace
without owners. -/
def IsSimulationOf (cluster : String) (id : ClusterId) (reads : List (Request × Answer))
    (body : Json) : Prop :=
  ∃ a template d, reads = [(reading .deployment collectorName, a)] ∧
    a.object? .deployment = some template ∧ Deployment.simulate template cluster id = .ok d ∧
    template.metadata.IsMoved true cluster d.metadata ∧
    body = Kind.deployment.codec.encode d ∧
    (Kind.deployment.codec.encode template).HasMoved true cluster body

/-- **The body that a step posts**, given what it has read. -/
def ProvisionStep.Posts (cluster : String) (id : ClusterId) (reads : List (Request × Answer))
    (body : Json) : ProvisionStep → Prop
  | caBundle => IsCopyOf .configMap caBundleName false cluster reads body
  | signerCert => IsCopyOf .secret signerCertName false cluster reads body
  | managedCert => IsCopyOf .secret managedCertName true cluster reads body
  | serviceAccount => IsCopyOf .serviceAccount endpointAccountName true cluster reads body
  | deployment => IsSimulationOf cluster id reads body
  | roleBinding =>
    reads = [] ∧ ∃ b, roleBinding? cluster = some b ∧
      body = Kind.clusterRoleBinding.codec.encode b

section

variable {cluster : String} {id : ClusterId} {h : Hub} {body : Json}

/-- The copies of a template are what its source gives. -/
lemma isCopyOf_iff {k : Kind} {name : String} {disowned : Bool} (hk : k.isStored = true) :
    IsCopyOf k name disowned cluster (h.answered [reading k name]) body ↔
      ∃ o, (Source.template name (some ∘ k.clone disowned cluster)).object? h = some o ∧
        body = k.codec.encode o := by
  simp only [IsCopyOf, Source.object?, Hub.answered, Option.bind_eq_some_iff]
  constructor
  · rintro ⟨a, template, copy, ha, htemplate, hcopy, hbody, -⟩
    obtain rfl : (h.answer (reading k name)).1 = a := by simpa using ha
    obtain rfl := Kind.isCopy_iff.1 hcopy
    exact ⟨_, ⟨template, htemplate, rfl⟩, hbody⟩
  · rintro ⟨copy, ⟨template, htemplate, hcopy⟩, rfl⟩
    have hcopy : k.IsCopy disowned cluster template copy :=
      Kind.isCopy_iff.2 (Option.some.inj hcopy).symm
    exact ⟨_, template, copy, rfl, htemplate, hcopy, rfl, hcopy.encode hk⟩

lemma isSimulationOf_iff :
    IsSimulationOf cluster id (h.answered [reading .deployment collectorName]) body ↔
      ∃ d, (Source.template (k := .deployment) collectorName fun d =>
          (d.simulate cluster id).toOption).object? h = some d ∧
        body = Kind.deployment.codec.encode d := by
  simp only [IsSimulationOf, Source.object?, Hub.answered, Option.bind_eq_some_iff]
  constructor
  · rintro ⟨a, template, d, ha, htemplate, hsimulate, -, hbody, -⟩
    obtain rfl : (h.answer (reading .deployment collectorName)).1 = a := by simpa using ha
    exact ⟨d, ⟨template, htemplate, by rw [hsimulate]; rfl⟩, hbody⟩
  · rintro ⟨d, ⟨template, htemplate, hmake⟩, rfl⟩
    have hsimulate : Deployment.simulate template cluster id = .ok d := by
      cases hsimulate : Deployment.simulate template cluster id with
      | error f => rw [hsimulate] at hmake; cases hmake
      | ok d' => rw [hsimulate] at hmake; rw [Option.some.inj hmake]
    have hmoved := (Deployment.simulate_eq_ok_iff.1 hsimulate).metadata
    exact ⟨_, template, d, rfl, htemplate, hsimulate, hmoved, rfl, Kind.hasMoved_encode rfl hmoved⟩

/-- **What a step posts** is written of the object of its source. -/
lemma ProvisionStep.posts_iff (s : ProvisionStep) :
    s.Posts cluster id (h.answered (s.source cluster id).reads) body ↔
      ∃ o, (s.source cluster id).object? h = some o ∧ body = s.kind.codec.encode o := by
  cases s with
  | caBundle | signerCert | managedCert | serviceAccount => exact isCopyOf_iff rfl
  | deployment => exact isSimulationOf_iff
  | roleBinding => exact and_iff_right rfl

end

/-! ## Stages -/

/-- What is exchanged with a hub in one step: its readings, and what it posts. -/
structure Stage where
  step : ProvisionStep
  reads : List (Request × Answer)
  posts : List (Request × Answer)

namespace Stage

/-- The exchanges of a stage. -/
def exchanges (t : Stage) : List (Request × Answer) := t.reads ++ t.posts

/-- The stage of a step at a hub. -/
def of (cluster : String) (id : ClusterId) (h : Hub) (s : ProvisionStep) : Stage where
  step := s
  reads := h.answered (s.source cluster id).reads
  posts := (h.after (s.source cluster id).reads).answered
    (((s.source cluster id).object? h).bind (posting? s.kind (s.space cluster))).toList

/-- **A stage is as its step demands.**  It reads the template of the step, if there is one.  If
that gives a body, then it is posted, unless the collection has no address; and what is posted at
all is such a body. -/
structure IsTargeted (cluster : String) (id : ClusterId) (t : Stage) : Prop where
  reads : t.reads.map Prod.fst = (t.step.source cluster id).reads
  posted : ∀ body, t.step.Posts cluster id t.reads body →
    t.posts.map Prod.fst =
      (request? .post (t.step.kind.collection (t.step.space cluster) ++ "?") (some body)).toList
  only : ∀ e ∈ t.posts, e.1.method = .post ∧
    ∃ body, e.1.body = some body ∧ t.step.Posts cluster id t.reads body

variable {cluster : String} {id : ClusterId}

lemma exchanges_of (h : Hub) (s : ProvisionStep) :
    (of cluster id h s).exchanges = h.answered (s.requests cluster id h) :=
  (Hub.answered_append ..).symm

/-- **One step** exchanges what it demands. -/
lemma isTargeted_of (h : Hub) (s : ProvisionStep) : (of cluster id h s).IsTargeted cluster id where
  reads := Hub.map_fst_answered ..
  posted body hbody := by
    obtain ⟨o, ho, rfl⟩ := s.posts_iff.1 hbody
    rw [of, ho, Hub.map_fst_answered]
    rfl
  only e he := by
    have hq := Option.mem_toList.1 (Hub.mem_of_mem_answered he)
    obtain ⟨o, ho, hposting⟩ := Option.bind_eq_some_iff.1 hq
    exact ⟨method_of_request? hposting, _, body_of_request? hposting, s.posts_iff.2 ⟨o, ho, rfl⟩⟩

/-- The stages of steps that are taken one after the other. -/
def all (cluster : String) (id : ClusterId) : Hub → List ProvisionStep → List Stage
  | _, [] => []
  | h, s :: ss => of cluster id h s :: all cluster id (h.after (s.requests cluster id h)) ss

lemma map_step_all (h : Hub) (ss : List ProvisionStep) :
    (all cluster id h ss).map step = ss := by
  induction ss generalizing h with
  | nil => rfl
  | cons s ss ih => rw [all, List.map_cons, ih]; rfl

lemma flatMap_exchanges_all (h : Hub) (ss : List ProvisionStep) :
    (all cluster id h ss).flatMap exchanges
      = h.answered (ProvisionStep.requestsOf cluster id h ss) := by
  induction ss generalizing h with
  | nil => rfl
  | cons s ss ih =>
    rw [all, List.flatMap_cons, exchanges_of, ih, ProvisionStep.requestsOf, Hub.answered_append]

lemma isTargeted_of_mem_all {h : Hub} {ss : List ProvisionStep} {t : Stage}
    (ht : t ∈ all cluster id h ss) : t.IsTargeted cluster id := by
  induction ss generalizing h with
  | nil => cases ht
  | cons s ss ih =>
    obtain rfl | ht := List.mem_cons.1 ht
    · exact isTargeted_of h s
    · exact ih ht

end Stage

/-- **What provisioning posts**, at any hub.  What is exchanged falls into stages, one for each step
that is taken: these are all six if provisioning succeeds, and otherwise those up to the one that
the failure names.  Each stage is as its step demands: what is posted is written of the re-targeted
template that the step has read, or of the role binding. -/
theorem provision_posts (cluster : String) (w : World) :
    let steps : List ProvisionStep :=
      [.caBundle, .signerCert, .managedCert, .serviceAccount, .deployment, .roleBinding]
    ∃ stages : List Stage,
      ((provision cluster w).1 = .ok () ∧ stages.map Stage.step = steps ∨
        ∃ done s left, steps = done ++ s :: left ∧
          (provision cluster w).1 = .error (.provision s) ∧
          stages.map Stage.step = done ++ [s]) ∧
      (provision cluster w).2.exchanges = w.exchanges ++ stages.flatMap Stage.exchanges ∧
      ∀ t ∈ stages, t.IsTargeted cluster (w.ids w.drawn) := by
  intro steps
  obtain ⟨taken, left, draws, hall, hleads, hends⟩ := provision_ends cluster w
  have hall : steps = taken ++ left := hall
  refine ⟨Stage.all cluster (w.ids w.drawn) w.hub taken, ?steps, ?exchanges,
    fun t => Stage.isTargeted_of_mem_all⟩
  case steps =>
    rw [Stage.map_step_all]
    obtain ⟨rfl, -, hresult⟩ | ⟨done, s, rfl, -, -, hresult⟩ := hends
    · exact .inl ⟨hresult, by rw [hall, List.append_nil]⟩
    · exact .inr ⟨done, s, left, by rw [hall, List.append_assoc]; rfl, hresult, rfl⟩
  case exchanges => rw [hleads.exchanges, Stage.flatMap_exchanges_all]

end SpokeSim
