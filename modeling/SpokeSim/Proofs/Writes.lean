import SpokeSim.Proofs.Requests
import SpokeSim.Proofs.Teardown

/-!
# Where the simulator writes

Templates may say anything about themselves, and answers may be anything.  Still each write is for
one cluster, and tells so.

**One write.**  `Request.StoresFor` and `Request.RemovesFor` are the writes for a cluster: they go
to the cluster's namespace, which a stored object names as its own, or they are about its role
binding.  Provisioning sends nothing else but readings (`sends_provision`), and reaping nothing else
at all (`removesFor_of_mem_deletions`).

**A run.**  `Reconciler.asked` splits the requests of a run by the events at which they are made.
So each write is traced to an event in scope that names its cluster (`writes_inScope`).
-/

namespace SpokeSim

variable {n : String} {q : Request} {w w' : World} {scope : String} {e : ClusterEvent}
  {es : List ClusterEvent}

/-! ## Namespaces of objects -/

/-- The namespace that a document gives its object. -/
def spaceIn? (j : Json) : Option String :=
  ((j.member? "metadata").bind (·.member? "namespace")).bind Json.text?

lemma Kind.spaceIn?_encode {k : Kind} (h : k.isStored = true) (o : k.Object) :
    spaceIn? (k.codec.encode o) = (k.metadata o).space := by
  rw [spaceIn?, Kind.member?_encode h, Option.bind_some, member?_namespace]
  cases (k.metadata o).space <;> rfl

/-! ## Writes for a cluster -/

/-- A request stores an object for a cluster: a copy of a template, in the cluster's namespace and
naming it, or the cluster's role binding. -/
inductive Request.StoresFor (n : String) : Request → Prop
  | copy {o : Kind × String} {j : Json} (ho : o ∈ templateObjects) (hspace : spaceIn? j = some n) :
    StoresFor n { method := .post, target := { path := o.1.collection n }, body := some j }
  | binding {j : Json} (hname : Hub.nameOf j = bindingName n) :
    StoresFor n
      { method := .post
        target := { path := Kind.clusterRoleBinding.collection n }
        body := some j }

/-- A request removes an object of a cluster, one in its namespace or its role binding. -/
inductive Request.RemovesFor (n : String) : Request → Prop
  | copy {o : Kind × String} (ho : o ∈ templateObjects) :
    RemovesFor n
      { method := .delete, target := { path := objectKey n o }, body := some (.obj []) }
  | binding :
    RemovesFor n
      { method := .delete
        target := { path := objectKey n (.clusterRoleBinding, bindingName n) }
        body := some (.obj []) }

lemma Request.StoresFor.method_eq (hq : q.StoresFor n) : q.method = .post := by cases hq <;> rfl

lemma Request.RemovesFor.method_eq (hq : q.RemovesFor n) : q.method = .delete := by
  cases hq <;> rfl

/-! ### Provisioning -/

namespace ProvisionStep

variable {cluster : String} {id : ClusterId} {h : Hub} {s : ProvisionStep}

/-- The request that stores the object of a step is one for the cluster. -/
lemma storesFor_of_posting? (hn : IsClusterName cluster) {o : s.kind.Object}
    (ho : (s.source cluster id).object? h = some o)
    (hq : posting? s.kind (s.space cluster) o = some q) : q.StoresFor cluster := by
  rw [posting?, collection_space, request?, Option.map_eq_some_iff] at hq
  obtain ⟨target, htarget, rfl⟩ := hq
  obtain hparse | hparse := parse_collection_cases hn s
  · rw [hparse] at htarget
    obtain rfl := Option.some.inj htarget
    cases hsource : s.source cluster id with
    | template name make? =>
      rw [hsource, Source.object?, Option.bind_eq_some_iff] at ho
      obtain ⟨template, -, hcopy⟩ := ho
      refine .copy (mem_templateObjects hsource) ?_
      rw [Kind.spaceIn?_encode s.isStored_kind, space_make? hsource hcopy]
    | direct made? =>
      cases s with
      | roleBinding =>
        refine .binding ?_
        rw [Kind.nameOf_encode rfl]
        exact congrArg (Option.getD · "") (name_roleBinding? ho)
      | caBundle | signerCert | managedCert | serviceAccount | deployment => cases hsource
  · rw [hparse] at htarget; cases htarget

/-- A step reads a template, and stores an object for the cluster. -/
lemma reads_or_storesFor (hn : IsClusterName cluster) (hq : q ∈ s.requests cluster id h) :
    q.Reads ∨ q.StoresFor cluster := by
  rw [requests, Source.requests, List.mem_append, Option.mem_toList, Option.bind_eq_some_iff]
    at hq
  rcases hq with hq | ⟨o, ho, hq⟩
  · left
    exact Source.reads_of_mem hq
  · exact .inr (storesFor_of_posting? hn ho hq)

lemma reads_or_storesFor_of_mem (hn : IsClusterName cluster) {ss : List ProvisionStep}
    (hq : q ∈ requestsOf cluster id h ss) : q.Reads ∨ q.StoresFor cluster := by
  induction ss generalizing h with
  | nil => cases hq
  | cons s ss ih =>
    rw [requestsOf, List.mem_append] at hq
    exact hq.elim (reads_or_storesFor hn) ih

end ProvisionStep

/-- **Provisioning reads, and stores objects for its cluster**, whatever the hub answers. -/
lemma sends_provision (hn : IsClusterName n) :
    Sends (fun q => q.Reads ∨ q.StoresFor n) (provision n) := by
  intro w
  obtain ⟨taken, left, draws, -, hleads, -⟩ := provision_ends n w
  exact ⟨_, draws, hleads, fun q => ProvisionStep.reads_or_storesFor_of_mem hn⟩

/-! ### Reaping -/

/-- **Reaping removes objects of its cluster**, as far as their keys are short enough. -/
lemma exists_object_of_mem_deletions (hn : IsClusterName n) (hq : q ∈ deletions n) :
    ∃ o ∈ clusterObjects n, isRemovable (objectKey n o) = true ∧
      q = { method := .delete, target := { path := objectKey n o }, body := some (.obj []) } := by
  obtain ⟨o, ho, hq⟩ := List.mem_filterMap.1 hq
  have hpath := isPath_objectKey hn ho
  refine ⟨o, ho, ?_⟩
  by_cases hsize : (objectKey n o).utf8ByteSize < Target.longest
  · rw [deletion?, request?_of_parse (Target.parse_path_open hpath hsize)] at hq
    exact ⟨decide_eq_true hsize, (Option.some.inj hq).symm⟩
  · have hlong : Target.longest < (objectKey n o ++ "?").utf8ByteSize := by
      rw [String.utf8ByteSize_append]
      exact Nat.lt_succ_of_le (Nat.le_of_not_lt hsize)
    rw [deletion?, request?_of_fault (Target.parse_tooLong hlong)] at hq
    cases hq

lemma path_mem_removableKeys (hn : IsClusterName n) (hq : q ∈ deletions n) :
    q.target.path ∈ removableKeys n := by
  obtain ⟨o, ho, hremovable, rfl⟩ := exists_object_of_mem_deletions hn hq
  exact List.mem_filter.2 ⟨List.mem_map_of_mem ho, hremovable⟩

lemma removesFor_of_mem_deletions (hn : IsClusterName n) (hq : q ∈ deletions n) :
    q.RemovesFor n := by
  obtain ⟨o, ho, -, rfl⟩ := exists_object_of_mem_deletions hn hq
  rw [clusterObjects_eq, List.mem_cons] at ho
  rcases ho with rfl | ho
  · exact .binding
  · exact .copy ho

lemma sends_reap (hn : IsClusterName n) :
    Sends (Request.RemovesFor n) (Handler.simulator.reap n) :=
  .of_leads (simulator_reap_leads n) fun _ => removesFor_of_mem_deletions hn

/-! ## A run -/

lemma isNamedIn_of_mem (he : e ∈ es) (hn : e.names n = true) : IsNamedIn es n := by
  cases e with
  | added cluster =>
    obtain rfl : cluster = n := of_decide_eq_true hn
    exact .inl he
  | deleted cluster =>
    obtain rfl : cluster = n := of_decide_eq_true hn
    exact .inr he
  | other => cases hn

/-- What may be sent while an event is handled: readings, and writes for the cluster that has come
or gone, if it is in scope. -/
inductive Request.AllowedAt (scope : String) : ClusterEvent → Request → Prop
  | reads {e : ClusterEvent} {q : Request} (hq : q.Reads) : AllowedAt scope e q
  | stores {n : String} {q : Request} (hscope : startsWith n scope = true) (hq : q.StoresFor n) :
    AllowedAt scope (.added n) q
  | removes {n : String} {q : Request} (hscope : startsWith n scope = true)
    (hq : q.RemovesFor n) : AllowedAt scope (.deleted n) q

namespace Reconciler

variable {r : Reconciler}

/-- **At an event the simulator sends what is allowed.** -/
lemma sends_handle_simulator (hnames : ∀ n, e.names n = true → IsClusterName n) :
    Sends (Request.AllowedAt r.scope e) (r.handle Handler.simulator e) := by
  refine sends_handle (fun n hcall => ?_) fun n hcall => ?_
  · obtain ⟨rfl, -, hcovers⟩ := call?_eq_provision_iff.1 hcall
    have hn := hnames n (names_of_call? hcall)
    exact (sends_provision hn).mono fun q hq => hq.elim .reads (.stores hcovers)
  · obtain ⟨rfl, hcovers⟩ := call?_eq_reap_iff.1 hcall
    have hn := hnames n (names_of_call? hcall)
    exact (sends_reap hn).mono fun q hq => .removes hcovers hq

/-- The requests that are made at each of some events. -/
def asked (h : Handler World) :
    Reconciler → List ClusterEvent → World → List (ClusterEvent × List Request)
  | _, [], _ => []
  | r, e :: es, w =>
    let w' := (r.handle h e w).2
    (e, w'.requestsSince w) :: asked h (r.next e) es w'

lemma map_fst_asked (h : Handler World) (r : Reconciler) (es : List ClusterEvent) (w : World) :
    (asked h r es w).map Prod.fst = es := by
  induction es generalizing r w with
  | nil => rfl
  | cons e es ih => rw [asked, List.map_cons, ih]

/-- Each part has been asked by a reconciler of the same scope. -/
lemma exists_handle_of_mem_asked {h : Handler World} {qs : List Request}
    (hqs : (e, qs) ∈ asked h r es w) :
    e ∈ es ∧ ∃ r' w', r'.scope = r.scope ∧ qs = (handle h r' e w').2.requestsSince w' := by
  induction es generalizing r w with
  | nil => cases hqs
  | cons e' es ih =>
    rw [asked, List.mem_cons, Prod.mk.injEq] at hqs
    obtain ⟨rfl, rfl⟩ | hqs := hqs
    · exact ⟨List.mem_cons_self, r, w, rfl, rfl⟩
    · obtain ⟨he, r', w', hscope, rfl⟩ := ih hqs
      exact ⟨List.mem_cons_of_mem _ he, r', w', hscope.trans (scope_next r e'), rfl⟩

section

variable {h : Handler World}

/-- Handling events asks for these parts and nothing else. -/
lemma handleAll_leads (hsends : ∀ r e, Sends (fun _ => True) (handle h r e)) (r : Reconciler)
    (es : List ClusterEvent) (w : World) :
    ∃ draws, w.Leads ((asked h r es w).flatMap Prod.snd) draws (r.handleAll h es w).2 := by
  induction es generalizing r w with
  | nil => exact ⟨0, .refl w⟩
  | cons e es ih =>
    obtain ⟨qs, draws, hfirst, -⟩ := hsends r e w
    obtain ⟨draws', hrest⟩ := ih (r.next e) (r.handle h e w).2
    refine ⟨draws + draws', ?_⟩
    rw [handleAll, bind_apply, handle_fst, asked, List.flatMap_cons, hfirst.requestsSince_eq]
    exact hfirst.trans hrest

lemma close_leads (end? : Option String) (w : World) : w.Leads [] 0 (close end? w).2 := by
  cases end? with
  | none => exact .log ..
  | some text => exact .log ..

/-- So does a watch, by the events before the first error. -/
lemma run_leads (hsends : ∀ r e, Sends (fun _ => True) (handle h r e)) (r : Reconciler)
    (events : List (Except String ClusterEvent)) (w : World) :
    ∃ draws, w.Leads ((asked h r (heard events) (r.announce w).2).flatMap Prod.snd) draws
      (r.run h events w).2 := by
  have hannounce : w.Leads [] 0 (r.announce w).2 := .log ..
  obtain ⟨draws, hevents⟩ := handleAll_leads hsends r (heard events) (r.announce w).2
  have hclose := close_leads (firstError? events)
    (r.handleAll h (heard events) (r.announce w).2).2
  refine ⟨draws, ?_⟩
  rw [run, bind_apply, consume_eq]
  simpa using (hannounce.trans hevents).trans hclose

end

end Reconciler

lemma sends_simulator (r : Reconciler) (e : ClusterEvent) :
    Sends (fun _ => True) (r.handle Handler.simulator e) :=
  Reconciler.sends_handle (fun n _ => sends_simulator_provision n) fun n _ => sends_simulator_reap n

lemma Reconciler.allowedAt_of_mem_asked {r : Reconciler}
    (hnames : ∀ n, IsNamedIn es n → IsClusterName n) {qs : List Request}
    (hqs : (e, qs) ∈ r.asked Handler.simulator es w) (hq : q ∈ qs) : q.AllowedAt r.scope e := by
  obtain ⟨he, r', w', hscope, rfl⟩ := exists_handle_of_mem_asked hqs
  have hsends := sends_handle_simulator (r := r') fun n hn => hnames n (isNamedIn_of_mem he hn)
  rw [hscope] at hsends
  exact hsends.requestsSince w' q hq

/-- **Writes never leave the scope.**  At any hub, whatever it answers, and for any stream of events
about clusters with names: a watch sends readings and writes for the cluster that has just come or
gone, the latter only if it is in scope, and stores only as the cluster comes and removes only as it
goes.  Cleaning up sends a request for the list, and then for each listed cluster in scope the
removals of its objects. -/
theorem writes_inScope (scope : String) (policy : SeenPolicy)
    (events : List (Except String ClusterEvent)) (w : World)
    (hnames : ∀ n, IsNamedIn (Reconciler.heard events) n → IsClusterName n)
    (hlisted : ∀ listing, (listClusters w).1 = .ok listing →
      ∀ c ∈ listing.items, IsClusterName c.name) :
    let r : Reconciler := { scope, policy }
    let watched := (r.run Handler.simulator events w).2
    let cleaned := (reapAll listClusters Handler.simulator scope w).2
    let asked := r.asked Handler.simulator (Reconciler.heard events) (r.announce w).2
    (asked.map Prod.fst = Reconciler.heard events ∧
      watched.requestsSince w = asked.flatMap Prod.snd ∧
      ∀ e qs, (e, qs) ∈ asked → ∀ q ∈ qs, q.AllowedAt scope e) ∧
    cleaned.requestsSince w = cleaningRequests scope (listClusters w).1 ∧
    ∀ listing, (listClusters w).1 = .ok listing → ∀ c ∈ listing.inScope scope,
      startsWith c.name scope = true ∧ ∀ q ∈ deletions c.name, q.RemovesFor c.name := by
  intro r watched cleaned asked
  obtain ⟨draws, hwatched⟩ := r.run_leads sends_simulator events w
  have hcleaned := (reapAll_leads simulator_reap_leads scope w).2
  refine ⟨⟨r.map_fst_asked .., hwatched.requestsSince_eq, fun e qs hqs q hq => ?_⟩,
    hcleaned.requestsSince_eq, fun listing hlisting c hc => ?_⟩
  · exact Reconciler.allowedAt_of_mem_asked hnames hqs hq
  · obtain ⟨hmem, hcovers⟩ := List.mem_filter.1 hc
    have hn := hlisted listing hlisting c hmem
    exact ⟨hcovers, fun q => removesFor_of_mem_deletions hn⟩

/-- Of a cluster that comes and goes, and is then cleaned up. -/
theorem writes_inScope_spoke :
    let r : Reconciler := { scope := "spoke", policy := .forget }
    let events : List ClusterEvent := [.added "spoke-1", .deleted "spoke-1"]
    let w := clusterWorld "spoke-1"
    let cleaned := (reapAll listClusters Handler.simulator "spoke" w).2
    let asked := r.asked Handler.simulator events (r.announce w).2
    asked.map Prod.fst = events ∧
      (r.run Handler.simulator (events.map .ok) w).2.requestsSince w = asked.flatMap Prod.snd ∧
      (∀ e qs, (e, qs) ∈ asked → ∀ q ∈ qs, q.AllowedAt "spoke" e) ∧
      cleaned.requestsSince w = listRequest :: deletions "spoke-1" ∧
      ∀ q ∈ deletions "spoke-1", q.RemovesFor "spoke-1" := by
  intro r events w cleaned asked
  have hn : IsClusterName "spoke-1" := by decide +kernel
  have hlisting := clusterHub.listClusters_eq (w := w) hn.slash_notMem rfl
  have hchosen : [bareCluster "spoke-1"].filter (fun c => startsWith c.name "spoke")
      = [bareCluster "spoke-1"] :=
    List.filter_cons_of_pos (by decide +kernel)
  have hnames : ∀ n, IsNamedIn (Reconciler.heard (events.map .ok)) n → IsClusterName n := by
    rw [heard_map_ok]
    simp [events, IsNamedIn, hn]
  have hlisted : ∀ listing, (listClusters w).1 = .ok listing →
      ∀ c ∈ listing.items, IsClusterName c.name := by
    intro listing h c hc
    rw [clusterHub.eq_bareCluster hn.slash_notMem rfl h hc]
    exact hn
  obtain ⟨⟨hevents, hwatched, hasked⟩, hcleaned, hremoves⟩ :=
    writes_inScope "spoke" .forget (events.map .ok) w hnames hlisted
  rw [heard_map_ok] at hevents hwatched hasked
  refine ⟨hevents, hwatched, hasked, ?_, ?_⟩
  · rw [hcleaned, hlisting, cleaningRequests, Api.Listing.inScope, hchosen]
    simp
  · refine (hremoves _ hlisting (bareCluster "spoke-1") ?_).2
    rw [Api.Listing.inScope, hchosen]
    exact List.mem_singleton_self _

end SpokeSim
