import SpokeSim.Addon
import SpokeSim.Proofs.Listing
import SpokeSim.Proofs.Reaping
import SpokeSim.Proofs.WatchTrace

/-!
# What an action may ask of a hub

Which requests an action makes is told without its answers in two ways: exactly, by `World.Leads`,
or by a sort to which all of them belong.

* `Sends`: an action makes only requests of one sort, at any world.  There is one law for each way
  to put an action together, so that an action is gone through once, from its parts.
* `World.requestsSince`: the requests that have been made from one world to another.  What an action
  sends is read off from them (`Sends.requestsSince`).
* `Reconciler.sends_handle`: at an event a reconciler sends what its handler sends at the call.
* `reapAll_leads`: cleaning up asks for the list, and then for the removal of all objects of the
  listed clusters in scope, whatever the hub answers to that.
-/

namespace SpokeSim

variable {α β : Type} {p p' : Request → Prop} {w w' : World}

/-! ## Requests from one world to another -/

lemma Hub.map_fst_answered (h : Hub) (qs : List Request) : (h.answered qs).map Prod.fst = qs := by
  induction qs generalizing h with
  | nil => rfl
  | cons q qs ih => rw [answered, List.map_cons, ih]

lemma Hub.mem_of_mem_answered {h : Hub} {qs : List Request} {e : Request × Answer}
    (he : e ∈ h.answered qs) : e.1 ∈ qs := by
  rw [← h.map_fst_answered qs]
  exact List.mem_map_of_mem he

/-- The requests that have been made since an earlier world. -/
def World.requestsSince (w' w : World) : List Request :=
  (w'.exchanges.drop w.exchanges.length).map Prod.fst

namespace World.Leads

variable {qs : List Request} {draws : Nat}

lemma requestsSince_eq (h : w.Leads qs draws w') : w'.requestsSince w = qs := by
  rw [requestsSince, h.exchanges, List.drop_left, Hub.map_fst_answered]

/-- To know what has been asked is to know the exchanges. -/
lemma exchanges_eq (h : w.Leads qs draws w') (hnew : w.exchanges = []) :
    w'.exchanges = w.hub.answered qs := by
  rw [h.exchanges, hnew, List.nil_append]

/-- A span around an action leads nowhere else. -/
lemma inSpan {span : Span} {act : Sim α} (h : w.Leads qs draws (act w).2) :
    w.Leads qs draws (SpokeSim.inSpan span act w).2 :=
  ⟨h.hub, h.exchanges, h.ids, h.drawn⟩

end World.Leads

/-- An action makes only requests of one sort, at any world. -/
def Sends (p : Request → Prop) (act : Sim α) : Prop :=
  ∀ w : World, ∃ qs draws, w.Leads qs draws (act w).2 ∧ ∀ q ∈ qs, p q

namespace Sends

variable {act : Sim α} {next : α → Sim β}

lemma of_leads {qs : List Request} (h : ∀ w : World, w.Leads qs 0 (act w).2) (hqs : ∀ q ∈ qs, p q) :
    Sends p act :=
  fun w => ⟨qs, 0, h w, hqs⟩

protected lemma pure (a : α) : Sends p (pure a : Sim α) :=
  of_leads (fun w => .refl w) (by simp)

protected lemma bind (h : Sends p act) (hnext : ∀ a, Sends p (next a)) :
    Sends p (act >>= next) := by
  intro w
  obtain ⟨qs, draws, hleads, hqs⟩ := h w
  obtain ⟨qs', draws', hleads', hqs'⟩ := hnext (act w).1 (act w).2
  refine ⟨qs ++ qs', draws + draws', hleads.trans hleads', fun q hq => ?_⟩
  exact (List.mem_append.1 hq).elim (hqs q) (hqs' q)

lemma mono (h : Sends p act) (hp : ∀ q, p q → p' q) : Sends p' act := by
  intro w
  obtain ⟨qs, draws, hleads, hqs⟩ := h w
  exact ⟨qs, draws, hleads, fun q hq => hp q (hqs q hq)⟩

protected lemma log (level : Level) (component : Component) (message : String) :
    Sends p (log level component message) :=
  of_leads (fun w => .log w level component message) (by simp)

lemma inSpan {span : Span} (h : Sends p act) : Sends p (SpokeSim.inSpan span act) := by
  intro w
  obtain ⟨qs, draws, hleads, hqs⟩ := h w
  exact ⟨qs, draws, hleads.inSpan, hqs⟩

lemma call {method : Method} {uri : String} {body : Option Json}
    {read : Answer → Except ApiError α} (h : ∀ q, request? method uri body = some q → p q) :
    Sends p (Api.call method uri body read) :=
  of_leads (fun w => Api.call_leads w) fun q hq => h q (Option.mem_toList.1 hq)

/-- What an action sends is read off from the requests that it leaves. -/
lemma requestsSince (h : Sends p act) (w : World) : ∀ q ∈ (act w).2.requestsSince w, p q := by
  obtain ⟨qs, draws, hleads, hqs⟩ := h w
  rwa [hleads.requestsSince_eq]

end Sends

section

variable {method : Method} {uri : String} {body : Option Json} {q : Request}

/-- The method of a request is part of what is called, and so is its body. -/
lemma method_of_request? (h : request? method uri body = some q) : q.method = method := by
  obtain ⟨target, -, rfl⟩ := Option.map_eq_some_iff.1 h
  rfl

lemma body_of_request? (h : request? method uri body = some q) : q.body = body := by
  obtain ⟨target, -, rfl⟩ := Option.map_eq_some_iff.1 h
  rfl

end

/-! ## Reading -/

/-- A request that only reads. -/
def Request.Reads (q : Request) : Prop := q.method = .get

lemma Request.Reads.ne_delete {q : Request} (hq : q.Reads) : q.method ≠ .delete := by
  rw [hq]
  exact nofun

/-- What comes before an object is stored only reads. -/
lemma Source.reads_of_mem {k : Kind} {source : Source k} {q : Request} (hq : q ∈ source.reads) :
    q.Reads := by
  cases source with
  | template name make? =>
    rw [List.mem_singleton.1 hq]
    rfl
  | direct made? => cases hq

lemma sends_list (k : Kind) (space query : String) : Sends Request.Reads (Api.list k space query) :=
  .call fun _ hq => method_of_request? hq

lemma sends_isAddonUp : Sends Request.Reads isAddonUp := by
  refine .bind (sends_list _ _ _) fun pods => ?_
  cases pods with
  | error e => exact .pure _
  | ok pods => exact .bind (.log _ _ _) fun _ => .pure _

/-! ## What a plain hub keeps -/

namespace Hub

variable {h : Hub} {key : String}

lemma fromObjects_of_reads {q : Request} (hq : q.Reads) (h : Hub) : (h.fromObjects q).2 = h := by
  have hmethod : q.method = .get := hq
  simp only [fromObjects, hmethod]
  split
  · rfl
  · split
    · split <;> rfl
    · rfl

/-- Readings leave a plain hub as it is. -/
lemma after_of_reads (hplain : h.isPlain = true) {qs : List Request} (hqs : ∀ q ∈ qs, q.Reads) :
    h.after qs = h := by
  induction qs with
  | nil => rfl
  | cons q qs ih =>
    rw [after_cons, answer_of_isPlain hplain, fromObjects_of_reads (hqs q List.mem_cons_self)]
    exact ih fun q' hq' => hqs q' (List.mem_cons_of_mem _ hq')

lemma isPlain_fromObjects (h : Hub) (q : Request) : (h.fromObjects q).2.isPlain = h.isPlain := by
  cases hmethod : q.method with
  | get => rw [fromObjects_of_reads hmethod]
  | post | delete => simp only [fromObjects, hmethod]; split <;> rfl

lemma get?_fromObjects {q : Request} (hkey : h.objects.contains key = true)
    (hq : q.method = .delete → q.target.path ≠ key) :
    (h.fromObjects q).2.objects.get? key = h.objects.get? key := by
  cases hmethod : q.method with
  | get => rw [fromObjects_of_reads hmethod]
  | post =>
    simp only [fromObjects, hmethod]
    split
    case isTrue => rfl
    case isFalse hfree =>
      rw [KeyMap.get?_insert, if_neg]
      rintro rfl
      exact hfree hkey
  | delete =>
    simp only [fromObjects, hmethod]
    split
    case isTrue => rw [KeyMap.get?_erase, if_neg (Ne.symm (hq hmethod))]
    case isFalse => rfl

/-- **A plain hub keeps an object** as long as nobody asks for its removal. -/
lemma get?_after_of_kept (hplain : h.isPlain = true) (hkey : h.objects.contains key = true)
    {qs : List Request} (hqs : ∀ q ∈ qs, q.method = .delete → q.target.path ≠ key) :
    (h.after qs).objects.get? key = h.objects.get? key := by
  induction qs generalizing h with
  | nil => rfl
  | cons q qs ih =>
    have hstep := get?_fromObjects hkey (hqs q List.mem_cons_self)
    rw [after_cons, answer_of_isPlain hplain, ← hstep]
    refine ih ((isPlain_fromObjects h q).trans hplain) ?_
      fun q' hq' => hqs q' (List.mem_cons_of_mem _ hq')
    rw [KeyMap.contains, hstep]
    exact hkey

end Hub

/-! ## Events -/

namespace Reconciler

variable {h : Handler World} {r : Reconciler}

lemma sends_herald (e : ClusterEvent) : Sends p (herald e) := by
  cases e with
  | added cluster | deleted cluster => exact .log _ _ _
  | other => exact .pure _

lemma sends_dismiss (r : Reconciler) (e : ClusterEvent) : Sends p (r.dismiss e) := by
  cases e with
  | added cluster =>
    rw [dismiss]
    split
    · exact .log _ _ _
    · exact .log _ _ _
  | deleted cluster => exact .log _ _ _
  | other => exact .pure _

lemma sends_perform {call : HandlerCall}
    (hprovision : ∀ n, call = .provision n → Sends p (h.provision n))
    (hreap : ∀ n, call = .reap n → Sends p (h.reap n)) : Sends p (perform h call) := by
  cases call with
  | provision cluster =>
    refine .bind (hprovision cluster rfl) fun result => ?_
    cases result with
    | ok _ => exact .pure _
    | error e => exact .log _ _ _
  | reap cluster => exact hreap cluster rfl

/-- **At an event a reconciler sends what its handler sends** at the call that is made. -/
lemma sends_handle {e : ClusterEvent}
    (hprovision : ∀ n, r.call? e = some (.provision n) → Sends p (h.provision n))
    (hreap : ∀ n, r.call? e = some (.reap n) → Sends p (h.reap n)) :
    Sends p (r.handle h e) := by
  have hact : Sends p (act h r e) := by
    refine .bind (sends_herald e) fun _ => ?_
    cases hcall : r.call? e with
    | none => exact sends_dismiss r e
    | some call =>
      refine sends_perform ?_ ?_
      · rintro n rfl
        exact hprovision n hcall
      · rintro n rfl
        exact hreap n hcall
  intro w
  rw [handle_eq]
  exact hact w

end Reconciler

/-! ## Cleaning up -/

section

variable {h : Handler World}

lemma reapEach_leads (hreap : ∀ n (w : World), w.Leads (deletions n) 0 (h.reap n w).2)
    (cs : List ManagedCluster) (w : World) :
    w.Leads (cs.flatMap fun c => deletions c.name) 0 (reapEach h cs w).2 := by
  induction cs generalizing w with
  | nil => exact .refl w
  | cons c cs ih =>
    rw [reapEach, bind_apply, bind_apply, List.flatMap_cons]
    exact ((World.Leads.log ..).trans (hreap c.name _)).trans (ih _)

/-- The requests of cleaning up: first the list, and if there is one, the removal of all objects of
the clusters in scope. -/
def cleaningRequests (scope : String) (list : Except ApiError (Api.Listing .managedCluster)) :
    List Request :=
  match list with
  | .ok listing => listRequest :: (listing.inScope scope).flatMap fun c => deletions c.name
  | .error _ => [listRequest]

/-- **What cleaning up asks for** depends on the list alone, and so does how it ends. -/
lemma reapAll_leads (hreap : ∀ n (w : World), w.Leads (deletions n) 0 (h.reap n w).2)
    (scope : String) (w : World) :
    ((reapAll listClusters h scope w).1.isOk = (listClusters w).1.isOk) ∧
      w.Leads (cleaningRequests scope (listClusters w).1) 0
        (reapAll listClusters h scope w).2 := by
  have hlist := (listClusters_leads w).2
  rw [reapAll, bind_apply]
  cases (listClusters w).1 with
  | error e => exact ⟨rfl, hlist⟩
  | ok listing =>
    refine ⟨rfl, ?_⟩
    exact (hlist.trans (reapEach_leads hreap (listing.inScope scope) _)).andLog ..

end

/-! ## The simulator as a handler -/

lemma method_of_mem_deletions {n : String} {q : Request} (hq : q ∈ deletions n) :
    q.method = .delete := by
  obtain ⟨o, -, ho⟩ := List.mem_filterMap.1 hq
  exact method_of_request? ho

lemma simulator_reap_leads (n : String) (w : World) :
    w.Leads (deletions n) 0 (Handler.simulator.reap n w).2 := by
  have hreap : Handler.simulator.reap n = discard (reap n) := rfl
  rw [hreap, discard_snd]
  exact reap_leads n w

/-- All that a simulator does is to send requests. -/
lemma sends_simulator_provision (n : String) :
    Sends (fun _ => True) (Handler.simulator.provision n) := by
  intro w
  obtain ⟨taken, -, draws, -, hleads, -⟩ := provision_ends n w
  exact ⟨_, draws, hleads, fun _ _ => trivial⟩

lemma sends_simulator_reap (n : String) : Sends (fun _ => True) (Handler.simulator.reap n) :=
  .of_leads (simulator_reap_leads n) fun _ _ => trivial

end SpokeSim
