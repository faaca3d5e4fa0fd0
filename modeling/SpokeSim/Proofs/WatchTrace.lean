import SpokeSim.Proofs.Exchange
import SpokeSim.Proofs.History

/-!
# The trace of the watch loop

**One event.**  What a reconciler becomes at an event, and the call that it makes, depend on the
reconciler alone (`Reconciler.next`, `Reconciler.call?`): not on what the handler does, or on how
its calls have ended.

**A history.**  `Reconciler.Tracks` ties the set of seen clusters to the history of events, and to
the history of calls.  One event preserves it, and so does any run.

**A stream.**  `run_trace`: the calls that a watched stream leads to, how the watch ends, and what
has been seen at any time.
-/

namespace SpokeSim

namespace Reconciler

/-! ## One event -/

/-- The call that a reconciler makes at an event. -/
def call? (r : Reconciler) : ClusterEvent → Option HandlerCall
  | .added cluster =>
    if cluster ∉ r.seen ∧ r.covers cluster then some (.provision cluster) else none
  | .deleted cluster => if r.covers cluster then some (.reap cluster) else none
  | .other => none

/-- The reconciler after an event. -/
def next (r : Reconciler) : ClusterEvent → Reconciler
  | .added cluster =>
    if cluster ∉ r.seen ∧ r.covers cluster then { r with seen := cluster :: r.seen } else r
  | .deleted cluster =>
    if r.covers cluster ∧ r.policy = .forget then
      { r with seen := r.seen.filter (· ≠ cluster) }
    else r
  | .other => r

section

variable {σ τ : Type} [LogSink σ]

/-- What is told of an event before anything is done about it. -/
def herald : ClusterEvent → StateM σ Unit
  | .added cluster => log .info .reconciler ("event: ADDED on cluster " ++ cluster)
  | .deleted cluster => log .info .reconciler ("event: DELETED on cluster " ++ cluster)
  | .other => return ()

/-- What is told of an event for which there is no call. -/
def dismiss (r : Reconciler) : ClusterEvent → StateM σ Unit
  | .added cluster =>
    if cluster ∈ r.seen then
      log .debug .reconciler ("Cluster " ++ cluster ++ " already handled, skipping")
    else r.passOver cluster
  | .deleted cluster => r.passOver cluster
  | .other => return ()

/-- Make a call, and tell so if it fails. -/
def perform (h : Handler σ) : HandlerCall → StateM σ Unit
  | .provision cluster => do
    match ← h.provision cluster with
    | .ok () => pure ()
    | .error e =>
      log .error .reconciler
        ("failed to create simulator for cluster: " ++ cluster ++ ", err: " ++ e.message)
  | .reap cluster => h.reap cluster

/-- What is done at an event. -/
def act (h : Handler σ) (r : Reconciler) (e : ClusterEvent) : StateM σ Unit := do
  herald e
  match r.call? e with
  | some call => perform h call
  | none => r.dismiss e

lemma act_of_some (h : Handler σ) {r : Reconciler} {e : ClusterEvent} {call : HandlerCall}
    (hcall : r.call? e = some call) (s : σ) :
    act h r e s = perform h call (herald e s).2 := by
  rw [act, bind_apply, hcall]

lemma act_of_none (h : Handler σ) {r : Reconciler} {e : ClusterEvent} (hcall : r.call? e = none)
    (s : σ) : act h r e s = r.dismiss e (herald e s).2 := by
  rw [act, bind_apply, hcall]

/-- **An event moves the reconciler and leads to one act**, and neither depends on the other. -/
lemma handle_eq (h : Handler σ) (r : Reconciler) (e : ClusterEvent) (s : σ) :
    r.handle h e s = (r.next e, (act h r e s).2) := by
  cases e with
  | added cluster =>
    rw [handle, bind_apply, add, next]
    by_cases hseen : cluster ∈ r.seen
    · have hcall : r.call? (.added cluster) = none := if_neg (by simp [hseen])
      rw [act_of_none h hcall, dismiss, if_pos hseen, if_pos hseen, if_neg (by simp [hseen])]
      rfl
    · by_cases hcovers : r.covers cluster = true
      · have hcall : r.call? (.added cluster) = some (.provision cluster) :=
          if_pos ⟨hseen, hcovers⟩
        rw [act_of_some h hcall, perform, if_neg hseen, if_pos hcovers, if_pos ⟨hseen, hcovers⟩,
          bind_apply, bind_apply, herald]
        generalize h.provision cluster (log .info .reconciler _ s).2 = out
        obtain ⟨result, s₁⟩ := out
        cases result <;> rfl
      · have hcall : r.call? (.added cluster) = none := if_neg (by simp [hcovers])
        rw [act_of_none h hcall, dismiss, if_neg hseen, if_neg hseen, if_neg hcovers,
          if_neg (by simp [hcovers])]
        rfl
  | deleted cluster =>
    rw [handle, bind_apply, delete, next]
    by_cases hcovers : r.covers cluster = true
    · have hcall : r.call? (.deleted cluster) = some (.reap cluster) := if_pos hcovers
      rw [act_of_some h hcall, perform, if_pos hcovers, bind_apply]
      cases r.policy with
      | retain => rw [if_neg (by simp)]; rfl
      | forget => rw [if_pos ⟨hcovers, rfl⟩]; rfl
    · have hcall : r.call? (.deleted cluster) = none := if_neg hcovers
      rw [act_of_none h hcall, dismiss, if_neg hcovers, if_neg (by simp [hcovers])]
      rfl
  | other => rfl

/-- What becomes of a reconciler does not depend on its handler. -/
lemma handle_fst (h : Handler σ) (r : Reconciler) (e : ClusterEvent) (s : σ) :
    (r.handle h e s).1 = r.next e := by
  rw [handle_eq]

/-- A handler does the same as another one, and writes down a note about each call. -/
def Notes (h : Handler σ) (note : HandlerCall → σ → τ)
    (h' : Handler (σ × List τ)) : Prop :=
  ∀ call s notes, perform h' call (s, notes) = ((), ((perform h call s).2, notes ++ [note call s]))

/-- A traced handler notes the calls themselves. -/
lemma notes_traced (h : Handler σ) : Notes h (fun call _ => call) h.traced := by
  intro call s calls
  cases call with
  | provision cluster =>
    have hprovision : h.traced.provision cluster (s, calls) =
        ((h.provision cluster s).1,
          ((h.provision cluster s).2, calls ++ [.provision cluster])) := rfl
    rw [perform, perform, bind_apply, bind_apply, hprovision]
    cases (h.provision cluster s).1 <;> rfl
  | reap cluster => rfl

/-- The note about the call at an event, if there is one. -/
def note? (note : HandlerCall → σ → τ) (r : Reconciler) (e : ClusterEvent) (s : σ) :
    Option τ :=
  (r.call? e).map fun call => note call (herald e s).2

/-- **To take notes changes nothing else.** -/
lemma Notes.handle {h : Handler σ} {note : HandlerCall → σ → τ}
    {h' : Handler (σ × List τ)} (hnotes : Notes h note h') (r : Reconciler) (e : ClusterEvent)
    (s : σ) (notes : List τ) :
    r.handle h' e (s, notes) =
      ((r.handle h e s).1, ((r.handle h e s).2, notes ++ (note? note r e s).toList)) := by
  have hherald : (herald e (s, notes)).2 = ((herald e s).2, notes) := by cases e <;> rfl
  rw [handle_eq, handle_eq, note?]
  cases hcall : r.call? e with
  | some call =>
    rw [act_of_some _ hcall, act_of_some _ hcall, hherald, hnotes]
    rfl
  | none =>
    rw [act_of_none _ hcall, act_of_none _ hcall, hherald, Option.map_none, Option.toList_none,
      List.append_nil]
    cases e with
    | added cluster => rw [dismiss, dismiss]; split <;> rfl
    | deleted cluster => rfl
    | other => rfl

end

/-! ### The call and the seen clusters -/

lemma call?_eq_provision_iff {r : Reconciler} {e : ClusterEvent} {n : String} :
    r.call? e = some (.provision n) ↔ e = .added n ∧ n ∉ r.seen ∧ r.covers n = true := by
  cases e with
  | added cluster =>
    simp only [call?, Option.ite_none_right_eq_some, Option.some.injEq, HandlerCall.provision.injEq,
      ClusterEvent.added.injEq]
    constructor
    · rintro ⟨h, rfl⟩; exact ⟨rfl, h⟩
    · rintro ⟨rfl, h⟩; exact ⟨h, rfl⟩
  | deleted cluster => simp [call?]
  | other => simp [call?]

lemma call?_eq_reap_iff {r : Reconciler} {e : ClusterEvent} {n : String} :
    r.call? e = some (.reap n) ↔ e = .deleted n ∧ r.covers n = true := by
  cases e with
  | added cluster => simp [call?]
  | deleted cluster =>
    simp only [call?, Option.ite_none_right_eq_some, Option.some.injEq, HandlerCall.reap.injEq,
      ClusterEvent.deleted.injEq]
    constructor
    · rintro ⟨h, rfl⟩; exact ⟨rfl, h⟩
    · rintro ⟨rfl, h⟩; exact ⟨h, rfl⟩
  | other => simp [call?]

lemma scope_next (r : Reconciler) (e : ClusterEvent) : (r.next e).scope = r.scope := by
  cases e <;> simp only [next] <;> split <;> rfl

lemma policy_next (r : Reconciler) (e : ClusterEvent) : (r.next e).policy = r.policy := by
  cases e <;> simp only [next] <;> split <;> rfl

/-- The seen clusters change by the call. -/
lemma seen_next (r : Reconciler) (e : ClusterEvent) :
    (r.next e).seen =
      match r.call? e with
      | some (.provision n) => n :: r.seen
      | some (.reap n) => if r.policy = .forget then r.seen.filter (· ≠ n) else r.seen
      | none => r.seen := by
  cases e with
  | added cluster => rw [next, call?]; split <;> rfl
  | deleted cluster =>
    rw [next, call?]
    by_cases hcovers : r.covers cluster = true
    · rw [if_pos hcovers]
      by_cases hforget : r.policy = .forget
      · rw [if_pos ⟨hcovers, hforget⟩]; exact (if_pos hforget).symm
      · rw [if_neg (by simp [hforget])]; exact (if_neg hforget).symm
    · rw [if_neg hcovers, if_neg (by simp [hcovers])]
  | other => rfl

/-- A cluster is seen if it has just been provisioned, or has been seen before and is not forgotten
as it is reaped. -/
lemma mem_seen_next_iff {r : Reconciler} {e : ClusterEvent} {n : String} :
    n ∈ (r.next e).seen ↔ r.call? e = some (.provision n) ∨
      (n ∈ r.seen ∧ (r.policy = .forget → r.call? e ≠ some (.reap n))) := by
  rw [seen_next]
  cases r.call? e with
  | none => simp
  | some call =>
    cases call with
    | provision cluster => simp [eq_comm (a := n)]
    | reap cluster => by_cases hforget : r.policy = .forget <;> simp [hforget, eq_comm (a := n)]

/-! ## A history -/

/-- A reconciler that has gone through a history: it keeps its scope and policy, and it has seen the
settled clusters of its scope, which are those whom the calls credit. -/
structure Tracks (scope : String) (policy : SeenPolicy) (past : List ClusterEvent)
    (r : Reconciler) : Prop where
  scope_eq : r.scope = scope
  policy_eq : r.policy = policy
  mem_seen_iff : ∀ n, n ∈ r.seen ↔ startsWith n scope = true ∧ Settled policy n past
  mem_seen_iff_credited : ∀ n, n ∈ r.seen ↔ Credited policy n (callsOver policy scope past)

section

variable {scope : String} {policy : SeenPolicy} {past : List ClusterEvent} {r : Reconciler}

lemma tracks_nil : Tracks scope policy [] { scope, policy } where
  scope_eq := rfl
  policy_eq := rfl
  mem_seen_iff _ := iff_of_false List.not_mem_nil fun h => not_settled_nil h.2
  mem_seen_iff_credited _ := iff_of_false List.not_mem_nil not_credited_nil

/-- The call at an event is the one that the history asks for. -/
lemma Tracks.call?_eq (h : Tracks scope policy past r) (e : ClusterEvent) :
    r.call? e = callAfter? policy scope past e := by
  cases e with
  | added cluster =>
    rw [call?, callAfter?]
    refine if_congr ?_ rfl rfl
    rw [h.mem_seen_iff, covers, h.scope_eq, not_and]
    constructor
    · exact fun hcall => ⟨hcall.2, hcall.1 hcall.2⟩
    · exact fun hcall => ⟨fun _ => hcall.2, hcall.1⟩
  | deleted cluster => rw [call?, callAfter?, covers, h.scope_eq]
  | other => rfl

/-- One event preserves what a reconciler tracks. -/
lemma Tracks.next (h : Tracks scope policy past r) (e : ClusterEvent) :
    Tracks scope policy (past ++ [e]) (r.next e) where
  scope_eq := (scope_next r e).trans h.scope_eq
  policy_eq := (policy_next r e).trans h.policy_eq
  mem_seen_iff n := by
    rw [mem_seen_next_iff, call?_eq_provision_iff, ne_eq, call?_eq_reap_iff, settled_concat_iff,
      h.mem_seen_iff, covers, h.scope_eq, h.policy_eq]
    have hother : e = .added n → e ≠ .deleted n := by rintro rfl; simp
    tauto
  mem_seen_iff_credited n := by
    rw [mem_seen_next_iff, h.policy_eq, h.mem_seen_iff_credited, h.call?_eq, callsOver_concat]
    cases callAfter? policy scope past e with
    | none => simp
    | some call =>
      rw [Option.toList_some, credited_concat_iff, ne_eq, Option.some.injEq, Option.some.injEq]

/-- A reconciler tracks its history from the beginning. -/
lemma tracks_foldl (scope : String) (policy : SeenPolicy) (past : List ClusterEvent) :
    Tracks scope policy past (past.foldl Reconciler.next { scope, policy }) := by
  induction past using List.reverseRecOn with
  | nil => exact tracks_nil
  | append_singleton past e ih =>
    rw [List.foldl_append]
    exact ih.next e

end

/-! ## Many events -/

/-- The calls that a reconciler makes at some events. -/
def calls : Reconciler → List ClusterEvent → List HandlerCall
  | _, [] => []
  | r, e :: es => (r.call? e).toList ++ calls (r.next e) es

lemma calls_append (r : Reconciler) (es es' : List ClusterEvent) :
    r.calls (es ++ es') = r.calls es ++ calls (es.foldl Reconciler.next r) es' := by
  induction es generalizing r with
  | nil => rfl
  | cons e es ih => simp only [List.cons_append, calls, ih, List.append_assoc, List.foldl_cons]

/-- From the beginning, the calls are those that the history asks for. -/
lemma calls_eq_callsOver (scope : String) (policy : SeenPolicy) (es : List ClusterEvent) :
    calls { scope, policy } es = callsOver policy scope es := by
  induction es using List.reverseRecOn with
  | nil => rfl
  | append_singleton es e ih =>
    rw [calls_append, ih, callsOver_concat, calls, calls, List.append_nil,
      (tracks_foldl scope policy es).call?_eq]

section

variable {σ τ : Type} [LogSink σ] (h : Handler σ)

lemma handleAll_fst (r : Reconciler) (es : List ClusterEvent) (s : σ) :
    (r.handleAll h es s).1 = es.foldl Reconciler.next r := by
  induction es generalizing r s with
  | nil => rfl
  | cons e es ih => rw [handleAll, bind_apply, ih, handle_fst, List.foldl_cons]

/-- The notes about the calls at some events. -/
def notesOver (note : HandlerCall → σ → τ) : Reconciler → List ClusterEvent → σ → List τ
  | _, [], _ => []
  | r, e :: es, s =>
    (note? note r e s).toList ++ notesOver note (r.next e) es (r.handle h e s).2

lemma notesOver_calls (r : Reconciler) (es : List ClusterEvent) (s : σ) :
    notesOver h (fun call _ => call) r es s = r.calls es := by
  induction es generalizing r s with
  | nil => rfl
  | cons e es ih =>
    rw [notesOver, calls, ih, note?]
    cases r.call? e <;> rfl

lemma Notes.handleAll {note : HandlerCall → σ → τ} {h' : Handler (σ × List τ)}
    (hnotes : Notes h note h') (r : Reconciler) (es : List ClusterEvent) (s : σ)
    (notes : List τ) :
    r.handleAll h' es (s, notes) =
      ((r.handleAll h es s).1,
        ((r.handleAll h es s).2, notes ++ notesOver h note r es s)) := by
  induction es generalizing r s notes with
  | nil => rw [notesOver, List.append_nil]; rfl
  | cons e es ih =>
    rw [Reconciler.handleAll, Reconciler.handleAll, bind_apply, bind_apply, hnotes.handle, ih,
      notesOver, handle_fst, List.append_assoc]

end

/-! ## A stream -/

/-- The events of a stream before its first error. -/
def heard : List (Except String ClusterEvent) → List ClusterEvent
  | .ok e :: es => e :: heard es
  | _ => []

/-- The first error of a stream. -/
def firstError? : List (Except String ClusterEvent) → Option String
  | [] => none
  | .ok _ :: es => firstError? es
  | .error text :: _ => some text

lemma heard_append_of_error {events : List (Except String ClusterEvent)}
    (h : (firstError? events).isSome = true) (later : List (Except String ClusterEvent)) :
    heard (events ++ later) = heard events ∧
      firstError? (events ++ later) = firstError? events := by
  induction events with
  | nil => cases h
  | cons event events ih =>
    cases event with
    | ok e => exact ⟨congrArg (e :: ·) (ih h).1, (ih h).2⟩
    | error text => exact ⟨rfl, rfl⟩

lemma heard_take_prefix (events : List (Except String ClusterEvent)) (i : Nat) :
    heard (events.take i) <+: heard events := by
  induction events generalizing i with
  | nil => rw [List.take_nil]
  | cons event events ih =>
    cases i with
    | zero => exact List.nil_prefix
    | succ i =>
      cases event with
      | ok e => exact List.prefix_cons_inj e |>.2 (ih i)
      | error text => exact List.nil_prefix

section

variable {σ τ : Type} [LogSink σ]

/-- How a watch ends: with its first error, or well if there is none. -/
def close : Option String → StateM σ (Except SimError Unit)
  | none => do
    conclude
    return .ok ()
  | some text => do
    let e ← breakOff text
    return .error e

/-- To watch a stream is to handle the events before its first error, and to end. -/
lemma consume_eq (h : Handler σ) (r : Reconciler) (events : List (Except String ClusterEvent))
    (s : σ) :
    r.consume h events s =
      let out := r.handleAll h (heard events) s
      let last := close (firstError? events) out.2
      ((last.1, out.1), last.2) := by
  induction events generalizing r s with
  | nil => rfl
  | cons event events ih =>
    cases event with
    | ok e =>
      rw [consume, bind_apply, ih, heard, firstError?, handleAll, bind_apply]
    | error text => rfl

/-- What becomes of the reconciler in a watch depends on the events alone. -/
lemma run_snd (h : Handler σ) (r : Reconciler) (events : List (Except String ClusterEvent))
    (s : σ) : (r.run h events s).1.2 = (heard events).foldl Reconciler.next r := by
  rw [run, bind_apply, consume_eq]
  exact handleAll_fst h r (heard events) _

lemma close_pair (end? : Option String) (s : σ) (t : τ) :
    close end? (s, t) = ((close end? s).1, ((close end? s).2, t)) := by
  cases end? <;> rfl

/-- The same for a whole watch. -/
lemma Notes.run {h : Handler σ} {note : HandlerCall → σ → τ}
    {h' : Handler (σ × List τ)} (hnotes : Notes h note h') (r : Reconciler)
    (events : List (Except String ClusterEvent)) (s : σ) (notes : List τ) :
    r.run h' events (s, notes) =
      ((r.run h events s).1, ((r.run h events s).2,
        notes ++ notesOver h note r (heard events) (r.announce s).2)) := by
  have hannounce : r.announce (s, notes) = ((), ((r.announce s).2, notes)) := rfl
  rw [Reconciler.run, Reconciler.run, bind_apply, bind_apply, hannounce, consume_eq, consume_eq,
    hnotes.handleAll]
  simp only [close_pair]

lemma run_traced (h : Handler σ) (r : Reconciler) (events : List (Except String ClusterEvent))
    (s : σ) (before : List HandlerCall) :
    r.run h.traced events (s, before) =
      ((r.run h events s).1, ((r.run h events s).2, before ++ r.calls (heard events))) := by
  rw [(notes_traced h).run, notesOver_calls]

/-- Nothing behind the first error has any effect. -/
lemma run_append_of_error (h : Handler σ) (r : Reconciler)
    {events : List (Except String ClusterEvent)} (herror : (firstError? events).isSome = true)
    (later : List (Except String ClusterEvent)) (s : σ) :
    r.run h (events ++ later) s = r.run h events s := by
  obtain ⟨hheard, hfirst⟩ := heard_append_of_error herror later
  rw [run, run, bind_apply, bind_apply, consume_eq, consume_eq, hheard, hfirst]

lemma close_fst (end? : Option String) (s : σ) :
    (close end? s).1 =
      match end? with
      | none => .ok ()
      | some text => .error (.watch text) := by
  cases end? <;> rfl

end

/-- **The trace of the watch loop.**  Whatever the handler does: its calls are those that the events
before the first error ask for, each by the events before it.  The watch ends with that error, or
well if there is none, and nothing behind the error has any effect.  At any time, the seen clusters
are those that have been provisioned ever, or whose latest call provisions them.  Writing down the
calls changes nothing else. -/
theorem run_trace {σ : Type} [LogSink σ] (h : Handler σ) (scope : String) (policy : SeenPolicy)
    (events : List (Except String ClusterEvent)) (s : σ) :
    let r : Reconciler := { scope, policy }
    let out := r.run h.traced events (s, [])
    out.2.2 = callsOver policy scope (heard events) ∧
    out.1.1 = (match firstError? events with
      | none => .ok ()
      | some text => .error (.watch text)) ∧
    (∀ later, (firstError? events).isSome = true →
      r.run h.traced (events ++ later) (s, []) = out) ∧
    (∀ i, let part := r.run h.traced (events.take i) (s, [])
      part.2.2 <+: out.2.2 ∧ ∀ n, n ∈ part.1.2.seen ↔ Credited policy n part.2.2) ∧
    r.run h events s = (out.1, out.2.1) := by
  intro r out
  have hout : out = ((r.run h events s).1, ((r.run h events s).2, r.calls (heard events))) :=
    run_traced h r events s []
  have hcalls : ∀ events', (r.run h.traced events' (s, [])).2.2
      = callsOver policy scope (heard events') := by
    intro events'
    rw [run_traced, List.nil_append, calls_eq_callsOver]
  have hseen : ∀ events', (r.run h.traced events' (s, [])).1.2
      = (heard events').foldl Reconciler.next r := by
    intro events'
    rw [run_traced, run_snd]
  refine ⟨hcalls events, ?_, fun later herror => ?_, fun i => ⟨?_, fun n => ?_⟩, ?_⟩
  · rw [hout, run, bind_apply, consume_eq]
    exact close_fst ..
  · exact run_append_of_error h.traced r herror later (s, [])
  · obtain ⟨rest, hrest⟩ := heard_take_prefix events i
    rw [hcalls, hcalls, ← hrest, ← calls_eq_callsOver, ← calls_eq_callsOver, calls_append]
    exact List.prefix_append ..
  · rw [hcalls, hseen]
    exact (tracks_foldl scope policy (heard (events.take i))).mem_seen_iff_credited n
  · rw [hout]; rfl

end Reconciler

end SpokeSim
