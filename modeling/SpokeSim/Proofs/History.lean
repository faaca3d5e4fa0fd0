import Mathlib.Data.List.Infix
import Mathlib.Tactic.Common
import SpokeSim.Reconciler

/-!
# What a history says about a cluster

A reconciler keeps a set of clusters where its promises are about the whole history of events: that
a cluster has been added before, or has been added and not been deleted since.

* `HeldSince`: one thing has happened, and another one has not happened since.
* `Settled`: what a policy makes of a history; a settled cluster is not provisioned again.
* `callsOver`: the calls that a history asks for, each told from the events before it alone.

Each comes with the law that says what one more event changes.
-/

namespace SpokeSim

/-! ## Since -/

section

variable {α : Type} {start stop e : α} {past : List α}

/-- Something has happened, and something else has not happened since. -/
def HeldSince (start stop : α) (past : List α) : Prop :=
  ∃ before after, past = before ++ start :: after ∧ stop ∉ after

instance [DecidableEq α] : Decidable (HeldSince start stop past) :=
  decidable_of_iff (∃ rest ∈ past.tails, rest.head? = some start ∧ stop ∉ rest.tail) <| by
    simp only [List.mem_tails, HeldSince]
    constructor
    · rintro ⟨rest, ⟨before, rfl⟩, hhead, hstop⟩
      obtain ⟨after, rfl⟩ := List.head?_eq_some_iff.1 hhead
      exact ⟨before, after, rfl, hstop⟩
    · rintro ⟨before, after, rfl, hstop⟩
      exact ⟨start :: after, List.suffix_append .., rfl, hstop⟩

lemma not_heldSince_nil : ¬HeldSince start stop [] := by
  rintro ⟨before, after, hnil, -⟩
  simp at hnil

/-- An event of a history with one more event is that one or an earlier one. -/
lemma concat_eq_append_cons {before after : List α} (h : past ++ [e] = before ++ start :: after) :
    (after = [] ∧ before = past ∧ e = start) ∨
      ∃ after', after = after' ++ [e] ∧ past = before ++ start :: after' := by
  rcases List.eq_nil_or_concat after with rfl | ⟨after', e', rfl⟩
  · obtain ⟨hpast, hlast⟩ := List.append_inj' h rfl
    exact .inl ⟨rfl, hpast.symm, (List.cons.inj hlast).1⟩
  · rw [List.concat_eq_append, ← List.cons_append, ← List.append_assoc] at h
    obtain ⟨hpast, hlast⟩ := List.append_inj' h rfl
    rw [(List.cons.inj hlast).1]
    exact .inr ⟨after', List.concat_eq_append, hpast⟩

/-- One more event may stand for the thing that has happened, if all before it is as it should be;
or else it must not be the one that has not happened since. -/
lemma splits_concat_iff {p : List α → Prop} :
    (∃ before after, past ++ [e] = before ++ start :: after ∧ p before ∧ stop ∉ after) ↔
      (e = start ∧ p past) ∨
        ((∃ before after, past = before ++ start :: after ∧ p before ∧ stop ∉ after) ∧
          e ≠ stop) := by
  constructor
  · rintro ⟨before, after, hpast, hbefore, hstop⟩
    obtain ⟨-, rfl, hlast⟩ | ⟨after', rfl, rfl⟩ := concat_eq_append_cons hpast
    · exact .inl ⟨hlast, hbefore⟩
    · simp only [List.mem_append, List.mem_singleton, not_or] at hstop
      exact .inr ⟨⟨before, after', rfl, hbefore, hstop.1⟩, Ne.symm hstop.2⟩
  · rintro (⟨rfl, hpast⟩ | ⟨⟨before, after, rfl, hbefore, hstop⟩, hstop'⟩)
    · exact ⟨past, [], rfl, hpast, List.not_mem_nil⟩
    · refine ⟨before, after ++ [e], by simp, hbefore, ?_⟩
      simpa [hstop] using Ne.symm hstop'

/-- One more event starts it, stops it, or leaves it as it is. -/
lemma heldSince_concat_iff :
    HeldSince start stop (past ++ [e]) ↔ e = start ∨ (HeldSince start stop past ∧ e ≠ stop) := by
  simpa only [HeldSince, true_and, and_true] using
    splits_concat_iff (p := fun _ => True)

end

/-! ## Settled clusters -/

variable {policy : SeenPolicy} {scope cluster : String} {past : List ClusterEvent}
  {e : ClusterEvent}

/-- A cluster that is not provisioned again: if it stays seen, one that has been added before; if it
is forgotten, one that has been added and not been deleted since. -/
def Settled (policy : SeenPolicy) (cluster : String) (past : List ClusterEvent) : Prop :=
  match policy with
  | .retain => .added cluster ∈ past
  | .forget => HeldSince (.added cluster) (.deleted cluster) past

instance : Decidable (Settled policy cluster past) :=
  match policy with
  | .retain => inferInstanceAs (Decidable (.added cluster ∈ past))
  | .forget => inferInstanceAs (Decidable (HeldSince (.added cluster) (.deleted cluster) past))

lemma not_settled_nil : ¬Settled policy cluster [] := by
  cases policy with
  | retain => exact List.not_mem_nil
  | forget => exact not_heldSince_nil

lemma settled_concat_iff :
    Settled policy cluster (past ++ [e]) ↔ e = .added cluster ∨
      (Settled policy cluster past ∧ (policy = .forget → e ≠ .deleted cluster)) := by
  cases policy with
  | retain => simp [Settled, or_comm, eq_comm]
  | forget => simp [Settled, heldSince_concat_iff]

/-- Settled clusters have been added. -/
lemma added_mem_of_settled (h : Settled policy cluster past) : .added cluster ∈ past := by
  cases policy with
  | retain => exact h
  | forget =>
    obtain ⟨before, after, rfl, -⟩ := h
    exact List.mem_append_right _ List.mem_cons_self

/-! ## Calls that a history asks for -/

/-- The call that an event asks for, by the events before it. -/
def callAfter? (policy : SeenPolicy) (scope : String) (past : List ClusterEvent) :
    ClusterEvent → Option HandlerCall
  | .added cluster =>
    if startsWith cluster scope ∧ ¬Settled policy cluster past then some (.provision cluster)
    else none
  | .deleted cluster => if startsWith cluster scope then some (.reap cluster) else none
  | .other => none

/-- The calls that events ask for, each by the events before it. -/
def callsOver (policy : SeenPolicy) (scope : String) (events : List ClusterEvent) :
    List HandlerCall :=
  events.zipIdx.filterMap fun (e, i) => callAfter? policy scope (events.take i) e

lemma callsOver_concat :
    callsOver policy scope (past ++ [e])
      = callsOver policy scope past ++ (callAfter? policy scope past e).toList := by
  rw [callsOver, List.zipIdx_append, List.filterMap_append]
  congr 1
  · refine List.filterMap_congr fun ⟨e', i⟩ hmem => ?_
    have hlt : i < past.length := by simpa using (List.mem_zipIdx hmem).2.1
    simp only [List.take_append_of_le_length (Nat.le_of_lt hlt)]
  · have htake : (past ++ [e]).take past.length = past := List.take_left
    simp only [List.zipIdx_cons, List.zipIdx_nil, Nat.zero_add, List.filterMap_cons,
      List.filterMap_nil, htake]
    cases callAfter? policy scope past e <;> rfl

/-- The clusters of whom a policy keeps that they have been provisioned, by the calls: those who
have been provisioned ever, or whose latest call provisions them. -/
def Credited (policy : SeenPolicy) (cluster : String) (calls : List HandlerCall) : Prop :=
  match policy with
  | .retain => .provision cluster ∈ calls
  | .forget => HeldSince (.provision cluster) (.reap cluster) calls

lemma not_credited_nil : ¬Credited policy cluster [] := by
  cases policy with
  | retain => exact List.not_mem_nil
  | forget => exact not_heldSince_nil

lemma credited_concat_iff {calls : List HandlerCall} {call : HandlerCall} :
    Credited policy cluster (calls ++ [call]) ↔ call = .provision cluster ∨
      (Credited policy cluster calls ∧ (policy = .forget → call ≠ .reap cluster)) := by
  cases policy with
  | retain => simp [Credited, or_comm, eq_comm]
  | forget => simp [Credited, heldSince_concat_iff]

end SpokeSim
