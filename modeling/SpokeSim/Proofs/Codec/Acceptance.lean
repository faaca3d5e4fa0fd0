import Mathlib.Tactic.Common
import SpokeSim.Api.Call

/-!
# What is in a document that is accepted

A codec that accepts a document has accepted the parts that it looks at.

* `read_of_decode`: a record has been read from the members of an object.
* `eq_ok_of_single_eq_ok`: a strict field has read each member of its name.
* `isOk_of_mem_decodeItems`: a list has read each of its items.

So a list of objects is refused for one misfit among its items (`isOk_of_mem_items`).
-/

namespace SpokeSim

open Codec Record
open Json (Draft)

variable {α β : Type}

lemma both_eq_ok {a : Except Met α} {b : Except Met β} {p : α × β} (h : both a b = .ok p) :
    a = .ok p.1 ∧ b = .ok p.2 := by
  cases a with
  | error e => cases b <;> cases h
  | ok a =>
    cases b with
    | error e => cases h
    | ok b =>
      cases h
      exact ⟨rfl, rfl⟩

lemma exists_of_map_eq_ok {ε : Type} {r : Except ε α} {f : α → β} {b : β} (h : r.map f = .ok b) :
    ∃ a, r = .ok a ∧ f a = b := by
  cases r with
  | error e => cases h
  | ok a => exact ⟨a, rfl, Except.ok.inj h⟩

/-- Each draft in the place of a strict field must fit. -/
lemma eq_ok_of_single_eq_ok {read : Draft → Except Json.ParseFault α} {absent : Except Met α}
    {ms : List (Nat × Draft)} {a : α} (h : single read absent ms = .ok a) {m : Nat × Draft}
    (hm : m ∈ ms) : read m.2 = .ok a := by
  match ms, h, hm with
  | [(i, d)], h, hm =>
    obtain rfl := List.mem_singleton.1 hm
    cases hread : read d with
    | ok b =>
      rw [single, hread] at h
      exact congrArg Except.ok (Except.ok.inj h)
    | error f =>
      rw [single, hread] at h
      cases h
  | (i, d) :: (k, e) :: rest, h, hm =>
    rw [single] at h
    cases hread : read d <;> rw [hread] at h <;> cases h

lemma exists_mem_place {m : String × Draft} {members : List (String × Draft)} (hm : m ∈ members)
    (i : Nat) : ∃ k, (k, m) ∈ place i members := by
  induction members generalizing i with
  | nil => cases hm
  | cons m' members ih =>
    rw [place]
    obtain rfl | hm := List.mem_cons.1 hm
    · exact ⟨i, List.mem_cons_self⟩
    · obtain ⟨k, hk⟩ := ih hm (i + 1)
      exact ⟨k, List.mem_cons_of_mem _ hk⟩

lemma exists_mem_valuesOf {name : String} {d : Draft} {members : List (String × Draft)}
    (hd : (name, d) ∈ members) (i : Nat) : ∃ k, (k, d) ∈ valuesOf name (place i members) := by
  obtain ⟨k, hk⟩ := exists_mem_place hd i
  exact ⟨k, List.mem_map_of_mem (List.mem_filter.2 ⟨hk, by simp⟩)⟩

lemma isOk_of_mem_decodeItems {c : Codec α} {ds : List Draft} {as : List α}
    (h : decodeItems c ds = .ok as) {d : Draft} (hd : d ∈ ds) : (c.decode d).isOk = true := by
  induction ds generalizing as with
  | nil => cases hd
  | cons d' ds ih =>
    rw [decodeItems] at h
    cases hfirst : c.decode d' with
    | error f => rw [hfirst] at h; cases h
    | ok a =>
      rw [hfirst] at h
      cases hrest : decodeItems c ds with
      | error f => simp only [hrest] at h; cases h
      | ok rest =>
        obtain rfl | hd := List.mem_cons.1 hd
        · rw [hfirst]; rfl
        · exact ih hrest hd

lemma read_of_decode {r : Record α} {members : List (String × Draft)} {flaw : Option Json.Flaw}
    {a : α} (h : r.codec.decode (.obj members flaw) = .ok a) :
    r.read members.length (place 0 members) = .ok a := by
  have hend : atEnd members.length flaw (r.read members.length (place 0 members)) = .ok a := h
  cases hread : r.read members.length (place 0 members) with
  | ok b =>
    rw [hread] at hend
    obtain ⟨-, -, rfl⟩ := exists_of_map_eq_ok hend
    rfl
  | error e =>
    rw [hread, atEnd] at hend
    split at hend
    · cases hend
    · cases hflaw : Draft.ending false flaw <;> rw [hflaw] at hend <;> cases hend

/-- **Each item of a list fits**, or the list does not. -/
lemma isOk_of_mem_items {k : Kind} {members : List (String × Draft)} {flaw flaw' : Option Json.Flaw}
    {listing : Api.Listing k} {items : List Draft} {d : Draft}
    (h : (Api.Listing.record k).codec.decode (.obj members flaw) = .ok listing)
    (hitems : ("items", .arr items flaw') ∈ members) (hd : d ∈ items) :
    (k.codec.decode d).isOk = true := by
  have hread := read_of_decode h
  obtain ⟨i, hi⟩ := exists_mem_valuesOf hitems 0
  generalize place 0 members = placed at hread hi
  obtain ⟨p, hwatchful, -⟩ := exists_of_map_eq_ok hread
  obtain ⟨q, hboth, -⟩ := exists_of_map_eq_ok hwatchful
  have hlist := eq_ok_of_single_eq_ok (both_eq_ok (both_eq_ok hboth).1).2 hi
  have hdecode : (do
      let os ← decodeItems k.codec items
      Draft.ending false flaw'
      return os) = Except.ok q.1.2 := hlist
  cases hos : decodeItems k.codec items with
  | error f => rw [hos] at hdecode; cases hdecode
  | ok os => exact isOk_of_mem_decodeItems hos hd

end SpokeSim
