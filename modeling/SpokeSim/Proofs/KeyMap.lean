import Mathlib.Tactic.Common
import SpokeSim.KeyMap

/-!
# More on maps from text keys

What the look-ups of a map say about its keys, and about many insertions or removals at once.
-/

namespace SpokeSim.KeyMap

variable {α β : Type} {m : KeyMap α} {key : String}

/-! ## Keys -/

lemma contains_eq_false_iff : m.contains key = false ↔ m.get? key = none := by
  rw [contains, Option.isSome_eq_false_iff, Option.isNone_iff_eq_none]

lemma mem_keys_iff : key ∈ m.keys ↔ m.contains key = true := by
  rw [contains, Option.isSome_iff_exists, keys, List.mem_map]
  constructor
  · rintro ⟨⟨_, v⟩, hentry, rfl⟩
    exact ⟨v, (get?_eq_some_iff m _ v).2 hentry⟩
  · rintro ⟨v, hv⟩
    exact ⟨(key, v), (get?_eq_some_iff m _ v).1 hv, rfl⟩

lemma nodup_keys (m : KeyMap α) : m.keys.Nodup := by
  refine List.pairwise_map.2 (m.ascending.imp fun hlt heq => ?_)
  rw [heq] at hlt
  exact String.lt_irrefl _ hlt

/-- Maps with the same look-ups under some keys have the same entries there. -/
lemma filter_entries_congr {m m' : KeyMap α} {p : String → Bool}
    (h : ∀ key, p key = true → m'.get? key = m.get? key) :
    m'.entries.filter (fun e => p e.1) = m.entries.filter fun e => p e.1 := by
  refine entries_ext (m'.ascending.filter _) (m.ascending.filter _) fun ⟨key, v⟩ => ?_
  rw [List.mem_filter, List.mem_filter, ← get?_eq_some_iff, ← get?_eq_some_iff]
  refine and_congr_left fun hkey => ?_
  rw [h key hkey]

/-! ## Removals -/

lemma erase_of_contains_eq_false (h : m.contains key = false) : m.erase key = m := by
  refine ext_get? fun key' => ?_
  rw [get?_erase]
  split
  case isTrue heq => rw [heq, contains_eq_false_iff.1 h]
  case isFalse => rfl

/-- The map without some keys. -/
def eraseAll (m : KeyMap α) (keys : List String) : KeyMap α := keys.foldl erase m

lemma get?_eraseAll (m : KeyMap α) (keys : List String) (key : String) :
    (m.eraseAll keys).get? key = if key ∈ keys then none else m.get? key := by
  induction keys generalizing m with
  | nil => simp [eraseAll]
  | cons k keys ih =>
    show ((m.erase k).eraseAll keys).get? key = _
    rw [ih, get?_erase]
    by_cases hk : key = k <;> by_cases hkeys : key ∈ keys <;> simp [hk, hkeys]

/-! ## Insertions -/

/-- The map with a value for each of some things, under its key. -/
def insertAll (m : KeyMap α) (key : β → String) (value : β → α) (bs : List β) : KeyMap α :=
  bs.foldl (fun m b => m.insert (key b) (value b)) m

variable {keyOf : β → String} {value : β → α} {bs : List β}

lemma get?_insertAll_of_notMem (m : KeyMap α) (h : key ∉ bs.map keyOf) :
    (m.insertAll keyOf value bs).get? key = m.get? key := by
  induction bs generalizing m with
  | nil => rfl
  | cons b bs ih =>
    simp only [List.map_cons, List.mem_cons, not_or] at h
    show ((m.insert (keyOf b) (value b)).insertAll keyOf value bs).get? key = _
    rw [ih _ h.2, get?_insert, if_neg h.1]

lemma get?_insertAll_of_mem (m : KeyMap α) (hnodup : (bs.map keyOf).Nodup) {b : β} (hb : b ∈ bs) :
    (m.insertAll keyOf value bs).get? (keyOf b) = some (value b) := by
  induction bs generalizing m with
  | nil => cases hb
  | cons b' bs ih =>
    obtain ⟨hnotMem, hnodup⟩ := List.nodup_cons.1 hnodup
    show ((m.insert (keyOf b') (value b')).insertAll keyOf value bs).get? (keyOf b) = _
    rcases List.mem_cons.1 hb with rfl | hb
    · rw [get?_insertAll_of_notMem _ hnotMem, get?_insert, if_pos rfl]
    · exact ih _ hnodup hb

end SpokeSim.KeyMap
