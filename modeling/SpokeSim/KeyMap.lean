/-!
# Maps from text keys

A `KeyMap α` is a finite map from strings to `α`, kept as its entries in ascending key order.
The order is part of the type, so two maps with the same look-ups are equal (`KeyMap.ext_get?`),
and the entries can be listed as they stand: labels, annotations and the hub's stored objects all
show their keys in this order.

* `get?`, `insert`, `erase`, `ofList`: the operations, each with one law about `get?`.
* `ofList_entries`: reading back the entries of a map gives the map.
-/

namespace SpokeSim

/-- A finite map from strings, entries in ascending key order. -/
structure KeyMap (α : Type) where
  /-- The pairs of the map, keys ascending. -/
  entries : List (String × α)
  /-- Keys ascend, so no key occurs twice. -/
  ascending : entries.Pairwise (fun a b => a.1 < b.1)

namespace KeyMap

variable {α : Type}

/-! ## Entries -/

/-- Put an entry in its place, over an older one of the same key. -/
def insertEntry (k : String) (v : α) : List (String × α) → List (String × α)
  | [] => [(k, v)]
  | e :: rest =>
    if k < e.1 then (k, v) :: e :: rest
    else if k = e.1 then (k, v) :: rest
    else e :: insertEntry k v rest

theorem mem_insertEntry {k : String} {v : α} {l : List (String × α)} {p : String × α}
    (h : p ∈ insertEntry k v l) : p = (k, v) ∨ p ∈ l := by
  induction l with
  | nil => simpa [insertEntry] using h
  | cons e rest ih =>
    unfold insertEntry at h
    split at h
    · simpa using h
    · split at h
      · rcases List.mem_cons.1 h with h | h
        · exact .inl h
        · exact .inr (List.mem_cons_of_mem _ h)
      · rcases List.mem_cons.1 h with h | h
        · exact .inr (h ▸ List.mem_cons_self)
        · exact (ih h).imp_right (List.mem_cons_of_mem _)

theorem lt_of_not_lt_of_ne {a b : String} (h : ¬a < b) (hne : a ≠ b) : b < a := by
  refine Decidable.byContradiction fun h' => hne ?_
  exact String.le_antisymm (String.not_lt.1 h') (String.not_lt.1 h)

theorem insertEntry_ascending (k : String) (v : α) {l : List (String × α)}
    (h : l.Pairwise (fun a b => a.1 < b.1)) :
    (insertEntry k v l).Pairwise (fun a b => a.1 < b.1) := by
  induction l with
  | nil => simp [insertEntry]
  | cons e rest ih =>
    obtain ⟨he, hrest⟩ := List.pairwise_cons.1 h
    unfold insertEntry
    split
    · rename_i hk
      refine List.pairwise_cons.2 ⟨fun p hp => ?_, h⟩
      rcases List.mem_cons.1 hp with rfl | hp
      · exact hk
      · exact String.lt_trans hk (he p hp)
    · split
      · rename_i hk
        exact List.pairwise_cons.2 ⟨fun p hp => hk ▸ he p hp, hrest⟩
      · rename_i hk hne
        refine List.pairwise_cons.2 ⟨fun p hp => ?_, ih hrest⟩
        rcases mem_insertEntry hp with rfl | hp
        · exact lt_of_not_lt_of_ne hk hne
        · exact he p hp

/-! ## Operations -/

/-- The map without entries. -/
def empty : KeyMap α := ⟨[], .nil⟩

instance : Inhabited (KeyMap α) := ⟨empty⟩

/-- The value under a key. -/
def get? (m : KeyMap α) (k : String) : Option α := m.entries.lookup k

/-- Whether the key has a value. -/
def contains (m : KeyMap α) (k : String) : Bool := (m.get? k).isSome

/-- Set the value under a key. -/
def insert (m : KeyMap α) (k : String) (v : α) : KeyMap α :=
  ⟨insertEntry k v m.entries, insertEntry_ascending k v m.ascending⟩

/-- Drop a key. -/
def erase (m : KeyMap α) (k : String) : KeyMap α :=
  ⟨m.entries.filter (fun e => e.1 ≠ k), m.ascending.filter _⟩

/-- The keys, ascending. -/
def keys (m : KeyMap α) : List String := m.entries.map Prod.fst

/-- The map of a list of pairs, where a later pair wins over an earlier one of its key. -/
def ofList (l : List (String × α)) : KeyMap α :=
  l.foldl (fun m e => m.insert e.1 e.2) empty

/-! ## Laws of look-up -/

theorem lookup_cons_ite (j : String) (e : String × α) (l : List (String × α)) :
    (e :: l).lookup j = if j = e.1 then some e.2 else l.lookup j := by
  by_cases h : j = e.1
  · have hb : (j == e.1) = true := by simpa using h
    rw [List.lookup_cons, hb, if_pos h]
  · have hb : (j == e.1) = false := by simpa using h
    rw [List.lookup_cons, hb, if_neg h]

theorem lookup_insertEntry (k j : String) (v : α) (l : List (String × α)) :
    (insertEntry k v l).lookup j = if j = k then some v else l.lookup j := by
  induction l with
  | nil => simp only [insertEntry, lookup_cons_ite]
  | cons e rest ih =>
    unfold insertEntry
    split
    · simp only [lookup_cons_ite]
    · split
      · rename_i hk
        by_cases hj : j = k
        · simp only [lookup_cons_ite, hj]; simp
        · simp only [lookup_cons_ite, hk ▸ hj, hj, if_false]
      · rename_i hk hne
        by_cases hj : j = e.1
        · have hjk : ¬j = k := fun h => hne (h ▸ hj)
          simp only [lookup_cons_ite, if_pos hj, if_neg hjk]
        · simp only [lookup_cons_ite, if_neg hj, ih]

/-- A key looked up after an insertion: the new value at that key, the old one elsewhere. -/
theorem get?_insert (m : KeyMap α) (k j : String) (v : α) :
    (m.insert k v).get? j = if j = k then some v else m.get? j :=
  lookup_insertEntry k j v m.entries

theorem lookup_filter_ne (k j : String) (l : List (String × α)) :
    (l.filter (fun e => e.1 ≠ k)).lookup j = if j = k then none else l.lookup j := by
  induction l with
  | nil => simp
  | cons e rest ih =>
    by_cases hk : e.1 = k
    · rw [List.filter_cons_of_neg (by simp [hk]), ih, lookup_cons_ite, hk]
      by_cases hj : j = k <;> simp [hj]
    · rw [List.filter_cons_of_pos (by simp [hk]), lookup_cons_ite, lookup_cons_ite, ih]
      by_cases hj : j = e.1
      · simp [hj, hk]
      · simp [hj]

/-- A key looked up after a removal: nothing at that key, the old value elsewhere. -/
theorem get?_erase (m : KeyMap α) (k j : String) :
    (m.erase k).get? j = if j = k then none else m.get? j :=
  lookup_filter_ne k j m.entries

theorem get?_empty (j : String) : (empty : KeyMap α).get? j = none := rfl

theorem lookup_eq_some_iff {l : List (String × α)} (h : l.Pairwise (fun a b => a.1 < b.1))
    {k : String} {v : α} : l.lookup k = some v ↔ (k, v) ∈ l := by
  induction l with
  | nil => simp
  | cons e rest ih =>
    obtain ⟨he, hrest⟩ := List.pairwise_cons.1 h
    rw [lookup_cons_ite, List.mem_cons]
    by_cases hk : k = e.1
    · have hnot : (k, v) ∉ rest := fun hm => String.lt_irrefl _ (hk ▸ he _ hm)
      simp only [if_pos hk, hnot, or_false, Option.some.injEq]
      constructor
      · intro hv; rw [← hv, hk]
      · intro hv; rw [← hv]
    · have hne : (k, v) ≠ e := fun hv => hk (by rw [← hv])
      simp only [if_neg hk, hne, false_or, ih hrest]

/-- An entry of the map is a key with its value. -/
theorem get?_eq_some_iff (m : KeyMap α) (k : String) (v : α) :
    m.get? k = some v ↔ (k, v) ∈ m.entries :=
  lookup_eq_some_iff m.ascending

theorem entries_ext {l l' : List (String × α)} (h : l.Pairwise (fun a b => a.1 < b.1))
    (h' : l'.Pairwise (fun a b => a.1 < b.1)) (hm : ∀ p, p ∈ l ↔ p ∈ l') : l = l' := by
  induction l generalizing l' with
  | nil =>
    cases l' with
    | nil => rfl
    | cons e rest => exact absurd ((hm e).2 List.mem_cons_self) (by simp)
  | cons e rest ih =>
    cases l' with
    | nil => exact absurd ((hm e).1 List.mem_cons_self) (by simp)
    | cons e' rest' =>
      obtain ⟨he, hrest⟩ := List.pairwise_cons.1 h
      obtain ⟨he', hrest'⟩ := List.pairwise_cons.1 h'
      have hhead : e = e' := by
        rcases List.mem_cons.1 ((hm e).1 List.mem_cons_self) with h₁ | h₁
        · exact h₁
        · rcases List.mem_cons.1 ((hm e').2 List.mem_cons_self) with h₂ | h₂
          · exact h₂.symm
          · exact absurd (String.lt_trans (he _ h₂) (he' _ h₁)) (String.lt_irrefl _)
      subst hhead
      congr 1
      refine ih hrest hrest' fun p => ⟨fun hp => ?_, fun hp => ?_⟩
      · rcases List.mem_cons.1 ((hm p).1 (List.mem_cons_of_mem _ hp)) with rfl | h₁
        · exact absurd (he _ hp) (String.lt_irrefl _)
        · exact h₁
      · rcases List.mem_cons.1 ((hm p).2 (List.mem_cons_of_mem _ hp)) with rfl | h₁
        · exact absurd (he' _ hp) (String.lt_irrefl _)
        · exact h₁

/-- Maps with the same look-ups are the same map. -/
theorem ext_get? {m m' : KeyMap α} (h : ∀ k, m.get? k = m'.get? k) : m = m' := by
  have : m.entries = m'.entries := by
    refine entries_ext m.ascending m'.ascending fun ⟨k, v⟩ => ?_
    rw [← get?_eq_some_iff, ← get?_eq_some_iff, h]
  cases m; cases m'; simpa using this

theorem get?_foldl_insert (l : List (String × α)) (h : l.Pairwise (fun a b => a.1 < b.1))
    (m : KeyMap α) (j : String) :
    (l.foldl (fun m e => m.insert e.1 e.2) m).get? j = (l.lookup j).or (m.get? j) := by
  induction l generalizing m with
  | nil => rfl
  | cons e rest ih =>
    obtain ⟨he, hrest⟩ := List.pairwise_cons.1 h
    rw [List.foldl_cons, ih hrest, get?_insert, lookup_cons_ite]
    by_cases hj : j = e.1
    · have hn : rest.lookup j = none := by
        cases hl : rest.lookup j with
        | none => rfl
        | some v => exact absurd (hj ▸ he _ ((lookup_eq_some_iff hrest).1 hl)) (String.lt_irrefl _)
      rw [hn, if_pos hj, if_pos hj]; rfl
    · rw [if_neg hj, if_neg hj]

/-- The entries of a map, read back, give the map. -/
theorem ofList_entries (m : KeyMap α) : ofList m.entries = m := by
  refine ext_get? fun k => ?_
  rw [ofList, get?_foldl_insert _ m.ascending, get?_empty, Option.or_none]
  rfl

end KeyMap

end SpokeSim
