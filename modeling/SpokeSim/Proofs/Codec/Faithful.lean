import Mathlib.Tactic.Common
import SpokeSim.Json.Codec

/-!
# Reading back what has been written

A codec is *faithful* if it reads back every value that it writes, and never writes `null`.  The
second half is what keeps an absent field apart from one that is there: lenient fields take `null`
for absent.

* `Draft.value_ofJson`: a document, taken for a draft, is that document.
* `Codec.Faithful`: of simple values, lists and maps.
* `Record.Faithful`: of fields and of fields beside each other.  A field only looks at the members
  of its own names (`Record.under`), so two records that share no name do not disturb each other.
* `Codec.Faithful.via`: a structure is read back if its fields are and their names differ.

Faithfulness is a class, so that the codec of a structure is found faithful from its description.
-/

namespace SpokeSim

open Json (Draft Flaw ParseFault)

/-! ## Documents as drafts -/

namespace Json.Draft

mutual

/-- A document, taken for a draft, is that document. -/
theorem value_ofJson : ∀ j : Json, (ofJson j).value = .ok j
  | .null => rfl
  | .bool _ => rfl
  | .int _ => rfl
  | .real _ => rfl
  | .str _ => rfl
  | .arr items => by rw [ofJson, value, values_ofItems items]; rfl
  | .obj members => by rw [ofJson, value, memberValues_ofMembers members]; rfl

theorem values_ofItems : ∀ js : List Json, values (ofItems js) = .ok js
  | [] => rfl
  | j :: js => by rw [ofItems, values, value_ofJson j, values_ofItems js]; rfl

theorem memberValues_ofMembers : ∀ ms : List (String × Json), memberValues (ofMembers ms) = .ok ms
  | [] => rfl
  | (k, j) :: ms => by rw [ofMembers, memberValues, value_ofJson j, memberValues_ofMembers ms]; rfl

end

@[simp] lemma isNull_ofJson (j : Json) : (ofJson j).isNull = j.isNull := by
  cases j <;> rfl

lemma ofItems_eq_map (js : List Json) : ofItems js = js.map ofJson := by
  induction js with
  | nil => rfl
  | cons j js ih => rw [ofItems, ih, List.map_cons]

lemma ofMembers_eq_map (ms : List (String × Json)) :
    ofMembers ms = ms.map fun m => (m.1, ofJson m.2) := by
  induction ms with
  | nil => rfl
  | cons m ms ih => obtain ⟨k, j⟩ := m; rw [ofMembers, ih, List.map_cons]

end Json.Draft

/-! ## Codecs -/

/-- A codec reads back what it writes, and what it writes is not `null`. -/
class Codec.Faithful {α : Type} (c : Codec α) : Prop where
  decode_encode : ∀ a, c.decode (.ofJson (c.encode a)) = .ok a
  isNull_encode : ∀ a, (c.encode a).isNull = false

namespace Codec

variable {α : Type}

instance : Faithful text := ⟨fun _ => rfl, fun _ => rfl⟩

instance : Faithful bool := ⟨fun _ => rfl, fun _ => rfl⟩

instance : Faithful int32 where
  decode_encode n := by
    simp only [int32, Draft.ofJson]
    rw [if_pos ⟨n.minValue_le_toInt, n.toInt_le⟩, Int32.ofInt_toInt]
  isNull_encode _ := rfl

instance : Faithful int64 where
  decode_encode n := by
    simp only [int64, Draft.ofJson]
    rw [if_pos ⟨n.minValue_le_toInt, n.toInt_le⟩, Int64.ofInt_toInt]
  isNull_encode _ := rfl

/-- Values that are spelled as strings are read back if their spelling is. -/
lemma Faithful.spelled {write : α → String} {read : String → Option α}
    (h : ∀ a, read (write a) = some a) : Faithful (spelled write read) where
  decode_encode a := by
    show found (read (write a)) = .ok a
    rw [h]; rfl
  isNull_encode _ := rfl

variable {c : Codec α}

lemma decodeItems_encode [Faithful c] (as : List α) :
    decodeItems c ((as.map c.encode).map Draft.ofJson) = .ok as := by
  induction as with
  | nil => rfl
  | cons a as ih =>
    rw [List.map_cons, List.map_cons, decodeItems, Faithful.decode_encode, ih]; rfl

instance [Faithful c] : Faithful (list c) where
  decode_encode as := by
    simp only [list, Draft.ofJson, Draft.ofItems_eq_map, decodeItems_encode]
    rfl
  isNull_encode _ := rfl

lemma decodeMembers_encode [Faithful c] (es : List (String × α)) :
    decodeMembers c ((es.map fun e => (e.1, c.encode e.2)).map fun m => (m.1, Draft.ofJson m.2))
      = .ok es := by
  induction es with
  | nil => rfl
  | cons e es ih =>
    rw [List.map_cons, List.map_cons, decodeMembers, Faithful.decode_encode, ih]; rfl

instance [Faithful c] : Faithful (map c) where
  decode_encode m := by
    simp only [map, Draft.ofJson, Draft.ofMembers_eq_map, decodeMembers_encode]
    show Except.ok (KeyMap.ofList m.entries) = _
    rw [KeyMap.ofList_entries]
  isNull_encode _ := rfl

end Codec

/-! ## Records -/

namespace Record

variable {α β : Type}

/-- The drafts of the members under a name. -/
def under (name : String) (ms : List (String × Json)) : List Draft :=
  (ms.filter fun m => m.1 = name).map fun m => .ofJson m.2

@[simp] lemma under_append (name : String) (ms ms' : List (String × Json)) :
    under name (ms ++ ms') = under name ms ++ under name ms' := by
  simp only [under, List.filter_append, List.map_append]

lemma under_of_forall_ne {name : String} {ms : List (String × Json)}
    (h : ∀ m ∈ ms, m.1 ≠ name) : under name ms = [] := by
  rw [under, List.filter_eq_nil_iff.2 (by simpa using h), List.map_nil]

lemma valuesOf_place (name : String) (i : Nat) (ms : List (String × Json)) :
    (valuesOf name (place i (Draft.ofMembers ms))).map Prod.snd = under name ms := by
  induction ms generalizing i with
  | nil => rfl
  | cons m ms ih =>
    obtain ⟨k, j⟩ := m
    have hrest := ih (i + 1)
    simp only [valuesOf, under, List.map_map] at hrest ⊢
    by_cases hk : k = name
    · simp [Draft.ofMembers, place, hk, hrest]
    · simp [Draft.ofMembers, place, hk, hrest]

/-- A record writes members of its own names only, and reads a value back wherever each of its names
has the drafts that it has been written with. -/
class Faithful (r : Record α) : Prop where
  name_mem : ∀ a, ∀ m ∈ r.write a, m.1 ∈ r.names
  read_write : r.names.Nodup → ∀ (a : α) (last : Nat) (ms : Placed),
    (∀ n ∈ r.names, (valuesOf n ms).map Prod.snd = under n (r.write a)) → r.read last ms = .ok a

/-! ### Fields -/

/-- A field is read back if each value is either written so that it can be read, or is the one that
stands for an absent member. -/
lemma Faithful.field {name : String} {r : Record α} {f : Nat → List (Nat × Draft) → Except Met α}
    (hnames : r.names = [name]) (hread : ∀ last ms, r.read last ms = f last (valuesOf name ms))
    (h : ∀ a, (r.write a = [] ∧ ∀ last, f last [] = .ok a) ∨
      ∃ j, r.write a = [(name, j)] ∧ ∀ last i, f last [(i, .ofJson j)] = .ok a) :
    r.Faithful where
  name_mem a m hm := by
    rw [hnames]
    obtain ⟨ha, -⟩ | ⟨j, ha, -⟩ := h a
    · simp [ha] at hm
    · simp [ha] at hm
      simp [hm]
  read_write _ a last ms hms := by
    have hname := hms name (by simp [hnames])
    rw [hread]
    obtain ⟨ha, habsent⟩ | ⟨j, ha, hj⟩ := h a
    · rw [ha, under_of_forall_ne (by simp), List.map_eq_nil_iff] at hname
      rw [hname, habsent]
    · have hone : (valuesOf name ms).map Prod.snd = [.ofJson j] :=
        hname.trans (by rw [ha]; simp [under])
      obtain ⟨⟨i, d⟩, hvalues, rfl⟩ := List.map_eq_singleton_iff.1 hone
      rw [hvalues]
      exact hj last i

/-- What a reader accepts is accepted of the member at any place. -/
lemma metAt_eq_ok {read : Except ParseFault α} {a : α} (h : read = .ok a) (i : Nat) :
    metAt i read = .ok a := by
  rw [h]
  rfl

lemma Faithful.lenient {name : String} {write : α → List (String × Json)}
    {read : Draft → Except ParseFault α} {absent : α}
    (h : ∀ a, (write a = [] ∧ a = absent) ∨ ∃ j, write a = [(name, j)] ∧ read (.ofJson j) = .ok a) :
    (lenient name write read absent).Faithful := by
  refine .field (f := fun _ => latest read absent) rfl (fun _ _ => rfl) fun a => ?_
  obtain ⟨ha, rfl⟩ | ⟨j, ha, hj⟩ := h a
  · exact .inl ⟨ha, fun _ => rfl⟩
  · exact .inr ⟨j, ha, fun _ => metAt_eq_ok hj⟩

instance (name : String) (c : Codec α) [c.Faithful] : (optional name c).Faithful :=
  .lenient fun a => by
    cases a with
    | none => exact .inl ⟨rfl, rfl⟩
    | some a =>
      refine .inr ⟨c.encode a, rfl, ?_⟩
      simp only [Draft.isNull_ofJson, Codec.Faithful.isNull_encode, Codec.Faithful.decode_encode]
      rfl

instance (name : String) (c : Codec α) [c.Faithful] (default : α) :
    (defaulted name c default).Faithful :=
  .lenient fun a => .inr ⟨c.encode a, rfl, by
    simp only [Codec.orNull, Draft.isNull_ofJson, Codec.Faithful.isNull_encode,
      Codec.Faithful.decode_encode]
    rfl⟩

instance (name text : String) : (constant name text).Faithful :=
  .lenient fun _ => .inr ⟨.str text, rfl, by
    show Codec.found (if text = text then some () else none) = .ok ()
    rw [if_pos rfl]; rfl⟩

lemma Faithful.strict {name : String} {r : Record α} {read : Draft → Except ParseFault α}
    {absent : Nat → Except Met α} (hnames : r.names = [name])
    (hread : ∀ last ms, r.read last ms = single read (absent last) (valuesOf name ms))
    (h : ∀ a, (r.write a = [] ∧ ∀ last, absent last = .ok a) ∨
      ∃ j, r.write a = [(name, j)] ∧ read (.ofJson j) = .ok a) : r.Faithful := by
  refine .field (f := fun last => single read (absent last)) hnames hread fun a => ?_
  obtain ⟨ha, habsent⟩ | ⟨j, ha, hj⟩ := h a
  · exact .inl ⟨ha, habsent⟩
  · exact .inr ⟨j, ha, fun _ => metAt_eq_ok hj⟩

instance (name : String) (c : Codec α) [c.Faithful] : (required name c).Faithful :=
  .strict rfl (fun _ _ => rfl) fun a => .inr ⟨c.encode a, rfl, Codec.Faithful.decode_encode a⟩

instance (name : String) (c : Codec α) [c.Faithful] (default : α) :
    (requiredOr name c default).Faithful :=
  .strict rfl (fun _ _ => rfl) fun a => .inr ⟨c.encode a, rfl, Codec.Faithful.decode_encode a⟩

instance (name : String) (c : Codec α) [c.Faithful] : (optionalOnce name c).Faithful :=
  .strict rfl (fun _ _ => rfl) fun a => by
    cases a with
    | none => exact .inl ⟨rfl, fun _ => rfl⟩
    | some a =>
      refine .inr ⟨c.encode a, rfl, ?_⟩
      simp only [Draft.isNull_ofJson, Codec.Faithful.isNull_encode, Codec.Faithful.decode_encode]
      rfl

instance (name text : String) : (stamp name text).Faithful where
  name_mem _ m hm := by
    simp [stamp] at hm
    simp [stamp, hm]
  read_write _ _ _ _ _ := rfl

/-! ### Fields beside each other -/

instance (r : Record α) (s : Record β) [r.Faithful] [s.Faithful] : (r.and s).Faithful where
  name_mem p m hm := by
    simp only [Record.and, List.mem_append] at hm ⊢
    exact hm.imp (Faithful.name_mem p.1 m) (Faithful.name_mem p.2 m)
  read_write hnodup p last ms hms := by
    obtain ⟨hr, hs, hdisjoint⟩ := List.nodup_append.1 hnodup
    simp only [Record.and, List.mem_append, under_append] at hms ⊢
    have hleft : r.read last ms = .ok p.1 := by
      refine Faithful.read_write hr p.1 last ms fun n hn => ?_
      have hnil : under n (s.write p.2) = [] := under_of_forall_ne <| by
        rintro m hm rfl
        exact hdisjoint _ hn _ (Faithful.name_mem p.2 m hm) rfl
      rw [hms n (.inl hn), hnil, List.append_nil]
    have hright : s.read last ms = .ok p.2 := by
      refine Faithful.read_write hs p.2 last ms fun n hn => ?_
      have hnil : under n (r.write p.1) = [] := under_of_forall_ne <| by
        rintro m hm rfl
        exact hdisjoint _ (Faithful.name_mem p.1 m hm) _ hn rfl
      rw [hms n (.inr hn), hnil, List.nil_append]
    rw [hleft, hright]; rfl

lemma Faithful.via {r : Record α} [r.Faithful] {build : α → β} {parts : β → α}
    (hparts : ∀ b, build (parts b) = b) : (r.via build parts).Faithful where
  name_mem b := Faithful.name_mem (parts b)
  read_write hnodup b last ms hms := by
    simp only [Record.via] at hnodup hms ⊢
    rw [Faithful.read_write hnodup (parts b) last ms hms]
    exact congrArg Except.ok (hparts b)

/-- An object is read back if its record is faithful and names no member twice. -/
lemma Faithful.decodeObject_write {r : Record α} [r.Faithful] (hnodup : r.names.Nodup) (a : α) :
    r.decodeObject (Draft.ofMembers (r.write a)) none = .ok a := by
  have hread : r.read (Draft.ofMembers (r.write a)).length
      (place 0 (Draft.ofMembers (r.write a))) = .ok a :=
    Faithful.read_write hnodup a _ _ fun n _ => valuesOf_place n 0 _
  rw [decodeObject, hread]; rfl

end Record

variable {α β : Type} {r : Record α} [r.Faithful] {build : α → β} {parts : β → α}

/-- **A structure is read back** if its fields are, their names differ, and it is built from its own
parts. -/
lemma Codec.Faithful.via (hnodup : r.names.Nodup) (hparts : ∀ b, build (parts b) = b) :
    (r.via build parts).codec.Faithful where
  decode_encode b :=
    have : (r.via build parts).Faithful := .via hparts
    Record.Faithful.decodeObject_write (r := r.via build parts) hnodup b
  isNull_encode _ := rfl

/-- A structure that may also be written as an array is read back likewise, for it never is. -/
lemma Codec.Faithful.positional (hnodup : r.names.Nodup) (hparts : ∀ b, build (parts b) = b) :
    (r.via build parts).positional.Faithful where
  decode_encode := (Codec.Faithful.via hnodup hparts).decode_encode
  isNull_encode _ := rfl

end SpokeSim
