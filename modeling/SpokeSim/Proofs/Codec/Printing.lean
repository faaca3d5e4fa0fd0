import SpokeSim.Proofs.Codec.Text

/-!
# What is written can be printed

What a codec writes for a value is read back from its text if all its numbers fit and no part of it
nests too deep.  Both can be told from the description of its fields: each list, map and object
nests one level deeper than its parts (`Codec.Prints`).  A record is followed value by value
(`Record.PrintsAt`), for a field may hold documents of which nothing is known.
-/

namespace SpokeSim

/-- Whatever a codec writes is printed and read back, and nests no deeper than so many levels. -/
class Codec.Prints {α : Type} (c : Codec α) (levels : Nat) : Prop where
  printable : ∀ a, (c.encode a).Printable levels

/-- Each member that a record writes for a value is printed and read back. -/
def Record.PrintsAt {α : Type} (r : Record α) (levels : Nat) (a : α) : Prop :=
  ∀ m ∈ r.write a, m.2.Printable levels

/-- So it is for any value. -/
class Record.Prints {α : Type} (r : Record α) (levels : Nat) : Prop where
  printsAt : ∀ a, r.PrintsAt levels a

variable {α β : Type} {levels : Nat}

namespace Codec

instance : text.Prints levels := ⟨.str⟩

instance : bool.Prints levels := ⟨.bool⟩

instance : int32.Prints levels where
  printable n := by
    have hleast := n.minValue_le_toInt
    have hmost := n.toInt_lt
    have hmin : Int32.minValue.toInt = -2147483648 := rfl
    have hmin' : Int64.minValue.toInt = -9223372036854775808 := by decide
    have hsize : UInt64.size = 18446744073709551616 := rfl
    exact .int (by omega) (by omega)

instance : int64.Prints levels where
  printable n := by
    have hmost := n.toInt_lt
    have hsize : UInt64.size = 18446744073709551616 := rfl
    exact .int n.minValue_le_toInt (by omega)

lemma Prints.spelled {write : α → String} {read : String → Option α} :
    (spelled write read).Prints levels := ⟨fun a => .str (write a)⟩

variable {c : Codec α}

lemma printable_list {as : List α} (h : ∀ a ∈ as, (c.encode a).Printable levels) :
    ((list c).encode as).Printable (levels + 1) := by
  refine .arr fun j hj => ?_
  obtain ⟨a, ha, rfl⟩ := List.mem_map.1 hj
  exact h a ha

instance [c.Prints levels] : (list c).Prints (levels + 1) :=
  ⟨fun _ => printable_list fun a _ => Prints.printable a⟩

instance [c.Prints levels] : (map c).Prints (levels + 1) where
  printable _ := .obj fun m hm => by
    obtain ⟨e, -, rfl⟩ := List.mem_map.1 hm
    exact Prints.printable e.2

end Codec

namespace Record

variable {name : String} {c : Codec α}

lemma PrintsAt.required {a : α} (h : (c.encode a).Printable levels) :
    (required name c).PrintsAt levels a := by
  intro m hm
  rw [List.mem_singleton.1 hm]
  exact h

lemma PrintsAt.optional {o : Option α} (h : ∀ a ∈ o, (c.encode a).Printable levels) :
    (optional name c).PrintsAt levels o := by
  cases o with
  | none => exact fun _ hm => nomatch hm
  | some a => exact .required (h a rfl)

lemma PrintsAt.and {r : Record α} {s : Record β} {p : α × β} (hr : r.PrintsAt levels p.1)
    (hs : s.PrintsAt levels p.2) : (r.and s).PrintsAt levels p :=
  fun m hm => (List.mem_append.1 hm).elim (hr m) (hs m)

instance [c.Prints levels] : (required name c).Prints levels :=
  ⟨fun a => .required (Codec.Prints.printable a)⟩

instance [c.Prints levels] (default : α) : (requiredOr name c default).Prints levels :=
  ⟨fun a => .required (Codec.Prints.printable a)⟩

instance [c.Prints levels] (default : α) : (defaulted name c default).Prints levels :=
  ⟨fun a => .required (Codec.Prints.printable a)⟩

instance [c.Prints levels] : (optional name c).Prints levels :=
  ⟨fun _ => .optional fun a _ => Codec.Prints.printable a⟩

instance [c.Prints levels] : (optionalOnce name c).Prints levels :=
  ⟨fun _ => .optional fun a _ => Codec.Prints.printable a⟩

instance (text : String) : (stamp name text).Prints levels :=
  ⟨fun _ => .required (c := Codec.text) (Codec.Prints.printable text)⟩

instance (r : Record α) (s : Record β) [r.Prints levels] [s.Prints levels] :
    (r.and s).Prints levels :=
  ⟨fun p => .and (Prints.printsAt p.1) (Prints.printsAt p.2)⟩

/-- What is written for an object nests one level deeper than its members. -/
lemma PrintsAt.printable {r : Record α} {a : α} (h : r.PrintsAt levels a) :
    (r.codec.encode a).Printable (levels + 1) := .obj h

end Record

/-! ### Structures

What is written for a structure nests one level deeper than what is written for its parts. -/

variable {r : Record α} [r.Prints levels] {build : α → β} {parts : β → α}

lemma Codec.Prints.via : (r.via build parts).codec.Prints (levels + 1) :=
  ⟨fun b => .obj (Record.Prints.printsAt (parts b))⟩

lemma Codec.Prints.positional : (r.via build parts).positional.Prints (levels + 1) :=
  ⟨fun b => .obj (Record.Prints.printsAt (parts b))⟩

end SpokeSim
