import SpokeSim.Json.Draft
import SpokeSim.KeyMap

/-!
# Typed values in documents

A `Codec α` says how a value of `α` is written as a document and which drafts are read as one.  Of
several things that are wrong with a draft, reading reports the one that is met first from left to
right; where documents are concerned, it only matters that there is one (`Codec.ofJson?`).

A `Record α` does the same for the members of an object, and records are put together from their
fields, so that the writer and the reader of a structure come from one description of it.

Two families of fields differ in what they make of an object that does not hold the field exactly
once.

* *Lenient* fields (`optional`, `defaulted`, `constant`) take the last of several members of their
  name, though each of them must fit, and take `null` for an absent member.
* *Strict* fields (`required`, `requiredOr`, `optionalOnce`, `buffered`) refuse an object that
  repeats their name; of them only `optionalOnce` takes `null`.

Members that no field asks for are passed over, unless the record is made `watchful`.  A draft that
is no object is no record, unless the record may also be written as an array (`positional`).
-/

namespace SpokeSim

open Json (Draft Flaw ParseFault)

/-- How values of a type are written and read. -/
structure Codec (α : Type) where
  /-- The document of a value. -/
  encode : α → Json
  /-- The value of a draft, if the draft fits the type. -/
  decode : Draft → Except ParseFault α

namespace Codec

variable {α β : Type}

/-- The value of a document, if the document fits the type. -/
def ofJson? (c : Codec α) (j : Json) : Option α := (c.decode (.ofJson j)).toOption

/-- A value that must be there. -/
def found : Option α → Except ParseFault α
  | some a => .ok a
  | none => .error .malformed

/-! ## Simple values -/

/-- Any document. -/
def document : Codec Json := ⟨id, Draft.value⟩

/-- Strings. -/
def text : Codec String where
  encode := .str
  decode
    | .str s => .ok s
    | d => .error d.misfit

/-- Truth values. -/
def bool : Codec Bool where
  encode := .bool
  decode
    | .bool b => .ok b
    | d => .error d.misfit

/-- Signed whole numbers of 32 bits. -/
def int32 : Codec Int32 where
  encode n := .int n.toInt
  decode
    | .int n =>
      if Int32.minValue.toInt ≤ n ∧ n ≤ Int32.maxValue.toInt then .ok (Int32.ofInt n)
      else .error .malformed
    | d => .error d.misfit

/-- Signed whole numbers of 64 bits. -/
def int64 : Codec Int64 where
  encode n := .int n.toInt
  decode
    | .int n =>
      if Int64.minValue.toInt ≤ n ∧ n ≤ Int64.maxValue.toInt then .ok (Int64.ofInt n)
      else .error .malformed
    | d => .error d.misfit

/-- Unsigned whole numbers of 16 bits. -/
def uint16 : Codec UInt16 where
  encode n := .int n.toNat
  decode
    | .int n => if 0 ≤ n ∧ n < UInt16.size then .ok (UInt16.ofNat n.toNat) else .error .malformed
    | d => .error d.misfit

/-- Unsigned whole numbers of 32 bits. -/
def uint32 : Codec UInt32 where
  encode n := .int n.toNat
  decode
    | .int n => if 0 ≤ n ∧ n < UInt32.size then .ok (UInt32.ofNat n.toNat) else .error .malformed
    | d => .error d.misfit

/-- Values that are written as strings of some form. -/
def spelled (write : α → String) (read : String → Option α) : Codec α where
  encode a := .str (write a)
  decode d := do found (read (← text.decode d))

/-! ## Choices -/

/-- The choice that a draft names: a string, or an object whose only member is the name, with
`null` under it.  Whatever begins otherwise is refused by its first character. -/
def decodeChoice (read : String → Option α) : Draft → Except ParseFault α
  | .str s => found (read s)
  | .obj ((s, d) :: more) flaw => do
    let a ← found (read s)
    if d.isNull then
      Draft.ending (!more.isEmpty) flaw
      return a
    else throw d.misfit
  | .obj [] flaw => .error ((flaw.map (·.read)).getD .malformed)
  | .broken start flaw =>
    if start = none ∨ start = some '"' then .error flaw.read else .error .malformed
  | _ => .error .malformed

/-- One of some names. -/
def choice (write : α → String) (read : String → Option α) : Codec α :=
  ⟨fun a => .str (write a), decodeChoice read⟩

/-! ## Lists and maps -/

/-- Every item of a list fits, or the list does not. -/
def decodeItems (c : Codec α) : List Draft → Except ParseFault (List α)
  | [] => .ok []
  | d :: ds => do
    let a ← c.decode d
    let as ← decodeItems c ds
    return a :: as

/-- Arrays of values. -/
def list (c : Codec α) : Codec (List α) where
  encode as := .arr (as.map c.encode)
  decode
    | .arr items flaw => do
      let as ← decodeItems c items
      Draft.ending false flaw
      return as
    | d => .error d.misfit

/-- Every member of an object fits, or the object does not. -/
def decodeMembers (c : Codec α) : List (String × Draft) → Except ParseFault (List (String × α))
  | [] => .ok []
  | (k, d) :: ms => do
    let a ← c.decode d
    let as ← decodeMembers c ms
    return (k, a) :: as

/-- Objects whose members are all values of one type, under any names. -/
def map (c : Codec α) : Codec (KeyMap α) where
  encode m := .obj (m.entries.map fun e => (e.1, c.encode e.2))
  decode
    | .obj members flaw => do
      let as ← decodeMembers c members
      Draft.ending false flaw
      return KeyMap.ofList as
    | d => .error d.misfit

/-- Values that may also be `null`, which stands for a default. -/
def orNull (c : Codec α) (default : α) : Codec α where
  encode := c.encode
  decode d := if d.isNull then .ok default else c.decode d

end Codec

/-! ## Records -/

/-- Members with their places in an object. -/
abbrev Placed := List (Nat × String × Draft)

/-- What is wrong with an object, and the place of the member at which that is met; a place behind
all members means that it is met at the end of the object. -/
abbrev Met := Nat × ParseFault

/-- How the members of an object are written and read. -/
structure Record (α : Type) where
  /-- The names of the members that the record writes. -/
  names : List String
  /-- The members of a value, in the order in which they are written. -/
  write : α → List (String × Json)
  /-- The value of an object's members, if they fit; `last` is the place behind all of them. -/
  read : (last : Nat) → Placed → Except Met α
  /-- The value of an array's items, with the items that are left and what is behind the last of
  them. -/
  readItems : Option Flaw → List Draft → Except ParseFault (α × List Draft)

namespace Record

variable {α β : Type}

/-- The drafts under a name with their places, in their order. -/
def valuesOf (name : String) (members : Placed) : List (Nat × Draft) :=
  (members.filter fun m => m.2.1 = name).map fun m => (m.1, m.2.2)

/-- A fault of the member at a place. -/
def metAt (place : Nat) (r : Except ParseFault α) : Except Met α := r.mapError fun f => (place, f)

/-- Every one of some members is a document. -/
def readDocuments : Placed → Except Met Unit
  | [] => .ok ()
  | (i, _, d) :: ms => (metAt i d.value).bind fun _ => readDocuments ms

/-- Read the next item; `absent` tells of an array that has been closed before it. -/
def nextItem (read : Draft → Except ParseFault α) (absent : Except ParseFault α)
    (flaw : Option Flaw) : List Draft → Except ParseFault (α × List Draft)
  | d :: ds => do return (← read d, ds)
  | [] => do
    Draft.ending false flaw
    return (← absent, [])

/-! ### Lenient fields -/

/-- Each draft must fit; the last one counts, and `absent` where there is none. -/
def latest (read : Draft → Except ParseFault α) (absent : α) :
    List (Nat × Draft) → Except Met α
  | [] => .ok absent
  | [(i, d)] => metAt i (read d)
  | (i, d) :: ds => (metAt i (read d)).bind fun _ => latest read absent ds

/-- A lenient field. -/
def lenient (name : String) (write : α → List (String × Json))
    (read : Draft → Except ParseFault α) (absent : α) : Record α where
  names := [name]
  write := write
  read _ ms := latest read absent (valuesOf name ms)
  readItems := nextItem read (.ok absent)

/-- A field that may be missing, `null` meaning the same; it is written when it has a value. -/
def optional (name : String) (c : Codec α) : Record (Option α) :=
  lenient name (fun a => a.toList.map fun a => (name, c.encode a))
    (fun d => if d.isNull then .ok none else (c.decode d).map some) none

/-- A field that has a default for when it is missing or `null`; it is always written. -/
def defaulted (name : String) (c : Codec α) (default : α) : Record α :=
  lenient name (fun a => [(name, c.encode a)]) (c.orNull default).decode default

/-- A field that may be missing but, where it stands, holds one fixed text. -/
def constant (name text : String) : Record Unit :=
  lenient name (fun _ => [(name, .str text)])
    (Codec.spelled (fun _ => text) fun s => if s = text then some () else none).decode ()

/-! ### Strict fields -/

/-- At most one draft, which must fit; `absent` where there is none. -/
def single (read : Draft → Except ParseFault α) (absent : Except Met α) :
    List (Nat × Draft) → Except Met α
  | [] => absent
  | [(i, d)] => metAt i (read d)
  | (i, d) :: (k, _) :: _ => (metAt i (read d)).bind fun _ => .error (k, .malformed)

/-- A field that stands exactly once. -/
def required (name : String) (c : Codec α) : Record α where
  names := [name]
  write a := [(name, c.encode a)]
  read last ms := single c.decode (.error (last, .malformed)) (valuesOf name ms)
  readItems := nextItem c.decode (.error .malformed)

/-- A field that stands at most once and has a default for when it is missing. -/
def requiredOr (name : String) (c : Codec α) (default : α) : Record α where
  names := [name]
  write a := [(name, c.encode a)]
  read _ ms := single c.decode (.ok default) (valuesOf name ms)
  readItems := nextItem c.decode (.ok default)

/-- A field that stands at most once, `null` meaning that it is missing; it is written when it has
a value.  Only an object may leave it out: in an array there must be an item for it. -/
def optionalOnce (name : String) (c : Codec α) : Record (Option α) :=
  let read (d : Draft) := if d.isNull then .ok none else (c.decode d).map some
  { names := [name]
    write := fun a => a.toList.map fun a => (name, c.encode a)
    read := fun _ ms => single read (.ok none) (valuesOf name ms)
    readItems := nextItem read (.error .malformed) }

/-- A field that stands exactly once and may hold any document; whether it fits is only looked at
when the whole object has been read. -/
def buffered (name : String) (c : Codec α) : Record α where
  names := [name]
  write a := [(name, c.encode a)]
  read last ms := do
    readDocuments (ms.filter fun m => m.2.1 = name)
    single c.decode (.error (last, .malformed))
      ((valuesOf name ms).map fun m => (last, m.2))
  readItems := nextItem c.decode (.error .malformed)

/-- A field that is written with a fixed text and never looked at; an array has no item for it. -/
def stamp (name text : String) : Record Unit where
  names := [name]
  write _ := [(name, .str text)]
  read _ _ := .ok ()
  readItems _ ds := .ok ((), ds)

/-! ### Putting fields together -/

/-- Two results beside each other; of two faults the one that is met first. -/
def both (a : Except Met α) (b : Except Met β) : Except Met (α × β) :=
  match a, b with
  | .ok a, .ok b => .ok (a, b)
  | .error e, .ok _ => .error e
  | .ok _, .error e => .error e
  | .error e, .error e' => .error (if e'.1 < e.1 then e' else e)

/-- The fields of two records beside each other, written one record after the other. -/
def and (r : Record α) (s : Record β) : Record (α × β) where
  names := r.names ++ s.names
  write p := r.write p.1 ++ s.write p.2
  read last ms := both (r.read last ms) (s.read last ms)
  readItems flaw ds := do
    let (a, ds) ← r.readItems flaw ds
    let (b, ds) ← s.readItems flaw ds
    return ((a, b), ds)

/-- A record of `β` from one of its parts. -/
def via (r : Record α) (build : α → β) (parts : β → α) : Record β where
  names := r.names
  write b := r.write (parts b)
  read last ms := (r.read last ms).map build
  readItems flaw ds := (r.readItems flaw ds).map fun p => (build p.1, p.2)

/-- The record, with members that no field asks for read as documents and not passed over. -/
def watchful (r : Record α) : Record α where
  names := r.names
  write := r.write
  read last ms :=
    (both (r.read last ms) (readDocuments (ms.filter fun m => !r.names.contains m.2.1))).map
      Prod.fst
  readItems := r.readItems

/-! ### Objects -/

/-- The result for a whole object with so many members: a flaw behind them is met before whatever
is met at the end. -/
def atEnd (count : Nat) (flaw : Option Flaw) (r : Except Met α) : Except ParseFault α :=
  match r with
  | .ok a => (Draft.ending false flaw).map fun _ => a
  | .error (i, f) =>
    if i < count then .error f else (Draft.ending false flaw).bind fun _ => .error f

/-- Members with their places, counted from `i`. -/
def place : Nat → List (String × Draft) → Placed
  | _, [] => []
  | i, (k, d) :: ms => (i, k, d) :: place (i + 1) ms

/-- The value of a whole object. -/
def decodeObject (r : Record α) (members : List (String × Draft)) (flaw : Option Flaw) :
    Except ParseFault α :=
  atEnd members.length flaw (r.read members.length (place 0 members))

/-- The objects that hold the record's members. -/
def codec (r : Record α) : Codec α where
  encode a := .obj (r.write a)
  decode
    | .obj members flaw => r.decodeObject members flaw
    | d => .error d.misfit

/-- The objects that hold the record's members, and the arrays of their values in order, of which
fields with a default may be missing at the end. -/
def positional (r : Record α) : Codec α where
  encode a := .obj (r.write a)
  decode
    | .obj members flaw => r.decodeObject members flaw
    | .arr items flaw => do
      let (a, rest) ← r.readItems flaw items
      Draft.ending (!rest.isEmpty) flaw
      return a
    | d => .error d.misfit

end Record

end SpokeSim
