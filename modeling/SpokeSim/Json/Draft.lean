import SpokeSim.Json.Basic

/-!
# Drafts

A draft is a text taken for a JSON document as far as that goes.  It differs from a document in
that it may have *flaws*: places at which the text stops to be a document.  Someone who reads a
draft from left to right, and only wants some parts of it, meets its flaws in their order, and need
not meet all of them:

* what is wrong with a value is met by a reader who wants the value;
* one who passes over the value gets by if only its meaning is at fault, such as half a surrogate
  pair, a number that is too large, or too many levels.

A draft ends with the first flaw that nobody gets by.  Such a flaw is either `truncated`, when the
text ends there, or `malformed`.

* `Draft.ofJson`: a document is a draft without flaws.
* `Draft.value`: the document of a draft, or the first of its flaws.
-/

namespace SpokeSim.Json

/-- Why a text is no document. -/
inductive ParseFault where
  /-- The text ends inside the document. -/
  | truncated
  /-- Some character rules the text out. -/
  | malformed
deriving Repr, DecidableEq, Inhabited

/-- A place at which a text stops to be a document. -/
structure Flaw where
  /-- What is met by one who wants what stands here. -/
  read : ParseFault
  /-- What is met by one who passes over it, unless that one gets by. -/
  skip : Option ParseFault
deriving Repr, DecidableEq, Inhabited

/-- A flaw that nobody gets by. -/
def Flaw.final (f : ParseFault) : Flaw := ⟨f, some f⟩

/-- A text taken for a document. -/
inductive Draft where
  | null
  | bool (b : Bool)
  /-- A whole number of at most 64 bits. -/
  | int (n : Int)
  /-- Any other number, by its text. -/
  | real (text : String)
  | str (s : String)
  /-- Items, with the flaw behind the last of them. -/
  | arr (items : List Draft) (flaw : Option Flaw)
  /-- Members in the order in which they are written, with the flaw behind the last of them. -/
  | obj (members : List (String × Draft)) (flaw : Option Flaw)
  /-- Something that begins with a character, if with any, and is no value. -/
  | broken (start : Option Char) (flaw : Flaw)
deriving Repr, Inhabited

namespace Draft

/-! ## From documents -/

mutual

/-- A document as a draft. -/
def ofJson : Json → Draft
  | .null => null
  | .bool b => bool b
  | .int n => int n
  | .real text => real text
  | .str s => str s
  | .arr items => arr (ofItems items) none
  | .obj members => obj (ofMembers members) none

/-- The items of a document as drafts. -/
def ofItems : List Json → List Draft
  | [] => []
  | j :: js => ofJson j :: ofItems js

/-- The members of a document as drafts. -/
def ofMembers : List (String × Json) → List (String × Draft)
  | [] => []
  | (k, j) :: ms => (k, ofJson j) :: ofMembers ms

end

/-! ## Parts -/

/-- Whether a draft is `null`. -/
def isNull : Draft → Bool
  | null => true
  | _ => false

/-! ## Flaws -/

/-- What is met by one who passes over a draft. -/
def skip? : Draft → Option ParseFault
  | arr _ flaw | obj _ flaw => flaw.bind (·.skip)
  | broken _ flaw => flaw.skip
  | _ => none

/-- What is met by one who wants something else than what stands here.  A scalar is read to its end
before its sort is looked at; of an array or object the first character tells. -/
def misfit : Draft → ParseFault
  | broken _ flaw => flaw.read
  | _ => .malformed

/-- The flaw behind the last part of something that must be at its end, where `more` says whether
there are further parts. -/
def ending (more : Bool) (flaw : Option Flaw) : Except ParseFault Unit :=
  if more then .error .malformed
  else
    match flaw with
    | some f => .error f.read
    | none => .ok ()

/-- The draft with something behind its end. -/
def spoil : Draft → Draft
  | arr items flaw => arr items (some ⟨(flaw.map (·.read)).getD .malformed, some .malformed⟩)
  | obj members flaw => obj members (some ⟨(flaw.map (·.read)).getD .malformed, some .malformed⟩)
  | broken start flaw => broken start { flaw with skip := some .malformed }
  | _ => broken none (.final .malformed)

/-! ## Documents -/

mutual

/-- The document of a draft. -/
def value : Draft → Except ParseFault Json
  | null => .ok .null
  | bool b => .ok (.bool b)
  | int n => .ok (.int n)
  | real text => .ok (.real text)
  | str s => .ok (.str s)
  | arr items flaw => do
    let js ← values items
    ending false flaw
    return .arr js
  | obj members flaw => do
    let ms ← memberValues members
    ending false flaw
    return .obj ms
  | broken _ flaw => .error flaw.read

/-- The documents of items. -/
def values : List Draft → Except ParseFault (List Json)
  | [] => .ok []
  | d :: ds => do
    let j ← value d
    let js ← values ds
    return j :: js

/-- The documents of members. -/
def memberValues : List (String × Draft) → Except ParseFault (List (String × Json))
  | [] => .ok []
  | (k, d) :: ms => do
    let j ← value d
    let js ← memberValues ms
    return (k, j) :: js

end

end Draft

end SpokeSim.Json
