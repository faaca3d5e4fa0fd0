import SpokeSim.Yaml.Value

/-!
# Views

What a reader of documents wants to know of a part of a document is a `View`: whether anything is
there, and which text, truth value, items or fields it has.  There are two of them, and they differ
in what counts.

* `View.written`: the nodes as they are written.  Every scalar is a text, whatever it could mean.
* `View.meant`: the values that nodes mean.  Only a scalar that means a text is a text.

Under both an empty scalar has neither items nor fields, and the keys of fields are texts.
-/

namespace SpokeSim.Yaml

/-- How the parts of a document are looked at. -/
structure View (ν : Type) where
  /-- The part, unless it stands for nothing. -/
  present? : ν → Following (Option ν)
  text : ν → Following String
  truth : ν → Following Bool
  items : ν → Following (List ν)
  fields : ν → Following (List (String × ν))
  /-- The word that picks one of several alternatives. -/
  word : ν → Following String
  /-- Nothing, if the part could be written as JSON. -/
  json : ν → Following Unit

namespace View

/-! ## Nodes as they are written -/

/-- A node with the number of levels that are left for it. -/
structure Placed where
  node : Node
  depth : Nat

/-- The text of a scalar that a node is or stands for. -/
def characters (d : Document) (y : Node) : Following String := do
  match ← d.follow y with
  | .scalar _ _ s => return s
  | _ => failure

/-- Whether a scalar stands for nothing, if its tag and its characters agree. -/
def isNothing? (tag : Option String) (style : Style) (s : String) : Option Bool :=
  if style ≠ .plain then some false
  else
    match tag with
    | none => some (s = "" || nullWords.contains s)
    | some tag =>
      if tag ≠ coreTag "null" then some false
      else if nullWords.contains s then some true
      else none

/-- The truth value of a scalar.  One in a literal block needs the tag for it. -/
def truthOf? (tag : Option String) (style : Style) (s : String) : Option Bool :=
  if style = .plain ∨ (style = .literal ∧ tag = some (coreTag "bool")) then truth? s else none

/-- The word of a scalar: its tag, if it has one of its own and stands for nothing else, or its
characters. -/
def wordOf? (tag : Option String) (style : Style) (s : String) : Option String :=
  match ownTag? tag with
  | some name =>
    if style = .plain ∧ (s = "" ∨ nullWords.contains s) then some name else none
  | none => some s

/-- Whether a scalar can be written as JSON. -/
def isJsonScalar (tag : Option String) (style : Style) (s : String) : Bool :=
  (ownTag? tag).isNone && ((scalarMeaning? tag style s).bind Value.ofMeaning?).isSome

/-- Nothing, if a node could be written as JSON.  Every scalar may be a key there. -/
def checkJson (d : Document) : Nat → Node → Following Unit
  | 0, y => do
    match ← d.follow y with
    | .scalar tag style s => if isJsonScalar tag style s then return () else failure
    | _ => failure
  | depth + 1, y => do
    match ← d.follow y with
    | .scalar tag style s => if isJsonScalar tag style s then return () else failure
    | .seq tag items =>
      if (ownTag? tag).isSome then failure else items.forM (checkJson d depth)
    | .map tag members =>
      if (ownTag? tag).isSome then failure
      else
        members.forM fun (k, v) => do
          let _ ← characters d k
          checkJson d depth v
    | .alias _ => failure

/-- The nodes of a document as they are written. -/
def written (d : Document) : View Placed where
  present? p := do
    let y ← d.follow p.node
    match y with
    | .scalar tag style s =>
      if ← (isNothing? tag style s : Option Bool) then return none
      else return some { p with node := y }
    | y => return some { p with node := y }
  text p := characters d p.node
  truth p := do
    match ← d.follow p.node with
    | .scalar tag style s => truthOf? tag style s
    | _ => failure
  items p := do
    match ← d.follow p.node, p.depth with
    | .seq _ ys, depth + 1 => return ys.map (⟨·, depth⟩)
    | .scalar _ .plain "", _ => return []
    | _, _ => failure
  fields p := do
    match ← d.follow p.node, p.depth with
    | .map _ ms, depth + 1 => ms.mapM fun (k, v) => return (← characters d k, ⟨v, depth⟩)
    | .scalar _ .plain "", _ => return []
    | _, _ => failure
  word p := do
    match ← d.follow p.node with
    | .scalar tag style s => wordOf? tag style s
    | _ => failure
  json p := checkJson d p.depth p.node

/-! ## Values that are meant -/

/-- The text of a value. -/
def textOf? (v : Value) : Option String :=
  match v.untag with
  | .text s => some s
  | _ => none

mutual

/-- Whether a value can be written as JSON. -/
def isJson : Value → Bool
  | .seq vs => areJson vs
  | .map ms => areJsonMembers ms
  | .tagged .. => false
  | _ => true

/-- Whether all items can be written as JSON. -/
def areJson : List Value → Bool
  | [] => true
  | v :: vs => isJson v && areJson vs

/-- Whether all members can be written as JSON. -/
def areJsonMembers : List (Value × Value) → Bool
  | [] => true
  | (k, v) :: ms => (textOf? k).isSome && isJson v && areJsonMembers ms

end

/-- The values of a document. -/
def meant : View Value where
  present?
    | .null => return none
    | v => return some v
  text v := textOf? v
  truth v :=
    match v.untag with
    | .bool b => return b
    | _ => failure
  items v :=
    match v.untag with
    | .seq vs => return vs
    | .null => return []
    | _ => failure
  fields v :=
    match v.untag with
    | .map ms => ms.mapM fun (k, v) => return (← (textOf? k : Option String), v)
    | .null => return []
    | _ => failure
  word
    | .text s => return s
    | .tagged name v =>
      match v.untag with
      | .null => return name
      | _ => failure
    | _ => failure
  json v := if isJson v then return () else failure

end View

end SpokeSim.Yaml
