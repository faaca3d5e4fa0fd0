import SpokeSim.Decimal
import SpokeSim.Yaml.Node

/-!
# Values

What the nodes of a document mean.  A plain scalar may mean nothing, a truth value or a number,
which its characters decide; every other scalar means a text, unless its tag says otherwise.

* `meaning`: what the characters of a plain scalar mean.
* `Value.ofDocument`: the value of a document.  Its maps repeat no key, its whole numbers have at
  most 64 bits, and it nests at most `depthLimit` deep.
* `Value.same`: whether two values count as one key.
-/

namespace SpokeSim.Yaml

/-! ## Plain scalars -/

/-- The spellings of nothing. -/
def nullWords : List String := ["~", "null", "Null", "NULL"]

/-- The truth value of a spelling. -/
def truth? (s : String) : Option Bool :=
  if ["true", "True", "TRUE"].contains s then some true
  else if ["false", "False", "FALSE"].contains s then some false
  else none

/-- The digits of a base. -/
def digit? (base : Nat) (c : Char) : Option Nat := (Json.hexValue? c).filter (· < base)

/-- The number of at least one digit of a base. -/
def digits? (base : Nat) (cs : List Char) : Option Nat :=
  if cs.isEmpty then none
  else (cs.mapM (digit? base)).map fun vs => vs.foldl (fun n v => base * n + v) 0

/-- A whole number without sign in decimal digits, of which the first of several is no zero, or
behind a mark of its base. -/
def natural? : List Char → Option Nat
  | '0' :: 'x' :: cs => digits? 16 cs
  | '0' :: 'o' :: cs => digits? 8 cs
  | '0' :: 'b' :: cs => digits? 2 cs
  | '0' :: _ :: _ => none
  | cs => digits? 10 cs

/-- A whole number. -/
def whole? : List Char → Option Int
  | '-' :: cs => (natural? cs).map fun n => -(n : Int)
  | '+' :: cs => (natural? cs).map Int.ofNat
  | cs => (natural? cs).map Int.ofNat

/-- An exponent, or nothing at all. -/
def exponent? : List Char → Option Int
  | [] => some 0
  | e :: cs =>
    if e == 'e' || e == 'E' then
      match cs with
      | '-' :: ds => (digits? 10 ds).map fun n => -(n : Int)
      | '+' :: ds => (digits? 10 ds).map Int.ofNat
      | ds => (digits? 10 ds).map Int.ofNat
    else none

/-- Digits with a fraction and an exponent. -/
def decimal? (negative : Bool) (cs : List Char) : Option Decimal := do
  let (whole, rest) := cs.span Char.isDigit
  let (fraction, rest) := match rest with
    | '.' :: rest => rest.span Char.isDigit
    | rest => ([], rest)
  let exponent ← exponent? rest
  let digits ← digits? 10 (whole ++ fraction)
  return { negative, digits, exponent := exponent - fraction.length }

/-- A number in decimal digits; one that is out of range is none. -/
def finite? (cs : List Char) : Option Float :=
  let d := match cs with
    | '-' :: cs => decimal? true cs
    | '+' :: cs => decimal? false cs
    | cs => decimal? false cs
  (d.filter (!·.isHuge)).map (·.toFloat)

/-- A number of floating point. -/
def float? (s : String) : Option Float :=
  if [".inf", ".Inf", ".INF", "+.inf", "+.Inf", "+.INF"].contains s then some (1.0 / 0.0)
  else if ["-.inf", "-.Inf", "-.INF"].contains s then some (-1.0 / 0.0)
  else if [".nan", ".NaN", ".NAN"].contains s then some (0.0 / 0.0)
  else finite? s.toList

/-- Whether characters are several digits of which the first is a zero, with a sign or without. -/
def isPadded (cs : List Char) : Bool :=
  let ds := match cs with
    | '-' :: ds => ds
    | '+' :: ds => ds
    | ds => ds
  ds.length > 1 && ds.head? == some '0' && ds.all Char.isDigit

/-- What a scalar may mean. -/
inductive Meaning where
  | nothing
  | truth (b : Bool)
  /-- A whole number of at most 64 bits. -/
  | int (n : Int)
  /-- A whole number of more bits, but at most 128. -/
  | wide
  | real (x : Float)
  | text (s : String)

/-- The whole number that characters mean, unless it is out of all ranges. -/
def wholeMeaning? (s : String) : Option Meaning :=
  (whole? s.toList).bind fun n =>
    if Int64.minValue.toInt ≤ n ∧ n < UInt64.size then some (.int n)
    else if (BitVec.intMin 128).toInt ≤ n ∧ n ≤ (BitVec.allOnes 128).toNat then some .wide
    else none

/-- What the characters of a plain scalar mean. -/
def meaning (s : String) : Meaning :=
  if s = "" ∨ nullWords.contains s then .nothing
  else
    match truth? s with
    | some b => .truth b
    | none =>
      match wholeMeaning? s with
      | some m => m
      | none =>
        match if isPadded s.toList then none else float? s with
        | some x => .real x
        | none => .text s

/-! ## Tags -/

/-- The beginning of the tags of the core types. -/
def coreTag (name : String) : String := "tag:yaml.org,2002:" ++ name

/-- The name of a tag of one's own. -/
def ownTag? (tag : Option String) : Option String :=
  match tag.map String.toList with
  | some ['!'] => some "!"
  | some ('!' :: name) => some (String.ofList name)
  | _ => none

/-- What a scalar means that has a tag, if the tag and its characters agree. -/
def taggedMeaning? (tag : String) (style : Style) (s : String) : Option Meaning :=
  if tag = coreTag "bool" then (truth? s).map .truth
  else if tag = coreTag "int" then wholeMeaning? s
  else if tag = coreTag "float" then (float? s).map .real
  else if tag = coreTag "null" then if nullWords.contains s then some .nothing else none
  else if style = .plain ∧ tag.toList.head? = some '!' then some (meaning s)
  else some (.text s)

/-- What a scalar means. -/
def scalarMeaning? (tag : Option String) (style : Style) (s : String) : Option Meaning :=
  match tag with
  | some tag => taggedMeaning? tag style s
  | none => if style = .plain then some (meaning s) else some (.text s)

/-! ## Values -/

/-- The value of a node. -/
inductive Value where
  | null
  | bool (b : Bool)
  | int (n : Int)
  | real (x : Float)
  | text (s : String)
  | seq (items : List Value)
  | map (members : List (Value × Value))
  /-- A value with a tag of its own. -/
  | tagged (tag : String) (v : Value)
deriving Inhabited

namespace Value

/-- The value of a meaning. -/
def ofMeaning? : Meaning → Option Value
  | .nothing => some null
  | .truth b => some (bool b)
  | .int n => some (int n)
  | .wide => none
  | .real x => some (real x)
  | .text s => some (text s)

/-- The value without the tags of its own. -/
def untag : Value → Value
  | tagged _ v => untag v
  | v => v

/-! ### Keys -/

mutual

/-- Whether two values are the same; the order of the members of a map does not count. -/
def same : Value → Value → Bool
  | null, null => true
  | bool a, bool b => a == b
  | int a, int b => a == b
  | real x, real y => x == y || (x.isNaN && y.isNaN)
  | text s, text t => s == t
  | seq as, seq bs => allSame as bs
  | map as, map bs => as.length == bs.length && allIn as bs
  | tagged s a, tagged t b => s == t && same a b
  | _, _ => false

/-- Whether two sequences have the same items. -/
def allSame : List Value → List Value → Bool
  | [], [] => true
  | a :: as, b :: bs => same a b && allSame as bs
  | _, _ => false

/-- Whether a map has the same members among others. -/
def allIn : List (Value × Value) → List (Value × Value) → Bool
  | [], _ => true
  | (k, v) :: as, bs => (bs.any fun b => same k b.1 && same v b.2) && allIn as bs

end

/-- Whether no key stands twice. -/
def keysDistinct : List (Value × Value) → Bool
  | [] => true
  | (k, _) :: ms => !ms.any (fun m => same k m.1) && keysDistinct ms

end Value

/-! ## Following aliases -/

/-- Collections nest at most this deep; an alias does not count. -/
def depthLimit : Nat := 128

/-- Aliases are followed at most this many times as often as the document has parts. -/
def followLimit : Nat := 100

/-- A step of reading a document; the state tells how many aliases have been followed. -/
abbrev Following := StateT Nat Option

/-- The node for which a node stands. -/
def Document.follow (d : Document) : Node → Following Node
  | .alias number => do
    modify (· + 1)
    if (← get) > d.size * followLimit then failure
    match d.target? number with
    | some y => return y
    | none => failure
  | y => return y

namespace Value

/-- The value of a scalar, inside its tag if that is one of its own. -/
def ofScalar? (tag : Option String) (style : Style) (s : String) : Option Value :=
  match ownTag? tag with
  | some name => ((scalarMeaning? none style s).bind ofMeaning?).map (tagged name)
  | none => (scalarMeaning? tag style s).bind ofMeaning?

/-- A value with its tag, if that is one of its own. -/
def withTag (tag : Option String) (v : Value) : Value :=
  match ownTag? tag with
  | some name => tagged name v
  | none => v

/-- The value of a node that has so many levels left. -/
def ofNode (d : Document) : Nat → Node → Following Value
  | 0, y => do
    match ← d.follow y with
    | .scalar tag style s => ofScalar? tag style s
    | _ => failure
  | depth + 1, y => do
    match ← d.follow y with
    | .scalar tag style s => ofScalar? tag style s
    | .seq tag items => return withTag tag (seq (← items.mapM (ofNode d depth)))
    | .map tag members =>
      let ms ← members.mapM fun (k, v) => return (← ofNode d depth k, ← ofNode d depth v)
      if keysDistinct ms then return withTag tag (map ms) else failure
    | .alias _ => failure

/-- The value of a document. -/
def ofDocument (d : Document) : Option Value := (ofNode d depthLimit d.root).run' 0

end Value

end SpokeSim.Yaml
