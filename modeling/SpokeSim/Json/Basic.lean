/-!
# JSON documents

The value type of every document that passes between the hub and its clients, and its compact text.

An object keeps its members in the order in which they stand and may repeat a name: what a repeated
name means is for the reader of the object to say (`Record`).  A number is `int` when it is
written as a whole number of 64 bits, signed or unsigned, and `real` with its text otherwise, since
no reader here takes a number with a fraction or an exponent.

* `Json.compact`: the text without blanks.
* `Json.sorted`: the same document with the members of every object in order of their names, of a
  repeated name the last one.
-/

namespace SpokeSim

/-- A JSON document. -/
inductive Json where
  | null
  | bool (b : Bool)
  /-- A whole number of at most 64 bits. -/
  | int (n : Int)
  /-- Any other number, by its text. -/
  | real (text : String)
  | str (s : String)
  | arr (items : List Json)
  /-- Members in the order in which they are written. -/
  | obj (members : List (String × Json))
deriving Repr, Inhabited, BEq

namespace Json

/-! ## Parts -/

/-- Whether a document is `null`. -/
def isNull : Json → Bool
  | null => true
  | _ => false

/-- The members of an object. -/
def members? : Json → Option (List (String × Json))
  | obj ms => some ms
  | _ => none

/-- The items of an array. -/
def items? : Json → Option (List Json)
  | arr js => some js
  | _ => none

/-- The characters of a string. -/
def text? : Json → Option String
  | str s => some s
  | _ => none

/-- The last member of a name; nothing in a document that is no object. -/
def member? (name : String) : Json → Option Json
  | obj ms => ms.reverse.lookup name
  | _ => none

/-! ## Compact text -/

/-- The lower-case hexadecimal digit of a number below 16. -/
def hexDigit (n : Nat) : Char :=
  if n < 10 then Char.ofNat (48 + n) else Char.ofNat (87 + n)

/-- A character inside quotes: quote, backslash and control characters are escaped. -/
def quoteChar (c : Char) : List Char :=
  match c with
  | '"' => ['\\', '"']
  | '\\' => ['\\', '\\']
  | '\n' => ['\\', 'n']
  | '\r' => ['\\', 'r']
  | '\t' => ['\\', 't']
  | '\x08' => ['\\', 'b']
  | '\x0c' => ['\\', 'f']
  | c =>
    if c.toNat < 32 then ['\\', 'u', '0', '0', hexDigit (c.toNat / 16), hexDigit (c.toNat % 16)]
    else [c]

/-- A string in quotes. -/
def quote (s : String) : String :=
  String.ofList ('"' :: s.toList.flatMap quoteChar ++ ['"'])

mutual

/-- The text of a document, without blanks. -/
def compact : Json → String
  | null => "null"
  | bool true => "true"
  | bool false => "false"
  | int n => toString n
  | real text => text
  | str s => quote s
  | arr items => "[" ++ ",".intercalate (compactItems items) ++ "]"
  | obj members => "\x7b" ++ ",".intercalate (compactMembers members) ++ "\x7d"

/-- The texts of the items of an array. -/
def compactItems : List Json → List String
  | [] => []
  | j :: js => compact j :: compactItems js

/-- The texts of the members of an object. -/
def compactMembers : List (String × Json) → List String
  | [] => []
  | (k, j) :: ms => (quote k ++ ":" ++ compact j) :: compactMembers ms

end

/-! ## Order of members -/

/-- Put a member in its place by name, unless its name is there already. -/
def insertMember (m : String × Json) : List (String × Json) → List (String × Json)
  | [] => [m]
  | m' :: ms =>
    if m.1 < m'.1 then m :: m' :: ms
    else if m.1 = m'.1 then m' :: ms
    else m' :: insertMember m ms

mutual

/-- The document with the members of every object in order of their names, the last one of each
name. -/
def sorted : Json → Json
  | arr items => arr (sortedItems items)
  | obj members => obj (sortedMembers members)
  | j => j

/-- Every item sorted, the items in their order. -/
def sortedItems : List Json → List Json
  | [] => []
  | j :: js => sorted j :: sortedItems js

/-- Every member sorted, and the members by name. -/
def sortedMembers : List (String × Json) → List (String × Json)
  | [] => []
  | (k, j) :: ms => insertMember (k, sorted j) (sortedMembers ms)

end

end Json

end SpokeSim
