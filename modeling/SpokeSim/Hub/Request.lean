import SpokeSim.Json.Basic

/-!
# Requests

A request names a method and a target.  The target is written as text, names going in as they are,
and then read as a URI: a `?` parts the query from the path, a `#` starts a fragment that nobody
sees, and a character that may not stand in a URI spoils the whole request.

* `Target.parse`: the target of a text.
* `formEncode`: a value as it stands in a query.
-/

namespace SpokeSim

/-- What a request asks for. -/
inductive Method where
  | get
  | post
  | delete
deriving DecidableEq, Repr, Inhabited

/-- The name of a method on the wire. -/
def Method.name : Method → String
  | .get => "GET"
  | .post => "POST"
  | .delete => "DELETE"

/-! ## Targets -/

/-- What is wrong about the text of a URI. -/
inductive UriFault where
  | empty
  | tooLong
  | schemeTooLong
  | character
  | authority
  | format
deriving DecidableEq, Repr

/-- The wording of a fault. -/
def UriFault.message : UriFault → String
  | empty => "empty string"
  | tooLong => "uri too long"
  | schemeTooLong => "scheme too long"
  | character => "invalid uri character"
  | authority => "invalid authority"
  | format => "invalid format"

/-- The path and the query of a URI; the query is empty if there is none. -/
structure Target where
  path : String
  query : String := ""
deriving DecidableEq, Repr, Inhabited

namespace Target

/-- Whether a character may stand in a path. -/
def isPathChar (c : Char) : Bool :=
  let n := c.toNat
  n == 0x21 || n == 0x22 || (0x24 ≤ n && n ≤ 0x3B) || n == 0x3D || (0x40 ≤ n && n ≤ 0x5F) ||
    (0x61 ≤ n && n ≤ 0x7E) || 0x80 ≤ n

/-- Whether a character may stand in a query. -/
def isQueryChar (c : Char) : Bool :=
  let n := c.toNat
  n == 0x21 || (0x24 ≤ n && n ≤ 0x3B) || n == 0x3D || (0x3F ≤ n && n ≤ 0x7E) || 0x80 ≤ n

/-- The characters up to a fragment. -/
def dropFragment (cs : List Char) : List Char := cs.takeWhile (· != '#')

/-- Drop the ampersand that parts the first parameter from nothing. -/
def dropAmpersand : List Char → List Char
  | '&' :: cs => cs
  | cs => cs

/-- How many bytes a URI may have. -/
def longest : Nat := 65534

/-- The target of a text that starts with a slash. -/
def parse (text : String) : Except UriFault Target :=
  let cs := dropFragment text.toList
  let path := cs.takeWhile (· != '?')
  let query := (cs.dropWhile (· != '?')).drop 1
  if text.utf8ByteSize > longest then .error .tooLong
  else if path.all isPathChar && query.all isQueryChar then
    .ok ⟨String.ofList path, String.ofList (dropAmpersand query)⟩
  else .error .character

end Target

/-- A request as the hub sees it. -/
structure Request where
  method : Method
  target : Target
  body : Option Json := none
deriving Inhabited

/-! ## Query parameters -/

/-- The upper-case hexadecimal digit of a number below 16. -/
def upperHexDigit (n : Nat) : Char :=
  if n < 10 then Char.ofNat (48 + n) else Char.ofNat (55 + n)

/-- Whether a character of ASCII stands for itself in a query. -/
def isFormChar (c : Char) : Bool :=
  c.isAlphanum || c == '*' || c == '-' || c == '.' || c == '_'

/-- A character in a query: itself, a plus for a space, or its bytes behind percent signs. -/
def formChar (c : Char) : List Char :=
  if isFormChar c then [c]
  else if c = ' ' then ['+']
  else (String.utf8EncodeChar c).flatMap fun b =>
    ['%', upperHexDigit (b.toNat / 16), upperHexDigit (b.toNat % 16)]

/-- A text as the value of a query parameter. -/
def formEncode (s : String) : String := String.ofList (s.toList.flatMap formChar)

end SpokeSim
