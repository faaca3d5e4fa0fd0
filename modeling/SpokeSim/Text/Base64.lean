import SpokeSim.Json.Codec

/-!
# Binary data in base 64

Binary values travel as text over the alphabet of base 64, padded to groups of four.  Only the
canonical text of a value is taken: no blanks, no missing or superfluous padding, and the bits that
the padding leaves over are zero (`isBase64`).  Each value thus has one text, and `Base64` keeps
that; `base64Bytes` gives the bytes themselves.
-/

namespace SpokeSim.Text

/-- The six bits of a character of the alphabet. -/
def sextet? (c : Char) : Option Nat :=
  if 'A' ≤ c ∧ c ≤ 'Z' then some (c.toNat - 65)
  else if 'a' ≤ c ∧ c ≤ 'z' then some (c.toNat - 71)
  else if '0' ≤ c ∧ c ≤ '9' then some (c.toNat + 4)
  else if c = '+' then some 62
  else if c = '/' then some 63
  else none

/-- Whether a character belongs to the alphabet. -/
def isSextet (c : Char) : Bool := (sextet? c).isSome

/-- Whether a text is the canonical base 64 of some bytes. -/
def isBase64 : List Char → Bool
  | [] => true
  | [a, b, '=', '='] => isSextet a && (sextet? b).any (· % 16 == 0)
  | [a, b, c, '='] => isSextet a && isSextet b && (sextet? c).any (· % 4 == 0)
  | a :: b :: c :: d :: rest =>
    isSextet a && isSextet b && isSextet c && isSextet d && isBase64 rest
  | _ => false

/-- The number of four sextets; padding counts as zero. -/
def quartet (a b c d : Char) : Nat :=
  [a, b, c, d].foldl (fun n e => 64 * n + (sextet? e).getD 0) 0

/-- The bytes of the canonical base 64 of some bytes. -/
def base64Bytes : List Char → List UInt8
  | a :: b :: c :: d :: rest =>
    let n := quartet a b c d
    let bytes := [n / 65536, n / 256 % 256, n % 256].map UInt8.ofNat
    (if c = '=' then bytes.take 1 else if d = '=' then bytes.take 2 else bytes)
      ++ base64Bytes rest
  | _ => []

/-- Binary data, by its canonical text. -/
structure Base64 where
  text : String
  canonical : isBase64 text.toList = true

/-- Binary data as strings; `null` stands for no bytes. -/
def Base64.codec : Codec Base64 where
  encode b := .str b.text
  decode
    | .str s => if h : isBase64 s.toList = true then .ok ⟨s, h⟩ else .error .malformed
    | .null => .ok ⟨"", rfl⟩
    | d => .error d.misfit

end SpokeSim.Text
