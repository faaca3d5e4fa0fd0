import SpokeSim.Decimal
import SpokeSim.Json.Draft

/-!
# Reading JSON text

`Json.Draft.ofText` takes a text for one document with nothing after it but blanks, and `Json.parse`
gives the document if the text is one.

* Blanks are space, tab, line feed and carriage return.
* Numbers have no leading zero and are in the range of floating-point numbers; control characters
  do not stand in strings; surrogates come in pairs.
* Arrays and objects nest at most `depthLimit` deep.

One who passes over a value does not ask for the range of its numbers, for the pairs of its
surrogates, or for its depth, but holds a number that is cut off for malformed.

Every function below takes the characters that are left and returns what is left behind the part
that it has read.
-/

namespace SpokeSim.Json

/-- What reading gives, or the fault. -/
abbrev Result := Except ParseFault

/-- Arrays and objects nest at most this deep. -/
def depthLimit : Nat := 127

/-- Drop leading blanks. -/
def skipBlanks : List Char → List Char
  | c :: cs => if c = ' ' ∨ c = '\n' ∨ c = '\t' ∨ c = '\r' then skipBlanks cs else c :: cs
  | [] => []

/-- Read the given word. -/
def word : List Char → List Char → Result (List Char)
  | [], cs => .ok cs
  | _ :: _, [] => .error .truncated
  | w :: ws, c :: cs => if c = w then word ws cs else .error .malformed

/-! ## Numbers -/

/-- The leading decimal digits, and what follows them. -/
def digits (cs : List Char) : List Char × List Char := cs.span Char.isDigit

/-- At least one decimal digit. -/
def someDigits (cs : List Char) : Result (List Char × List Char) :=
  match digits cs with
  | ([], []) => .error .truncated
  | ([], _ :: _) => .error .malformed
  | (ds, rest) => .ok (ds, rest)

/-- The value of a run of decimal digits. -/
def digitsValue (ds : List Char) : Nat := ds.foldl (fun n d => 10 * n + (d.toNat - 48)) 0

/-- The whole part of a number: a lone zero, or digits that start with none. -/
def wholePart (cs : List Char) : Result (List Char × List Char) :=
  match cs with
  | '0' :: c :: rest => if c.isDigit then .error .malformed else .ok (['0'], c :: rest)
  | cs => someDigits cs

/-- A fraction, if one is there. -/
def fractionPart (cs : List Char) : Result (List Char × List Char) :=
  match cs with
  | '.' :: cs => do
    let (ds, rest) ← someDigits cs
    return ('.' :: ds, rest)
  | cs => .ok ([], cs)

/-- The sign of an exponent, if one is there. -/
def exponentSign : List Char → List Char × List Char
  | '+' :: cs => (['+'], cs)
  | '-' :: cs => (['-'], cs)
  | cs => ([], cs)

/-- An exponent, if one is there. -/
def exponentPart (cs : List Char) : Result (List Char × List Char) :=
  match cs with
  | c :: cs =>
    if c = 'e' ∨ c = 'E' then do
      let (sign, cs) := exponentSign cs
      let (ds, rest) ← someDigits cs
      return (c :: sign ++ ds, rest)
    else .ok ([], c :: cs)
  | [] => .ok ([], [])

/-- The number of a sign, a whole part, and a fraction with exponent.  A whole number that fits
in 64 bits is an integer; minus zero is not one. -/
def ofNumber (negative : Bool) (whole tail : List Char) : Draft :=
  let n := digitsValue whole
  let text := String.ofList ((if negative then ['-'] else []) ++ whole ++ tail)
  match tail, negative with
  | [], false => if n < UInt64.size then .int n else .real text
  | [], true => if 0 < n ∧ Int64.minValue.toInt ≤ -n then .int (-n) else .real text
  | _ :: _, _ => .real text

/-- The value of the digits behind an exponent's letter. -/
def exponentValue : List Char → Int
  | '-' :: ds => -(digitsValue ds : Int)
  | '+' :: ds => digitsValue ds
  | ds => digitsValue ds

/-- The number of a whole part, a fraction and an exponent, as they are written. -/
def decimalOf (whole fraction exponent : List Char) : Decimal :=
  { digits := digitsValue (whole ++ fraction.drop 1)
    exponent := exponentValue (exponent.drop 1) - (fraction.drop 1).length }

/-- The parts of a number without sign. -/
def numberParts (cs : List Char) : Result ((List Char × List Char × List Char) × List Char) := do
  let (whole, cs) ← wholePart cs
  let (fraction, cs) ← fractionPart cs
  let (exponent, cs) ← exponentPart cs
  return ((whole, fraction, exponent), cs)

/-- A number that begins with a character, its sign already read. -/
def number (start : Char) (negative : Bool) (cs : List Char) : Draft × List Char :=
  match numberParts cs with
  | .error f => (.broken (some start) ⟨f, some .malformed⟩, [])
  | .ok ((whole, fraction, exponent), rest) =>
    if (decimalOf whole fraction exponent).isHuge then
      (.broken (some start) ⟨.malformed, none⟩, rest)
    else (ofNumber negative whole (fraction ++ exponent), rest)

/-! ## Strings -/

/-- The value of a hexadecimal digit of either case. -/
def hexValue? (c : Char) : Option Nat :=
  if '0' ≤ c ∧ c ≤ '9' then some (c.toNat - 48)
  else if 'a' ≤ c ∧ c ≤ 'f' then some (c.toNat - 87)
  else if 'A' ≤ c ∧ c ≤ 'F' then some (c.toNat - 55)
  else none

/-- Whether characters take at least so many bytes. -/
def takesBytes (n : Nat) (cs : List Char) : Bool :=
  n ≤ (String.ofList (cs.take n)).utf8ByteSize

/-- Four hexadecimal digits; they are missed at the end only where not even four bytes are left. -/
def fourHex (cs : List Char) : Result (Nat × List Char) :=
  match (cs.take 4).mapM hexValue?, takesBytes 4 cs with
  | some [a, b, c, d], _ => .ok (((a * 16 + b) * 16 + c) * 16 + d, cs.drop 4)
  | _, true => .error .malformed
  | _, false => .error .truncated

/-- The character behind `\u`: one unit, or two that form a surrogate pair. -/
def unicodeEscape (cs : List Char) : Result (Char × List Char) := do
  let (high, cs) ← fourHex cs
  if 0xDC00 ≤ high ∧ high ≤ 0xDFFF then .error .malformed
  else if 0xD800 ≤ high ∧ high ≤ 0xDBFF then
    let cs ← word ['\\', 'u'] cs
    let (low, cs) ← fourHex cs
    if 0xDC00 ≤ low ∧ low ≤ 0xDFFF then
      return (Char.ofNat (0x10000 + (high - 0xD800) * 0x400 + (low - 0xDC00)), cs)
    else .error .malformed
  else return (Char.ofNat high, cs)

/-- What is left behind `\u` and its digits, whatever they mean. -/
def passUnicodeEscape (cs : List Char) : Result (Char × List Char) := do
  let (_, cs) ← fourHex cs
  return ('\x00', cs)

/-- The character that an escape of two characters stands for. -/
def shortEscape? : Char → Option Char
  | '"' => some '"'
  | '\\' => some '\\'
  | '/' => some '/'
  | 'b' => some '\x08'
  | 'f' => some '\x0c'
  | 'n' => some '\n'
  | 'r' => some '\r'
  | 't' => some '\t'
  | _ => none

/-- The rest of a string behind its opening quote, collected in reverse, with a reader for what
follows `\u`. -/
def stringTail (escape : List Char → Result (Char × List Char)) :
    Nat → List Char → List Char → Result (String × List Char)
  | 0, _, _ => .error .truncated
  | _ + 1, _, [] => .error .truncated
  | _ + 1, acc, '"' :: cs => .ok (String.ofList acc.reverse, cs)
  | _ + 1, _, ['\\'] => .error .truncated
  | fuel + 1, acc, '\\' :: 'u' :: cs => do
    let (c, cs) ← escape cs
    stringTail escape fuel (c :: acc) cs
  | fuel + 1, acc, '\\' :: c :: cs =>
    match shortEscape? c with
    | some c => stringTail escape fuel (c :: acc) cs
    | none => .error .malformed
  | fuel + 1, acc, c :: cs =>
    if c.toNat < 32 then .error .malformed else stringTail escape fuel (c :: acc) cs

/-- A string, its opening quote already read. -/
def string (cs : List Char) : Draft × List Char :=
  match stringTail unicodeEscape (cs.length + 1) [] cs with
  | .ok (s, rest) => (.str s, rest)
  | .error f =>
    match stringTail passUnicodeEscape (cs.length + 1) [] cs with
    | .ok (_, rest) => (.broken (some '"') ⟨f, none⟩, rest)
    | .error g => (.broken (some '"') ⟨f, some g⟩, [])

/-! ## Documents -/

/-- A value that is written as a word. -/
def wordValue (start : Char) (ending : List Char) (d : Draft) (cs : List Char) :
    Draft × List Char :=
  match word ending cs with
  | .ok rest => (d, rest)
  | .error f => (.broken (some start) (.final f), [])

/-- An array or object that may stand at a depth only if some levels are left. -/
def within (start : Char) (depth : Nat) (d : Draft) : Draft :=
  if depth = 0 then .broken (some start) ⟨.malformed, d.skip?⟩ else d

mutual

/-- A value behind blanks, with so many levels left for what it holds. -/
def value : Nat → Nat → List Char → Draft × List Char
  | 0, _, _ => (.broken none (.final .truncated), [])
  | fuel + 1, depth, cs =>
    match skipBlanks cs with
    | [] => (.broken none (.final .truncated), [])
    | 'n' :: cs => wordValue 'n' ['u', 'l', 'l'] .null cs
    | 't' :: cs => wordValue 't' ['r', 'u', 'e'] (.bool true) cs
    | 'f' :: cs => wordValue 'f' ['a', 'l', 's', 'e'] (.bool false) cs
    | '"' :: cs => string cs
    | '-' :: cs => number '-' true cs
    | '[' :: cs =>
      let (items, flaw, rest) :=
        match skipBlanks cs with
        | ']' :: rest => ([], none, rest)
        | cs => itemsTail fuel (depth - 1) [] cs
      (within '[' depth (.arr items flaw), rest)
    | '\x7b' :: cs =>
      let (members, flaw, rest) :=
        match skipBlanks cs with
        | '\x7d' :: rest => ([], none, rest)
        | cs => membersTail fuel (depth - 1) [] cs
      (within '\x7b' depth (.obj members flaw), rest)
    | c :: cs =>
      if c.isDigit then number c false (c :: cs)
      else (.broken (some c) (.final .malformed), [])

/-- The items of an array from one of them on, collected in reverse. -/
def itemsTail : Nat → Nat → List Draft → List Char → List Draft × Option Flaw × List Char
  | 0, _, acc, _ => (acc.reverse, some (.final .truncated), [])
  | fuel + 1, depth, acc, cs =>
    let (d, cs) := value fuel depth cs
    let acc := d :: acc
    match d.skip? with
    | some f => (acc.reverse, some (.final f), [])
    | none =>
      match skipBlanks cs with
      | [] => (acc.reverse, some (.final .truncated), [])
      | ']' :: cs => (acc.reverse, none, cs)
      | ',' :: cs => itemsTail fuel depth acc cs
      | _ => (acc.reverse, some (.final .malformed), [])

/-- The members of an object from one of them on, collected in reverse.  A name that is no text is
a flaw of the object. -/
def membersTail : Nat → Nat → List (String × Draft) → List Char →
    List (String × Draft) × Option Flaw × List Char
  | 0, _, acc, _ => (acc.reverse, some (.final .truncated), [])
  | fuel + 1, depth, acc, cs =>
    match skipBlanks cs with
    | [] => (acc.reverse, some (.final .truncated), [])
    | '"' :: cs =>
      match string cs with
      | (.str name, cs) => memberTail fuel depth name acc cs
      | (name, cs) =>
        match name.skip? with
        | some f => (acc.reverse, some ⟨name.misfit, some f⟩, [])
        | none =>
          let (_, flaw, rest) := memberTail fuel depth "" [] cs
          (acc.reverse, some ⟨name.misfit, flaw.bind (·.skip)⟩, rest)
    | _ => (acc.reverse, some (.final .malformed), [])

/-- A member behind its name, and the members after it. -/
def memberTail : Nat → Nat → String → List (String × Draft) → List Char →
    List (String × Draft) × Option Flaw × List Char
  | 0, _, _, acc, _ => (acc.reverse, some (.final .truncated), [])
  | fuel + 1, depth, name, acc, cs =>
    let (d, cs) :=
      match skipBlanks cs with
      | [] => (.broken none (.final .truncated), [])
      | ':' :: cs => value fuel depth cs
      | _ => (.broken none (.final .malformed), [])
    let acc := (name, d) :: acc
    match d.skip? with
    | some f => (acc.reverse, some (.final f), [])
    | none =>
      match skipBlanks cs with
      | [] => (acc.reverse, some (.final .truncated), [])
      | '\x7d' :: cs => (acc.reverse, none, cs)
      | ',' :: cs => membersTail fuel depth acc cs
      | _ => (acc.reverse, some (.final .malformed), [])

end

/-- A text as a draft.  Of three calls above at least one spends a character, so three times the
length is fuel enough. -/
def Draft.ofText (s : String) : Draft :=
  let cs := s.toList
  let (d, rest) := Json.value (3 * cs.length + 3) depthLimit cs
  if d.skip?.isSome || (skipBlanks rest).isEmpty then d else d.spoil

/-- The document of a text. -/
def parse (s : String) : Result Json := (Draft.ofText s).value

end SpokeSim.Json
