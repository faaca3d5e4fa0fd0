/-!
# Bytes as text

`decode` reads a sequence of bytes as UTF-8.  A sequence that is none is refused with the place of
the first byte that belongs to no character, and with how many bytes are wrong there; when the
sequence only ends too early, with the place alone.

The well-formed sequences are those of the Unicode standard: no overlong forms, no surrogates,
nothing beyond U+10FFFF.
-/

namespace SpokeSim.Text

/-- Why bytes are no text. -/
inductive Utf8Fault where
  /-- So many bytes from this index on cannot stand in a text. -/
  | invalid (length index : Nat)
  /-- The bytes end inside the character that starts at this index. -/
  | incomplete (index : Nat)
deriving DecidableEq, Repr

/-- The wording of a fault. -/
def Utf8Fault.message : Utf8Fault → String
  | .invalid length index =>
    "invalid utf-8 sequence of " ++ toString length ++ " bytes from index " ++ toString index
  | .incomplete index => "incomplete utf-8 byte sequence from index " ++ toString index

/-- How a byte starts a character: the number of bytes to follow, the bits that it gives, and the
least and greatest value of the byte after it. -/
structure Lead where
  following : Nat
  bits : Nat
  least : Nat
  greatest : Nat

/-- What a byte starts, if it starts a character. -/
def lead? (b : Nat) : Option Lead :=
  if b < 0x80 then some ⟨0, b, 0x80, 0xBF⟩
  else if b < 0xC2 then none
  else if b < 0xE0 then some ⟨1, b - 0xC0, 0x80, 0xBF⟩
  else if b = 0xE0 then some ⟨2, 0, 0xA0, 0xBF⟩
  else if b = 0xED then some ⟨2, 0xD, 0x80, 0x9F⟩
  else if b < 0xF0 then some ⟨2, b - 0xE0, 0x80, 0xBF⟩
  else if b = 0xF0 then some ⟨3, 0, 0x90, 0xBF⟩
  else if b < 0xF4 then some ⟨3, b - 0xF0, 0x80, 0xBF⟩
  else if b = 0xF4 then some ⟨3, 4, 0x80, 0x8F⟩
  else none

/-- A character that is being read: where it starts, how many of its bytes have been read and are
still to come, the bits so far, and the bounds of the next byte. -/
structure Partial where
  start : Nat
  done : Nat
  due : Nat
  bits : Nat
  least : Nat
  greatest : Nat

/-- Read bytes from an index on, behind the bytes of an unfinished character if there is one. -/
def decodeFrom : Nat → Option Partial → List UInt8 → Except Utf8Fault (List Char)
  | _, none, [] => .ok []
  | _, some p, [] => .error (.incomplete p.start)
  | i, none, b :: bs =>
    match lead? b.toNat with
    | none => .error (.invalid 1 i)
    | some l =>
      if l.following = 0 then (decodeFrom (i + 1) none bs).map (Char.ofNat l.bits :: ·)
      else decodeFrom (i + 1) (some ⟨i, 1, l.following, l.bits, l.least, l.greatest⟩) bs
  | i, some p, b :: bs =>
    if p.least ≤ b.toNat ∧ b.toNat ≤ p.greatest then
      let bits := p.bits * 64 + (b.toNat - 0x80)
      if p.due = 1 then (decodeFrom (i + 1) none bs).map (Char.ofNat bits :: ·)
      else decodeFrom (i + 1) (some ⟨p.start, p.done + 1, p.due - 1, bits, 0x80, 0xBF⟩) bs
    else .error (.invalid p.done p.start)

/-- The text of a sequence of bytes. -/
def decode (bs : List UInt8) : Except Utf8Fault String :=
  (decodeFrom 0 none bs).map String.ofList

end SpokeSim.Text
