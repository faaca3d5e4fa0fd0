/-!
# Decimal numbers

A decimal number as it is written: digits, and the power of ten by which they are multiplied.

* `Decimal.isHuge`: whether it is out of the range of floating-point numbers of 64 bits.
* `Decimal.toFloat`: the floating-point number nearest to it.
-/

namespace SpokeSim

/-- A number written in decimal digits. -/
structure Decimal where
  negative : Bool := false
  digits : Nat
  exponent : Int := 0
deriving DecidableEq, Repr, Inhabited

namespace Decimal

/-- From here on a number is rounded to infinity. -/
def hugeFrom : Nat := 1 <<< 1024 - 1 <<< 970

/-- At least as many decimal digits as a number has. -/
def digitBound (n : Nat) : Nat := n.log2 / 3 + 1

/-- Whether a number is rounded to infinity.  A number whose exponent alone decides is not worked
out. -/
def isHuge (d : Decimal) : Bool :=
  if d.digits = 0 then false
  else
    match d.exponent with
    | .ofNat e => e > 308 || d.digits * Nat.pow 10 e ≥ hugeFrom
    | .negSucc e => e < digitBound d.digits && d.digits ≥ hugeFrom * Nat.pow 10 (e + 1)

/-- The nearest floating-point number.  A number far below all of them is zero. -/
def toFloat (d : Decimal) : Float :=
  let size : Float :=
    match d.exponent with
    | .ofNat e => if d.isHuge then 1.0 / 0.0 else Float.ofScientific d.digits false e
    | .negSucc e =>
      if e > digitBound d.digits + 400 then 0.0 else Float.ofScientific d.digits true (e + 1)
  if d.negative then -size else size

end Decimal

end SpokeSim
