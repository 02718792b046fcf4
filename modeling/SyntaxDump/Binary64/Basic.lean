/-!
# Binary floating point numbers

A `Binary64` is the 64 bits of a floating point number: a sign, an exponent field of eleven
bits and a fraction field of fifty-two. Numbers are kept as bits, so equality of values of the
type is equality of bits: the two zeros differ, and a not-a-number equals itself.
`Binary64.same` is the comparison of the numbers denoted.

A finite number denotes `±significand · 2 ^ exponent`, two integers that the rest of the
library computes with exactly.
-/

namespace SyntaxDump

/-- A floating point number of 64 bits, given by its bits. -/
structure Binary64 where
  /-- Sign, exponent field and fraction field, from the most significant bit down. -/
  bits : UInt64
deriving DecidableEq, Repr, Inhabited

namespace Binary64

/-- The sign bit. -/
def negative (x : Binary64) : Bool := Nat.pow 2 63 ≤ x.bits.toNat

/-- The bits below the sign bit: they order the numbers of one sign by magnitude. -/
def magnitudeBits (x : Binary64) : Nat := x.bits.toNat % Nat.pow 2 63

/-- The exponent field. -/
def exponentField (x : Binary64) : Nat := x.magnitudeBits / Nat.pow 2 52

/-- The fraction field. -/
def fractionField (x : Binary64) : Nat := x.magnitudeBits % Nat.pow 2 52

/-- Neither infinite nor a not-a-number. -/
def isFinite (x : Binary64) : Bool := x.exponentField < 2047

/-- Denotes no number, finite or infinite. -/
def isNaN (x : Binary64) : Bool := x.exponentField == 2047 && x.fractionField != 0

/-- One of the two zeros. -/
def isZero (x : Binary64) : Bool := x.magnitudeBits == 0

/-- The integer significand of a finite number: the fraction field, with a leading one unless
the exponent field is zero. -/
def significand (x : Binary64) : Nat :=
  if x.exponentField = 0 then x.fractionField else Nat.pow 2 52 + x.fractionField

/-- The power of two that goes with `significand`. -/
def exponent (x : Binary64) : Int := max x.exponentField 1 - 1075

/-- The number with the given sign and magnitude bits. -/
def ofMagnitudeBits (negative : Bool) (magnitude : Nat) : Binary64 :=
  ⟨UInt64.ofNat ((if negative then Nat.pow 2 63 else 0) + magnitude % Nat.pow 2 63)⟩

/-- The zero of the given sign. -/
def zero (negative : Bool) : Binary64 := ofMagnitudeBits negative 0

/-- The infinity of the given sign. -/
def infinity (negative : Bool) : Binary64 := ofMagnitudeBits negative (2047 * Nat.pow 2 52)

/-- The not-a-number with the empty payload. -/
def nan : Binary64 := ofMagnitudeBits false (2047 * Nat.pow 2 52 + Nat.pow 2 51)

/-- The number with the opposite sign. -/
def neg (x : Binary64) : Binary64 := ofMagnitudeBits (!x.negative) x.magnitudeBits

/-- Equality of the numbers denoted: the two zeros are the same, a not-a-number is the same as
nothing. -/
def same (x y : Binary64) : Bool :=
  !x.isNaN && !y.isNaN && (x.bits == y.bits || (x.isZero && y.isZero))

end Binary64

end SyntaxDump
