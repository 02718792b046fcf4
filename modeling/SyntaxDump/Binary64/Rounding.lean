import SyntaxDump.Binary64.Basic

/-!
# Rounding to binary floating point

`Binary64.ofRatio` is the correctly rounded quotient of two natural numbers, a tie going to the
even neighbour. Products and quotients of finite numbers, and the reading of decimal numerals,
are exact fractions rounded once.
-/

namespace SyntaxDump.Binary64

/-- The quotient of `num` by `den` rounded to the nearest natural number, a tie going to the
even one. -/
def divideToEven (num den : Nat) : Nat :=
  let q := num / den
  let r := num % den
  if 2 * r < den then q
  else if den < 2 * r then q + 1
  else q + q % 2

/-- The exponent of two at which the positive fraction `num / den` has a significand of 53 bits,
or the least exponent if that is larger. -/
def scaleOf (num den : Nat) : Int :=
  let low : Int := (Nat.log2 num : Int) - Nat.log2 den - 53
  let fits : Bool :=
    if 0 ≤ low + 53 then num < den * Nat.pow 2 (low + 53).toNat
    else num * Nat.pow 2 (-(low + 53)).toNat < den
  max (if fits then low else low + 1) (-1074)

/-- The number nearest to `num / den` with the given sign; a tie goes to the even significand,
and a fraction beyond the largest finite number becomes infinite. -/
def ofRatio (negative : Bool) (num den : Nat) : Binary64 :=
  if num = 0 then zero negative
  else
    let e := scaleOf num den
    let q :=
      if 0 ≤ e then divideToEven num (den * Nat.pow 2 e.toNat)
      else divideToEven (num * Nat.pow 2 (-e).toNat) den
    let magnitude := q + (e + 1074).toNat * Nat.pow 2 52
    if 2047 * Nat.pow 2 52 ≤ magnitude then infinity negative else ofMagnitudeBits negative magnitude

/-- The number nearest to `coefficient · 10 ^ exponent`. Exponents far outside the range of the
format are decided without computing the power. -/
def ofDecimal (negative : Bool) (coefficient : Nat) (exponent : Int) : Binary64 :=
  if coefficient = 0 then zero negative
  else
    let leading : Int := Nat.log2 coefficient
    if 0 ≤ exponent then
      if 400 < exponent then infinity negative
      else ofRatio negative (coefficient * Nat.pow 10 exponent.toNat) 1
    else if 3 * exponent + leading < -1200 then zero negative
    else ofRatio negative coefficient (Nat.pow 10 (-exponent).toNat)

/-- The product of two finite numbers, rounded. -/
def mul (x y : Binary64) : Binary64 :=
  let e := x.exponent + y.exponent
  let m := x.significand * y.significand
  let negative := x.negative != y.negative
  if 0 ≤ e then ofRatio negative (m * Nat.pow 2 e.toNat) 1
  else ofRatio negative m (Nat.pow 2 (-e).toNat)

/-- The quotient of two finite numbers, the second not zero, rounded. -/
def div (x y : Binary64) : Binary64 :=
  let e := x.exponent - y.exponent
  let negative := x.negative != y.negative
  if 0 ≤ e then ofRatio negative (x.significand * Nat.pow 2 e.toNat) y.significand
  else ofRatio negative x.significand (y.significand * Nat.pow 2 (-e).toNat)

/-- The number nearest to `10 ^ n`. -/
def powerOfTen (n : Nat) : Binary64 := ofRatio false (Nat.pow 10 n) 1

end SyntaxDump.Binary64
