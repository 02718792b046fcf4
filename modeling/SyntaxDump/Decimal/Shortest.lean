import SyntaxDump.Binary64.Basic

/-!
# Shortest decimals

A finite positive floating point number is identified by any decimal inside the interval of
reals that round to it. `Binary64.shortest` picks the decimal that floating point numbers are
written with: it has the fewest digits of those in the interval, and of two with equally few
it is the one nearer to the number; a `Tie` settles the case where both are equally near.

All comparisons are made between natural numbers, so no digit depends on rounding.
-/

namespace SyntaxDump

/-- A decimal `coefficient · 10 ^ exponent`. -/
structure Decimal where
  /-- The digits, read as one natural number. -/
  coefficient : Nat
  /-- The power of ten of the last digit. -/
  exponent : Int
deriving DecidableEq, Repr

namespace Decimal

/-- Which of two equally near candidates is taken. -/
inductive Tie where
  /-- The candidate of larger magnitude. -/
  | away
  /-- The candidate whose last digit is even. -/
  | toEven
deriving DecidableEq, Repr

end Decimal

namespace Binary64

/-- The reals that round to a number, as multiples of a common unit: the number stands at
`centre`, its interval reaches from `low` to `high`, and the ends belong to it when `closed`. -/
structure Neighbourhood where
  low : Nat
  centre : Nat
  high : Nat
  closed : Bool
  /-- The power of two that is the unit. -/
  unit : Int

/-- The reals that round to a finite positive number. Numbers are twice as dense below a power
of two as above it, so there the lower half of the interval is half as long. -/
def neighbourhood (x : Binary64) : Neighbourhood :=
  let m := x.significand
  { low := if x.fractionField = 0 ∧ 1 < x.exponentField then 4 * m - 1 else 4 * m - 2
    centre := 4 * m
    high := 4 * m + 2
    closed := m % 2 = 0
    unit := x.exponent - 2 }

namespace Neighbourhood

/-- The centre of the interval over the step `10 ^ k`, as a fraction of natural numbers; `scale`
turns another multiple of the unit into the same denominator. -/
def fraction (n : Neighbourhood) (k : Int) : Nat × Nat :=
  let num := Nat.pow 2 n.unit.toNat * Nat.pow 10 (-k).toNat
  let den := Nat.pow 2 (-n.unit).toNat * Nat.pow 10 k.toNat
  (num, den)

/-- Whether the `d`-th multiple of `10 ^ k` rounds to the number. -/
def contains (n : Neighbourhood) (k : Int) (d : Nat) : Bool :=
  let (num, den) := n.fraction k
  let point := d * den
  if n.closed then n.low * num ≤ point && point ≤ n.high * num
  else n.low * num < point && point < n.high * num

/-- The multiple of `10 ^ k` that rounds to the number and is nearest to it, if one does. -/
def nearest? (n : Neighbourhood) (tie : Decimal.Tie) (k : Int) : Option Nat :=
  let (num, den) := n.fraction k
  let d := n.centre * num / den
  match n.contains k d, n.contains k (d + 1) with
  | false, false => none
  | true, false => some d
  | false, true => some (d + 1)
  | true, true =>
    let below := n.centre * num - d * den
    let above := (d + 1) * den - n.centre * num
    if below < above then some d
    else if above < below then some (d + 1)
    else match tie with
      | .away => some (d + 1)
      | .toEven => some (d + d % 2)

/-- A power of ten above the number's own. -/
def topPower (n : Neighbourhood) : Int :=
  ((Nat.log2 n.high : Int) + 1 + n.unit) * 30103 / 100000 + 1

/-- The first of the powers `10 ^ k`, `10 ^ (k - 1)`, … of which a multiple rounds to the
number, with that multiple. -/
def search (n : Neighbourhood) (tie : Decimal.Tie) : Nat → Int → Decimal
  | 0, k => ⟨n.centre * (n.fraction k).1 / (n.fraction k).2, k⟩
  | fuel + 1, k =>
    match n.nearest? tie k with
    | some d => ⟨d, k⟩
    | none => n.search tie fuel (k - 1)

end Neighbourhood

/-- The decimal that a finite positive number is written with. Seventeen digits always suffice,
and the search starts at most two powers above the first of them. -/
def shortest (x : Binary64) (tie : Decimal.Tie) : Decimal :=
  x.neighbourhood.search tie 20 x.neighbourhood.topPower

end Binary64

end SyntaxDump
