import SyntaxDump.Decimal.Shortest

/-!
# Layout of decimals

A decimal is written positionally (`0.001`, `150.0`) or with an exponent (`1.5e+16`). What
differs between output formats is collected in one record, `Decimal.Style`; the functions here
only follow it.
-/

namespace SyntaxDump.Decimal

/-- The decisions of an output format about floating point numbers. -/
structure Style where
  /-- Which of two equally near shortest decimals is written. -/
  tie : Tie
  /-- Whether a number whose first digit stands for this power of ten is written positionally. -/
  positional : Int → Bool
  /-- Whether an integral number written positionally ends in `.0`. -/
  pointZero : Bool
  /-- The least number of digits of an exponent. -/
  exponentWidth : Nat

/-- The decimal digits of a natural number. -/
def digits (n : Nat) : List Char := Nat.toDigits 10 n

/-- A list of characters filled up with zeros on the left to the given length. -/
def padLeft (width : Nat) (cs : List Char) : List Char :=
  List.replicate (width - cs.length) '0' ++ cs

/-- The digits without the zeros at their end. -/
def significantDigits (d : Decimal) : List Char :=
  ((digits d.coefficient).reverse.dropWhile (· == '0')).reverse

/-- The power of ten that the first digit stands for. -/
def leadingPower (d : Decimal) : Int := d.exponent + (digits d.coefficient).length - 1

/-- Digits with the point after the digit for `10 ^ 0`, where the first one stands for
`10 ^ lead`. -/
def positional (pointZero : Bool) (cs : List Char) (lead : Int) : List Char :=
  if lead < 0 then '0' :: '.' :: (List.replicate (-lead - 1).toNat '0' ++ cs)
  else
    let whole := lead.toNat + 1
    let tail := cs.drop whole
    let head := cs.take whole ++ List.replicate (whole - cs.length) '0'
    if tail.isEmpty then (if pointZero then head ++ ['.', '0'] else head)
    else head ++ '.' :: tail

/-- Digits with the point after the first one, and the power of ten as a signed exponent. -/
def scientific (exponentWidth : Nat) (cs : List Char) (lead : Int) : List Char :=
  let mantissa := match cs with
    | [] => []
    | [c] => [c]
    | c :: rest => c :: '.' :: rest
  mantissa ++ 'e' :: (if lead < 0 then '-' else '+') ::
    padLeft exponentWidth (digits lead.natAbs)

/-- A positive decimal as the style writes it. -/
def layout (style : Style) (d : Decimal) : List Char :=
  let lead := d.leadingPower
  if style.positional lead then positional style.pointZero d.significantDigits lead
  else scientific style.exponentWidth d.significantDigits lead

end SyntaxDump.Decimal

namespace SyntaxDump.Binary64

/-- A finite number as the style writes it. -/
def layout (style : Decimal.Style) (x : Binary64) : List Char :=
  let sign := if x.negative then ['-'] else []
  if x.isZero then sign ++ Decimal.positional style.pointZero ['0'] 0
  else sign ++ Decimal.layout style (x.shortest style.tie)

/-- A finite number as the style writes it. -/
def text (style : Decimal.Style) (x : Binary64) : String := String.ofList (x.layout style)

end SyntaxDump.Binary64
