import SyntaxDump.Decimal.Layout

/-!
# Number literals

How numeric constants are spelled in a dump.
-/

namespace SyntaxDump.Literal

/-- Floats are written with the fewest digits that identify them, away from zero where two
candidates are equally near; positionally from `1e-4` up to `1e16`, otherwise with an exponent
of at least two digits. -/
def floatStyle : Decimal.Style where
  tie := .away
  positional lead := -4 ≤ lead && lead < 16
  pointZero := true
  exponentWidth := 2

/-- A float as a dump spells it. -/
def float (x : Binary64) : String :=
  if x.isNaN then "nan"
  else if x.isFinite then x.text floatStyle
  else if x.negative then "-inf" else "inf"

end SyntaxDump.Literal
