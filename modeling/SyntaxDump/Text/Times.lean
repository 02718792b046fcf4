/-!
# Repeating texts
-/

namespace SyntaxDump.Text

/-- A text written a number of times. -/
def times (t : String) : Nat → String
  | 0 => ""
  | n + 1 => t ++ times t n

end SyntaxDump.Text
