/-!
# Classes of characters

A class of characters is stored as the increasing list of the code points at which membership
changes: the class begins at the first one, ends before the second, begins again at the third,
and so on. A character belongs to the class when an odd number of these lie at or before it.
-/

namespace SyntaxDump.Unicode

/-- A set of code points. -/
structure CharClass where
  /-- The code points at which membership changes, in increasing order. -/
  changes : Array Nat

namespace CharClass

/-- How many of the entries in the window `[low, high)`, and of those before it, are at most
`x`; entries before the window are, entries after it are not. -/
def countUpTo (changes : Array Nat) (x : Nat) (low high : Nat) : Nat :=
  if low < high then
    let middle := (low + high) / 2
    if changes.getD middle 0 ≤ x then countUpTo changes x (middle + 1) high
    else countUpTo changes x low middle
  else low
termination_by high - low

/-- Membership of a character. -/
def contains (cls : CharClass) (c : Char) : Bool :=
  countUpTo cls.changes c.toNat 0 cls.changes.size % 2 == 1

end CharClass

end SyntaxDump.Unicode
