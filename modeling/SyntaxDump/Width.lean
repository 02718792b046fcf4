/-!
# Widths of integers

Which integers a number of bits can hold.
-/

namespace SyntaxDump.Width

/-- How many values a number of bits tells apart. -/
def values (bits : Nat) : Nat := Nat.pow 2 bits

/-- Whether a number of bits holds an integer without a sign. -/
def unsigned (bits : Nat) (n : Int) : Bool := 0 ≤ n && n < values bits

/-- Whether a number of bits holds an integer with its sign. -/
def signed (bits : Nat) (n : Int) : Bool :=
  -(values (bits - 1) : Int) ≤ n && n < values (bits - 1)

/-- Whether a number of bits holds an integer, with a sign or without. -/
def holds (bits : Nat) (n : Int) : Bool := signed bits n || unsigned bits n

theorem unsigned_iff {bits : Nat} {n : Int} :
    unsigned bits n = true ↔ 0 ≤ n ∧ n < values bits := by
  simp [unsigned]

theorem signed_iff {bits : Nat} {n : Int} :
    signed bits n = true ↔ -(values (bits - 1) : Int) ≤ n ∧ n < values (bits - 1) := by
  simp [signed]

end SyntaxDump.Width
