import SyntaxDump.Literal.Number
import SyntaxDump.Literal.Quoted

/-!
# Constants

The literal values of a program: what a `Constant` expression holds. Integers have any size.
-/

namespace SyntaxDump

/-- A literal value. -/
inductive Constant where
  | none
  | bool (b : Bool)
  | int (n : Int)
  | float (x : Binary64)
  | str (s : String)
  | bytes (bs : List UInt8)
deriving DecidableEq, Repr

namespace Constant

/-- The literal that denotes the value. -/
def literal : Constant → String
  | .none => "None"
  | .bool true => "True"
  | .bool false => "False"
  | .int n => toString n
  | .float x => Literal.float x
  | .str s => Literal.string s
  | .bytes bs => Literal.bytes bs

/-- Equality of values: floats are compared as numbers, and values of different kinds differ. -/
def same : Constant → Constant → Bool
  | .float x, .float y => x.same y
  | a, b => a == b

end Constant

end SyntaxDump
