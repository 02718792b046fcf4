import SyntaxDump.Decimal.Layout
import SyntaxDump.Json.Basic
import SyntaxDump.Text.Hex

/-!
# JSON text

One writer serves both layouts of JSON text: the layout says which blanks stand at the places
where JSON allows them. `Json.compact` has none, `Json.pretty` puts every item and every member
on a line of its own.
-/

namespace SyntaxDump.Json

/-- Floats are written with the fewest digits that identify them, the even candidate where two
are equally near; positionally from `1e-5` up to `1e16`, otherwise with an exponent. -/
def floatStyle : Decimal.Style where
  tie := .toEven
  positional lead := -5 ≤ lead && lead < 16
  pointZero := true
  exponentWidth := 1

/-- A float; what is no finite number has no spelling and becomes `null`. -/
def writeFloat (x : Binary64) : List Char :=
  if x.isFinite then x.layout floatStyle else ['n', 'u', 'l', 'l']

/-- A character inside a string. -/
def escapeChar (c : Char) : List Char :=
  if c = '\x22' then ['\\', '\x22']
  else if c = '\\' then ['\\', '\\']
  else if c = '\x08' then ['\\', 'b']
  else if c = '\x0c' then ['\\', 'f']
  else if c = '\n' then ['\\', 'n']
  else if c = '\r' then ['\\', 'r']
  else if c = '\t' then ['\\', 't']
  else if c.toNat < 0x20 then '\\' :: 'u' :: Text.hexDigits 4 c.toNat
  else [c]

/-- A string with its quotes. -/
def writeString (s : String) : List Char :=
  '\x22' :: (s.toList.flatMap escapeChar ++ ['\x22'])

/-- An integer. -/
def writeInt (n : Int) : List Char :=
  if n < 0 then '-' :: Decimal.digits n.natAbs else Decimal.digits n.natAbs

/-- The blanks of a layout of JSON text. -/
structure Layout where
  /-- What stands before an item, a member or a closing bracket at a level of nesting. -/
  gap : Nat → List Char
  /-- What stands after a colon. -/
  afterColon : List Char

namespace Layout

/-- No blanks at all. -/
def compact : Layout where
  gap _ := []
  afterColon := []

/-- A line for every item and every member, two spaces deeper for every level. -/
def pretty : Layout where
  gap level := '\n' :: List.replicate (2 * level) ' '
  afterColon := [' ']

end Layout

mutual

/-- The text of a value that stands at a level of nesting. -/
def write (layout : Layout) (level : Nat) : Json → List Char
  | .null => ['n', 'u', 'l', 'l']
  | .bool true => ['t', 'r', 'u', 'e']
  | .bool false => ['f', 'a', 'l', 's', 'e']
  | .int n => writeInt n
  | .float x => writeFloat x
  | .str s => writeString s
  | .arr [] => ['[', ']']
  | .arr (j :: rest) =>
    '[' :: (layout.gap (level + 1) ++ write layout (level + 1) j ++
      writeItems layout (level + 1) rest ++ layout.gap level ++ [']'])
  | .obj [] => ['\x7b', '\x7d']
  | .obj ((k, j) :: rest) =>
    '\x7b' :: (layout.gap (level + 1) ++ writeString k ++ ':' ::
      (layout.afterColon ++ write layout (level + 1) j) ++
      writeMembers layout (level + 1) rest ++ layout.gap level ++ ['\x7d'])

/-- The items of an array after the first. -/
def writeItems (layout : Layout) (level : Nat) : List Json → List Char
  | [] => []
  | j :: rest =>
    ',' :: (layout.gap level ++ write layout level j ++ writeItems layout level rest)

/-- The members of an object after the first. -/
def writeMembers (layout : Layout) (level : Nat) : List (String × Json) → List Char
  | [] => []
  | (k, j) :: rest =>
    ',' :: (layout.gap level ++ writeString k ++ ':' ::
      (layout.afterColon ++ write layout level j) ++ writeMembers layout level rest)

end

/-- The text of a value on one line without blanks. -/
def compact (j : Json) : String := String.ofList (write .compact 0 j)

/-- The text of a value with every item and every member on a line of its own. -/
def pretty (j : Json) : String := String.ofList (write .pretty 0 j)

end SyntaxDump.Json
