import SyntaxDump.Json.Writer
import SyntaxDump.Grammar
import SyntaxDump.Unicode.Combining

/-!
# Faults of documents

What can be wrong with a value that should be a node, with the wording of each fault.
-/

namespace SyntaxDump

/-- What a reader asks of a value. -/
inductive Expected where
  /-- An object that describes a node of the category. -/
  | node (c : Category)
  | location
  | list
  | text
  /-- A natural number below `2 ^ 64`. -/
  | word
  /-- An integer of 64 bits. -/
  | integer
  /-- A number from 0 to 255. -/
  | byte
  /-- The name of a class. -/
  | className
  | constant
deriving DecidableEq, Repr

/-- Why a value is not a node. -/
inductive DecodeError where
  /-- A required member is not there. -/
  | missingField (name : String)
  /-- The value has the wrong shape. -/
  | invalidType (value : Json) (expected : Expected)
  /-- An integer is out of range. -/
  | invalidInteger (n : Int) (expected : Expected)
  /-- The position of a class is out of range. -/
  | invalidIndex (n : Int) (count : Nat)
  /-- No class of the category has this name. -/
  | unknownClass (name : String) (c : Category)
  /-- An array has more elements than there are fields: how many, and how many there are. -/
  | tooLong (length fields : Nat)
  /-- An array has more elements than there are fields: how many it has. -/
  | tooLongArray (length : Nat)
  /-- An array ends before a required field of the class: how many elements it has, what holds the
  fields, and how many there are. -/
  | tooShort (length : Nat) (holder : String) (fields : Nat)
  | notIdentifier (text : String)
  | notDottedName (text : String)
  /-- The class of a node at the top is given, but not by name. -/
  | classNotText (value : Json)
  /-- No module, statement or expression has a class of this name. -/
  | unknownNode (name : String)
  /-- The fault of a node of the named class. -/
  | inNode (className : String) (e : DecodeError)
  /-- The value is no indentation. -/
  | notIndent

/-- The type of the nodes of a category. -/
def Category.typeName : Category → String
  | .mod => "Mod"
  | .stmt => "Stmt"
  | .expr => "Expr"
  | .arguments => "Arguments"
  | .arg => "Arg"
  | .keyword => "Keyword"
  | .alias => "Alias"
  | .operator => "Operator"
  | .boolOperator => "BoolOperator"
  | .unaryOperator => "UnaryOperator"
  | .cmpOperator => "CmpOperator"
  | .context => "ExprContext"

namespace Expected

/-- The wording of an expectation. -/
def message : Expected → String
  | .node c =>
    (if c.isLocated || (Kind.only? c).isSome then "struct " else "internally tagged enum ") ++
      c.typeName
  | .location => "struct Location"
  | .list => "a sequence"
  | .text => "a string"
  | .word => "usize"
  | .integer => "i64"
  | .byte => "u8"
  | .className => "variant identifier"
  | .constant => "null, a boolean, a number, a string or an array of bytes"

end Expected

namespace Text

/-- Characters that a message shows by their code. -/
def isHidden (c : Char) : Bool :=
  !Literal.isPrintable Unicode.unprintable.contains c ||
    (128 ≤ c.toNat && Unicode.combining.contains c)

/-- A character of a quoted text in a message. -/
def escapeInMessage (c : Char) : List Char :=
  if c = '\x22' then ['\\', '\x22']
  else if c = '\\' then ['\\', '\\']
  else if c = '\n' then ['\\', 'n']
  else if c = '\r' then ['\\', 'r']
  else if c = '\t' then ['\\', 't']
  else if c = '\x00' then ['\\', '0']
  else if isHidden c then '\\' :: 'u' :: '\x7b' :: (Nat.toDigits 16 c.toNat ++ ['\x7d'])
  else [c]

/-- A text in double quotes, as messages show it. -/
def quoteInMessage (s : String) : String :=
  String.ofList ('\x22' :: (s.toList.flatMap escapeInMessage ++ ['\x22']))

end Text

/-- How a value is called in a message about its shape. -/
def Json.describe : Json → String
  | .null => "null"
  | .bool b => "boolean `" ++ (if b then "true" else "false") ++ "`"
  | .int n => "integer `" ++ toString n ++ "`"
  | .float x => "floating point `" ++ x.text floatStyle ++ "`"
  | .str s => "string " ++ Text.quoteInMessage s
  | .arr _ => "sequence"
  | .obj _ => "map"

/-- The names that documents give to the classes of a category, as alternatives. -/
def Category.alternatives (c : Category) : String :=
  match ((Kind.all c).filterMap Kind.tag?).map fun tag => "`" ++ tag ++ "`" with
  | [a, b] => a ++ " or " ++ b
  | names => "one of " ++ ", ".intercalate names

/-- A number of elements. -/
def elementCount (n : Nat) : String :=
  toString n ++ (if n = 1 then " element" else " elements")

namespace DecodeError

/-- The wording of a fault. -/
def message : DecodeError → String
  | .missingField name => "missing field `" ++ name ++ "`"
  | .invalidType value expected =>
    "invalid type: " ++ value.describe ++ ", expected " ++ expected.message
  | .invalidInteger n expected =>
    "invalid value: integer `" ++ toString n ++ "`, expected " ++ expected.message
  | .invalidIndex n count =>
    "invalid value: integer `" ++ toString n ++ "`, expected variant index 0 <= i < " ++
      toString count
  | .unknownClass name c => "unknown variant `" ++ name ++ "`, expected " ++ c.alternatives
  | .tooLong length fields =>
    "invalid length " ++ toString length ++ ", expected " ++ elementCount fields ++
      " in sequence"
  | .tooLongArray length =>
    "invalid length " ++ toString length ++ ", expected fewer elements in array"
  | .tooShort length holder fields =>
    "invalid length " ++ toString length ++ ", expected " ++ holder ++ " with " ++
      elementCount fields
  | .notIdentifier text => "Invalid Identifier: " ++ text
  | .notDottedName text => "Invalid dotted name: " ++ text
  | .classNotText value => "`_type` must be a string, got " ++ value.compact
  | .unknownNode name => "unknown node type `" ++ name ++ "`"
  | .inNode className e => className ++ ": " ++ e.message
  | .notIndent => "data did not match any variant of untagged enum IndentMode"

end DecodeError

end SyntaxDump
