/-!
# Faults in JSON text

A fault is a cause and a place. The place is counted in bytes of the text that lie behind it, so
that a reader which only ever sees the rest of the text can name it; `Fault.place` turns it
into a line and a column.
-/

namespace SyntaxDump.Json

/-- Why a text is not JSON. -/
inductive Problem where
  | valueCutOff
  | stringCutOff
  | listCutOff
  | objectCutOff
  | valueExpected
  | wordExpected
  | numberMalformed
  | numberOutOfRange
  | escapeUnknown
  | surrogateUnpaired
  | surrogateCutOff
  | controlCharacter
  | colonExpected
  | itemEndExpected
  | memberEndExpected
  | keyExpected
  | commaTrailing
  | nestingTooDeep
  | textContinues
deriving DecidableEq, Repr

/-- The wording of a problem. -/
def Problem.message : Problem → String
  | .valueCutOff => "EOF while parsing a value"
  | .stringCutOff => "EOF while parsing a string"
  | .listCutOff => "EOF while parsing a list"
  | .objectCutOff => "EOF while parsing an object"
  | .valueExpected => "expected value"
  | .wordExpected => "expected ident"
  | .numberMalformed => "invalid number"
  | .numberOutOfRange => "number out of range"
  | .escapeUnknown => "invalid escape"
  | .surrogateUnpaired => "lone leading surrogate in hex escape"
  | .surrogateCutOff => "unexpected end of hex escape"
  | .controlCharacter => "control character (\\u0000-\\u001F) found while parsing a string"
  | .colonExpected => "expected `:`"
  | .itemEndExpected => "expected `,` or `]`"
  | .memberEndExpected => "expected `,` or `\x7d`"
  | .keyExpected => "key must be a string"
  | .commaTrailing => "trailing comma"
  | .nestingTooDeep => "recursion limit exceeded"
  | .textContinues => "trailing characters"

/-- A problem and its place. -/
structure Fault where
  problem : Problem
  /-- The number of bytes of the text behind the place of the problem. -/
  behind : Nat
deriving DecidableEq, Repr

/-- The number of bytes that characters take up in a text. -/
def byteCount : List Char → Nat
  | [] => 0
  | c :: rest => c.utf8Size + byteCount rest

/-- Line and column after a number of bytes of a text. Lines count from one; the column is the
number of bytes since the last line break. -/
def position : Nat → List Char → Nat × Nat → Nat × Nat
  | _, [], at_ => at_
  | bytes, c :: rest, (line, column) =>
    if bytes < c.utf8Size then (line, column + bytes)
    else if c = '\n' then position (bytes - c.utf8Size) rest (line + 1, 0)
    else position (bytes - c.utf8Size) rest (line, column + c.utf8Size)

/-- The line and the column of a fault of the given text. -/
def Fault.place (f : Fault) (text : String) : Nat × Nat :=
  position (byteCount text.toList - f.behind) text.toList (1, 0)

end SyntaxDump.Json
