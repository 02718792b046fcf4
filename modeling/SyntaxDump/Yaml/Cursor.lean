/-!
# Places in YAML text

A cursor is a place in a text with its line and its column, both counted from zero. Lines end at
any of the line breaks of Unicode; a carriage return and the line feed after it are one break.
-/

namespace SyntaxDump.Yaml

/-- Characters that end a line. -/
def isBreak (c : Char) : Bool :=
  c == '\n' || c == '\r' || c == '\u0085' || c == '\u2028' || c == '\u2029'

/-- Characters that separate words on a line. -/
def isBlank (c : Char) : Bool := c == ' ' || c == '\t'

/-- Characters of anchors, of the names of directives and of the handles of tags. -/
def isWordChar (c : Char) : Bool := c.isAlphanum || c == '_' || c == '-'

/-- Whether a word ends here: at a blank, at the end of a line, or at the end of the text. -/
def wordEnds : List Char → Bool
  | [] => true
  | c :: _ => isBlank c || isBreak c

/-- The character that a line break counts for inside a scalar. -/
def breakChar (c : Char) : Char := if c = '\u2028' ∨ c = '\u2029' then c else '\n'

/-- A place in a text. -/
structure Cursor where
  /-- What follows. -/
  rest : List Char
  /-- How many characters stand before it. -/
  index : Nat
  line : Nat
  column : Nat

namespace Cursor

/-- The beginning of a text. A byte order mark that stands there is passed over as if it were a
blank: it takes a column. -/
def ofText : List Char → Cursor
  | '\ufeff' :: cs => ⟨cs, 1, 0, 1⟩
  | cs => ⟨cs, 0, 0, 0⟩

/-- A number of characters further on the same line. -/
def skip (n : Nat) (c : Cursor) : Cursor := ⟨c.rest.drop n, c.index + n, c.line, c.column + n⟩

/-- The characters of a kind that follow on the same line, and the place after them. -/
def span (p : Char → Bool) (c : Cursor) : List Char × Cursor :=
  let (taken, rest) := c.rest.span p
  (taken, ⟨rest, c.index + taken.length, c.line, c.column + taken.length⟩)

/-- The place after the characters of a kind that follow. -/
def skipWhile (p : Char → Bool) (c : Cursor) : Cursor := (c.span p).2

/-- The place after the blanks that follow. -/
def skipBlanks (c : Cursor) : Cursor := c.skipWhile isBlank

/-- The end of the line. -/
def toLineEnd (c : Cursor) : Cursor := c.skipWhile fun ch => !isBreak ch

/-- The end of the line, if a comment begins here. -/
def skipComment (c : Cursor) : Cursor := if c.rest.head? == some '#' then c.toLineEnd else c

/-- The line break that follows, as it counts inside a scalar, and the beginning of the next
line. -/
def takeBreak (c : Cursor) : Option (Char × Cursor) :=
  match c.rest with
  | '\r' :: '\n' :: rest => some ('\n', ⟨rest, c.index + 2, c.line + 1, 0⟩)
  | ch :: rest =>
    if isBreak ch then some (breakChar ch, ⟨rest, c.index + 1, c.line + 1, 0⟩) else none
  | [] => none

/-- The beginning of the next line, if nothing but blanks and a comment stands before it. -/
def nextLine? (c : Cursor) : Option Cursor :=
  let c := c.skipBlanks.skipComment
  match c.takeBreak with
  | some (_, c) => some c
  | none => if c.rest.isEmpty then some c else none

/-- Whether a mark between documents stands here: three hyphens or three points alone at the
beginning of a line. -/
def atDocumentMark (c : Cursor) : Bool :=
  c.column == 0 && match c.rest with
    | '-' :: '-' :: '-' :: rest => wordEnds rest
    | '.' :: '.' :: '.' :: rest => wordEnds rest
    | _ => false

end Cursor

/-- What a reader makes of a text: a result and the place after it, or nothing. -/
abbrev Reader (α : Type) := Cursor → Option (α × Cursor)

end SyntaxDump.Yaml
