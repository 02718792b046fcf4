/-!
# Source locations

Where a node stands in its source: the line and column of its start and of its end. Every part
may be unknown.
-/

namespace SyntaxDump

/-- The place of a node in its source. -/
structure Location where
  /-- The line of the first character. -/
  line : Option UInt64
  /-- The column of the first character. -/
  column : Option UInt64
  /-- The line of the last character. -/
  endLine : Option UInt64
  /-- The column after the last character. -/
  endColumn : Option UInt64
deriving DecidableEq, Repr

namespace Location

/-- The location of which nothing is known. -/
def unknown : Location := ⟨none, none, none, none⟩

instance : Inhabited Location := ⟨unknown⟩

/-- The names of the parts of a location in their order. -/
def partNames : List String := ["lineno", "col_offset", "end_lineno", "end_col_offset"]

/-- The parts of a location, in the same order. -/
def parts (l : Location) : List (Option UInt64) := [l.line, l.column, l.endLine, l.endColumn]

/-- The known parts of a location with their names, as dumps show them. -/
def attributes (l : Location) : List (String × UInt64) :=
  [("lineno", l.line), ("col_offset", l.column), ("end_lineno", l.endLine),
    ("end_col_offset", l.endColumn)].filterMap fun (name, part) => part.map (name, ·)

/-- Whether no part is known. -/
def isUnknown (l : Location) : Bool := l.parts.all Option.isNone

/-- A part of a location inside a diagnostic. -/
def describePart : Option UInt64 → String
  | none => "None"
  | some n => "Some(" ++ toString n.toNat ++ ")"

/-- A diagnostic about a place in a file: the message, the file, the line and the column. -/
def diagnostic (l : Location) (file message : String) : String :=
  message ++ " " ++ file ++ ":" ++ describePart l.line ++ ":" ++ describePart l.column

end Location

end SyntaxDump
