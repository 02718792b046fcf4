import SyntaxDump.Limits

/-!
# Terms

The language that dumps are written in: literals, lists in square brackets and calls whose
arguments may be labelled.

    Call(func=Name(id='f', ctx=Load()), args=[Constant(value=1)], keywords=[])

A term is written on one line or, with an indentation, over several. Then every call and every
list opens a level, and its arguments or items stand on lines of their own; only a call of at
most three arguments none of which is a non-empty list or a call with arguments stays on its
line.

`Term.text` says what the text of a term is, `Term.textWithin` how it is written.
-/

namespace SyntaxDump

/-- A literal, a list or a call. -/
inductive Term where
  /-- A literal, already spelled. -/
  | atom (text : String)
  | list (items : List Term)
  /-- A call of a class; every argument may have a label. -/
  | call (name : String) (args : List (Option String × Term))
deriving Inhabited

namespace Term

/-- The arguments for values with their names. An absent value is left out. Since the positions of
those after it no longer tell which they are, these are labelled even when labels are not asked
for. -/
def arguments : (labels : Bool) → List (String × Option Term) → List (Option String × Term)
  | _, [] => []
  | _, (_, none) :: rest => arguments true rest
  | labels, (name, some t) :: rest =>
    (if labels then some name else none, t) :: arguments labels rest

/-- Terms that are never spread over several lines. -/
def isSimple : Term → Bool
  | .atom _ => true
  | .list items => items.isEmpty
  | .call _ args => args.isEmpty

/-- Whether a call with these arguments stays on its line. -/
def staysInline (args : List (Option String × Term)) : Bool :=
  args.length ≤ 3 && args.all fun (_, t) => t.isSimple

/-- What stands before the first line of a level. -/
def opening (unit : Option String) (level : Nat) : String :=
  match unit with
  | none => ""
  | some u => "\n" ++ Text.times u level

/-- What stands between two lines of a level. -/
def separator (unit : Option String) (level : Nat) : String :=
  match unit with
  | none => ", "
  | some u => ",\n" ++ Text.times u level

/-- An argument with its label. -/
def labelled (label : Option String) (text : String) : String :=
  match label with
  | none => text
  | some name => name ++ "=" ++ text

mutual

/-- The text of a term that stands at a level of nesting; without a unit of indentation it is
one line. -/
def text (unit : Option String) (level : Nat) : Term → String
  | .atom t => t
  | .list [] => "[]"
  | .list (item :: items) =>
    "[" ++ opening unit (level + 1) ++
      (separator unit (level + 1)).intercalate (texts unit (level + 1) (item :: items)) ++ "]"
  | .call name args =>
    if staysInline args then
      name ++ "(" ++ ", ".intercalate (argTexts unit (level + 1) args) ++ ")"
    else
      name ++ "(" ++ opening unit (level + 1) ++
        (separator unit (level + 1)).intercalate (argTexts unit (level + 1) args) ++ ")"

/-- The texts of the items of a list. -/
def texts (unit : Option String) (level : Nat) : List Term → List String
  | [] => []
  | t :: rest => text unit level t :: texts unit level rest

/-- The texts of the arguments of a call. -/
def argTexts (unit : Option String) (level : Nat) : List (Option String × Term) → List String
  | [] => []
  | (label, t) :: rest => labelled label (text unit level t) :: argTexts unit level rest

end

/-! ## Within the limits of a machine -/

/-- What the lines of a level are set off by. -/
structure Edges where
  /-- What stands before the first line. -/
  opening : String
  /-- What stands between two lines. -/
  separator : String

/-- What the lines of a level are set off by. With an indentation the margin of the level is part
of both, and is written for every level, also if no line will begin with it. -/
def edgesWithin (unit : Option String) (level : Nat) : Except Overflow Edges :=
  match unit with
  | none => .ok ⟨"", ", "⟩
  | some u => do
    let margin ← Text.timesWithin u level
    return ⟨← Text.fit ("\n" ++ margin), ← Text.fit (",\n" ++ margin)⟩

mutual

/-- Writes a term that stands at a level of nesting. -/
def textWithin (unit : Option String) (level : Nat) : Term → Except Overflow String
  | .atom t => Text.fit t
  | .list [] => .ok "[]"
  | .list (item :: items) => do
    let edges ← edgesWithin unit (level + 1)
    let texts ← textsWithin unit (level + 1) (item :: items)
    Text.enclosedWithin ("[" ++ edges.opening) edges.separator texts "]"
  | .call name args => do
    let edges ← edgesWithin unit (level + 1)
    let texts ← argTextsWithin unit (level + 1) args
    if staysInline args then Text.enclosedWithin (name ++ "(") ", " texts ")"
    else Text.enclosedWithin (name ++ "(" ++ edges.opening) edges.separator texts ")"

/-- Writes the items of a list. -/
def textsWithin (unit : Option String) (level : Nat) : List Term → Except Overflow (List String)
  | [] => .ok []
  | t :: rest => do
    let first ← textWithin unit level t
    let others ← textsWithin unit level rest
    return first :: others

/-- Writes the arguments of a call. -/
def argTextsWithin (unit : Option String) (level : Nat) :
    List (Option String × Term) → Except Overflow (List String)
  | [] => .ok []
  | (label, t) :: rest => do
    let value ← textWithin unit level t
    let first ← Text.fit (labelled label value)
    let others ← argTextsWithin unit level rest
    return first :: others

end

end Term

end SyntaxDump
