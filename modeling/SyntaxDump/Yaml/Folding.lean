import SyntaxDump.Yaml.Cursor

/-!
# Folded lines

A scalar that goes over several lines is folded: a single line break between two lines counts as
a space, and of several the first does not count. Blanks around line breaks never count.
-/

namespace SyntaxDump.Yaml

/-- What stands between two words of a scalar: the blanks up to the first line break, and the
line breaks. -/
structure Gap where
  blanks : List Char
  breaks : List Char

namespace Gap

/-- What line breaks count for. -/
def fold : List Char → List Char
  | [] => []
  | ['\n'] => [' ']
  | '\n' :: rest => rest
  | breaks => breaks

/-- What a gap counts for. -/
def text (g : Gap) : List Char := if g.breaks.isEmpty then g.blanks else fold g.breaks

end Gap

/-- The line breaks up to the next word with the blanks among them. Within the first `indent`
columns of a line there may not be a tab. -/
def readBreaks (indent : Nat) : Nat → Reader (List Char)
  | 0, _ => none
  | rounds + 1, c =>
    match c.takeBreak with
    | none => some ([], c)
    | some (b, c) =>
      let (blanks, c) := c.span isBlank
      if (blanks.take indent).contains '\t' then none
      else (readBreaks indent rounds c).map fun (breaks, c) => (b :: breaks, c)

/-- The gap that begins here. -/
def readGap (indent rounds : Nat) : Reader Gap := fun c =>
  let (blanks, c) := c.span isBlank
  (readBreaks indent rounds c).map fun (breaks, c) => (⟨blanks, breaks⟩, c)

end SyntaxDump.Yaml
