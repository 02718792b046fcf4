import SyntaxDump.Yaml.Folding

/-!
# Plain scalars

A scalar without quotes ends where something else begins: a comment, a colon that ends a word,
inside brackets any of the characters that brackets and their items are written with, a line that
is not indented far enough, a mark between documents.
-/

namespace SyntaxDump.Yaml

/-- Where a scalar stands, as far as its end depends on it. -/
structure PlainContext where
  /-- Whether it stands inside brackets or braces. -/
  inFlow : Bool
  /-- The least column of its further lines, if it does not. -/
  indent : Nat

/-- Characters that brackets, braces and their items are written with. -/
def isFlowMark (c : Char) : Bool := c == ',' || c == '[' || c == ']' || c == '\x7b' || c == '\x7d'

/-- Whether the scalar ends before a character that is no blank, by what follows. -/
def PlainContext.endsAt (ctx : PlainContext) : List Char → Bool
  | [] => true
  | c :: rest => (c == ':' && wordEnds rest) || (ctx.inFlow && isFlowMark c)

/-- Whether a colon stands where it neither belongs to the scalar nor ends it: inside brackets,
right before one of their marks. -/
def PlainContext.misplacedColon (ctx : PlainContext) : List Char → Bool
  | ':' :: c :: _ => ctx.inFlow && (isFlowMark c || c == '?')
  | _ => false

/-- Whether the scalar goes on after a gap. -/
def PlainContext.goesOn (ctx : PlainContext) (c : Cursor) : Bool :=
  (ctx.inFlow || ctx.indent ≤ c.column) && !c.atDocumentMark && c.rest.head? != some '#' &&
    !ctx.endsAt c.rest

/-- A plain scalar, after the characters given in reverse, and whether a line break stands
between it and the place where the reader stops. Every round takes at least one character. -/
def plain (ctx : PlainContext) : Nat → List Char → Reader (List Char × Bool)
  | 0, _, _ => none
  | rounds + 1, read, c =>
    match c.rest with
    | [] => some ((read.reverse, false), c)
    | ch :: rest =>
      if isBlank ch || isBreak ch then do
        let (gap, c) ← readGap ctx.indent rounds c
        if ctx.goesOn c then plain ctx rounds (gap.text.reverse ++ read) c
        else return ((read.reverse, !gap.breaks.isEmpty), c)
      else if ctx.misplacedColon (ch :: rest) then none
      else if ctx.endsAt (ch :: rest) then some ((read.reverse, false), c)
      else plain ctx rounds (ch :: read) (c.skip 1)

end SyntaxDump.Yaml
