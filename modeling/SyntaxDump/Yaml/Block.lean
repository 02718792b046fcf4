import SyntaxDump.Yaml.Cursor

/-!
# Block scalars

A block scalar is made of the lines that are indented as its first line that is not blank, or by
the number of columns that its header tells. A literal one keeps its line breaks; in a folded one
a line break between two lines that do not begin with a blank counts as a space, or not at all if
there are blank lines between them. The header also tells how much of the line breaks at the end
is kept.
-/

namespace SyntaxDump.Yaml

/-- What is kept of the line breaks at the end of a block scalar. -/
inductive Chomping where
  /-- Nothing. -/
  | strip
  /-- The first one. -/
  | clip
  /-- All of them. -/
  | keep
deriving DecidableEq, Repr

/-- The header of a block scalar. -/
structure BlockHeader where
  chomping : Chomping
  /-- How far the lines are indented, if the header tells it. -/
  increment : Option Nat

/-- The mark for what is kept at the end, if there is one. -/
def readChomping (c : Cursor) : Option (Chomping × Cursor) :=
  match c.rest with
  | '+' :: _ => some (.keep, c.skip 1)
  | '-' :: _ => some (.strip, c.skip 1)
  | _ => none

/-- The digit for an indentation, if there is one; `none` if it is a zero. -/
def readIncrement : Reader (Option Nat) := fun c =>
  match c.rest with
  | '0' :: _ => none
  | d :: _ => if d.isDigit then some (some (d.toNat - 48), c.skip 1) else some (none, c)
  | [] => some (none, c)

/-- A header, after the mark of the scalar: the two parts in either order, and nothing else but a
comment on the line. -/
def readBlockHeader : Reader BlockHeader := fun c =>
  match readChomping c with
  | some (chomping, c) => do
    let (increment, c) ← readIncrement c
    let c ← c.nextLine?
    return (⟨chomping, increment⟩, c)
  | none => do
    let (increment, c) ← readIncrement c
    let (chomping, c) := (increment.bind fun _ => readChomping c).getD (.clip, c)
    let c ← c.nextLine?
    return (⟨chomping, increment⟩, c)

/-- Skips the blank lines before a line of the scalar, and its indentation. Gives the line breaks
and the greatest column reached; `widest` is the greatest one so far. While the indentation is
not known all spaces belong to it. There may not be a tab in the indentation. -/
def readBlankLines (indent : Option Nat) : Nat → (widest : Nat) → Reader (List Char × Nat)
  | 0, _, _ => none
  | rounds + 1, widest, c =>
    let spaces := (c.rest.takeWhile (· == ' ')).length
    let c := c.skip (match indent with
      | some n => min spaces (n - c.column)
      | none => spaces)
    let inIndent := match indent with
      | some n => c.column < n
      | none => true
    if inIndent && c.rest.head? == some '\t' then none
    else
      let widest := max widest c.column
      match c.takeBreak with
      | none => some (([], widest), c)
      | some (b, c) =>
        (readBlankLines indent rounds widest c).map fun ((breaks, widest), c) =>
          ((b :: breaks, widest), c)

/-- A block scalar as far as it is read. -/
structure BlockText where
  /-- The text in reverse. -/
  read : List Char
  /-- The line break after the last line. -/
  lead : List Char
  /-- The breaks of the blank lines after it. -/
  trail : List Char
  /-- Whether the last line begins with a blank. -/
  blankBefore : Bool

/-- What the line breaks before a line count for. -/
def BlockText.joint (t : BlockText) (literal blank : Bool) : List Char :=
  if !literal && t.lead == ['\n'] && !t.blankBefore && !blank then
    if t.trail.isEmpty then [' '] else t.trail
  else t.lead ++ t.trail

/-- The lines of a scalar with the given indentation. -/
def readBlockLines (literal : Bool) (indent : Nat) : Nat → BlockText → Reader BlockText
  | 0, _, _ => none
  | rounds + 1, t, c =>
    if c.column ≠ indent ∨ c.rest.isEmpty then some (t, c)
    else do
      let blank := c.rest.head?.any isBlank
      let (line, c) := c.span fun ch => !isBreak ch
      let (lead, c) := match c.takeBreak with
        | some (b, c) => ([b], c)
        | none => ([], c)
      let ((trail, _), c) ← readBlankLines (some indent) rounds 0 c
      let read := line.reverse ++ ((t.joint literal blank).reverse ++ t.read)
      readBlockLines literal indent rounds ⟨read, lead, trail, blank⟩ c

/-- The text of a scalar whose lines have been read. -/
def BlockText.close (t : BlockText) : Chomping → List Char
  | .strip => t.read.reverse
  | .clip => t.read.reverse ++ t.lead
  | .keep => t.read.reverse ++ t.lead ++ t.trail

/-- A block scalar after its mark, inside collections that are indented as given. -/
def blockScalar (literal : Bool) (outer : Int) (rounds : Nat) : Reader (List Char) := fun c => do
  let (header, c) ← readBlockHeader c
  let known := header.increment.map fun n => if 0 ≤ outer then outer.toNat + n else n
  let ((trail, widest), c) ← readBlankLines known rounds 0 c
  let indent := known.getD (max widest (max (outer + 1).toNat 1))
  let (t, c) ← readBlockLines literal indent rounds ⟨[], [], trail, false⟩ c
  return (t.close header.chomping, c)

end SyntaxDump.Yaml
