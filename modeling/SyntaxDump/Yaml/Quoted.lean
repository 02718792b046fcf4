import SyntaxDump.Text.Hex
import SyntaxDump.Yaml.Folding

/-!
# Quoted scalars

In single quotes only the quote itself is special, and is written twice. In double quotes there
are escapes, also one for a line break: it joins two lines without a space. No mark between
documents may stand inside quotes.

The readers here begin after the opening quote and keep the characters read so far in reverse.
Every round takes at least one character.
-/

namespace SyntaxDump.Yaml

/-- The character that an escape of one letter stands for. -/
def simpleEscape? (c : Char) : Option Char :=
  if c = '0' then some '\x00'
  else if c = 'a' then some '\x07'
  else if c = 'b' then some '\x08'
  else if c = 't' ∨ c = '\t' then some '\t'
  else if c = 'n' then some '\n'
  else if c = 'v' then some '\x0b'
  else if c = 'f' then some '\x0c'
  else if c = 'r' then some '\r'
  else if c = 'e' then some '\x1b'
  else if c = ' ' ∨ c = '\x22' ∨ c = '/' ∨ c = '\\' then some c
  else if c = 'N' then some '\u0085'
  else if c = '_' then some '\u00a0'
  else if c = 'L' then some '\u2028'
  else if c = 'P' then some '\u2029'
  else none

/-- How many hexadecimal digits follow the letter of an escape for a code point. -/
def codeLength? (c : Char) : Option Nat :=
  if c = 'x' then some 2
  else if c = 'u' then some 4
  else if c = 'U' then some 8
  else none

/-- The character of a code point given in hexadecimal digits. -/
def codePoint? (ds : List Char) : Option Char := do
  let n ← Text.ofHex? ds
  if n.isValidChar then some (Char.ofNat n) else none

/-- An escape after its backslash. -/
def readEscape : Reader Char := fun c =>
  match c.rest with
  | [] => none
  | letter :: rest =>
    match codeLength? letter with
    | none => (simpleEscape? letter).map (·, c.skip 1)
    | some n => do
      let ds := rest.take n
      if ds.length < n then none
      else
        let ch ← codePoint? ds
        return (ch, c.skip (n + 1))

/-- A scalar in single quotes. -/
def singleQuoted : Nat → List Char → Reader (List Char)
  | 0, _, _ => none
  | rounds + 1, read, c =>
    match c.rest with
    | [] => none
    | '\x27' :: '\x27' :: _ => singleQuoted rounds ('\x27' :: read) (c.skip 2)
    | '\x27' :: _ => some (read.reverse, c.skip 1)
    | ch :: _ =>
      if isBlank ch || isBreak ch then do
        let (gap, c) ← readGap 0 rounds c
        if c.atDocumentMark then none
        else singleQuoted rounds (gap.text.reverse ++ read) c
      else singleQuoted rounds (ch :: read) (c.skip 1)

/-- A scalar in double quotes. -/
def doubleQuoted : Nat → List Char → Reader (List Char)
  | 0, _, _ => none
  | rounds + 1, read, c =>
    match c.rest with
    | [] => none
    | '\x22' :: _ => some (read.reverse, c.skip 1)
    | '\\' :: _ =>
      match (c.skip 1).takeBreak with
      | some (_, c) => do
        let (gap, c) ← readGap 0 rounds c
        if c.atDocumentMark then none
        else doubleQuoted rounds (gap.breaks.reverse ++ read) c
      | none => do
        let (ch, c) ← readEscape (c.skip 1)
        doubleQuoted rounds (ch :: read) c
    | ch :: _ =>
      if isBlank ch || isBreak ch then do
        let (gap, c) ← readGap 0 rounds c
        if c.atDocumentMark then none
        else doubleQuoted rounds (gap.text.reverse ++ read) c
      else doubleQuoted rounds (ch :: read) (c.skip 1)

end SyntaxDump.Yaml
