import SyntaxDump.Yaml.Token

/-!
# From text to tokens

Outside brackets the structure of a text is told by its indentation. A sequence or mapping begins
with an item further to the right than those around it, and ends with a line further to the left
than its items; `Lexer.indent` and `Lexer.outer` keep the columns.

A key needs no mark: whether a scalar was one shows when a colon follows. So the place where a key
may have begun is kept (`PossibleKey`), and the tokens that begin it are put there afterwards. A
key has to end on the line that it begins on, within 1024 characters.
-/

namespace SyntaxDump.Yaml

/-- A place where a key without a mark may have begun. -/
structure PossibleKey where
  /-- Whether nothing but a key can stand there. -/
  required : Bool
  /-- How many tokens stand before it. -/
  position : Nat
  index : Nat
  line : Nat
  column : Nat

/-- A text as far as it is cut into tokens. -/
structure Lexer where
  cursor : Cursor
  /-- The tokens so far, the last one first. -/
  tokens : List Token
  /-- The number of tokens. -/
  count : Nat
  /-- The column of the items of the innermost sequence or mapping outside brackets, -1 if there
  is none. -/
  indent : Int
  /-- The same for those around it. -/
  outer : List Int
  /-- The possible key within the innermost brackets. -/
  key : Option PossibleKey
  /-- The same for the brackets around them; as many as there are open brackets. -/
  outerKeys : List (Option PossibleKey)
  /-- Whether a key may begin here. -/
  keyAllowed : Bool

namespace Lexer

/-- The beginning of a text. -/
def ofText (cs : List Char) : Lexer where
  cursor := .ofText cs
  tokens := []
  count := 0
  indent := -1
  outer := []
  key := none
  outerKeys := []
  keyAllowed := true

/-- Whether the text stands inside brackets. -/
def inFlow (s : Lexer) : Bool := !s.outerKeys.isEmpty

/-- Adds a token. -/
def emit (t : Token) (s : Lexer) : Lexer := { s with tokens := t :: s.tokens, count := s.count + 1 }

/-- Adds a token that comes after the given number of tokens. -/
def insert (position : Nat) (t : Token) (s : Lexer) : Lexer :=
  let (later, earlier) := s.tokens.splitAt (s.count - position)
  { s with tokens := later ++ t :: earlier, count := s.count + 1 }

/-- Gives up the possible key, unless there has to be one. -/
def dropKey (s : Lexer) : Option Lexer :=
  if s.key.any (·.required) then none else some { s with key := none }

/-- Keeps this place for a key, if one may begin here. Outside brackets there has to be a key at
the column of the innermost mapping. -/
def saveKey (s : Lexer) : Option Lexer :=
  if s.keyAllowed then do
    let c := s.cursor
    let s ← s.dropKey
    return { s with key := some {
      required := !s.inFlow && s.indent == c.column
      position := s.count
      index := c.index
      line := c.line
      column := c.column } }
  else some s

/-- A possible key, unless it can be one no more. -/
def refresh (c : Cursor) : Option PossibleKey → Option (Option PossibleKey)
  | none => some none
  | some k =>
    if k.line < c.line ∨ k.index + 1024 < c.index then
      if k.required then none else some none
    else some (some k)

/-- Gives up the possible keys that can be keys no more. -/
def refreshKeys (s : Lexer) : Option Lexer := do
  let key ← refresh s.cursor s.key
  let outerKeys ← s.outerKeys.mapM (refresh s.cursor)
  return { s with key, outerKeys }

/-- How many collections end at a column, and the columns of those that go on. -/
def closing (column : Int) : Int → List Int → Nat × Int × List Int
  | indent, [] => (0, indent, [])
  | indent, next :: outer =>
    if column < indent then
      let (n, indent, outer) := closing column next outer
      (n + 1, indent, outer)
    else (0, indent, next :: outer)

/-- Ends the collections whose items stand to the right of a column. -/
def closeTo (column : Int) (s : Lexer) : Lexer :=
  if s.inFlow then s
  else
    let (n, indent, outer) := closing column s.indent s.outer
    { s with
      tokens := List.replicate n .blockEnd ++ s.tokens
      count := s.count + n
      indent
      outer }

/-- Begins a collection after the given number of tokens, if its column lies to the right of the
collections around it. -/
def openAt (column position : Nat) (t : Token) (s : Lexer) : Lexer :=
  if s.inFlow || (column : Int) ≤ s.indent then s
  else { s with indent := column, outer := s.indent :: s.outer }.insert position t

/-- Moves on. -/
def advance (n : Nat) (s : Lexer) : Lexer := { s with cursor := s.cursor.skip n }

/-- Moves to the next token. Tabs may not indent a line outside brackets, and a key may begin on
each of its lines. -/
def toToken : Nat → Lexer → Lexer
  | 0, s => s
  | rounds + 1, s =>
    let tabs := s.inFlow || !s.keyAllowed
    let c := (s.cursor.skipWhile fun ch => ch == ' ' || (tabs && ch == '\t')).skipComment
    match c.takeBreak with
    | some (_, c) => toToken rounds { s with cursor := c, keyAllowed := s.keyAllowed || !s.inFlow }
    | none => { s with cursor := c }

/-- A directive. -/
def directive (rounds : Nat) (s : Lexer) : Option Lexer := do
  let s ← (s.closeTo (-1)).dropKey
  let (t, cursor) ← readDirective rounds (s.cursor.skip 1)
  return { s with cursor, keyAllowed := false }.emit t

/-- A mark between documents. -/
def documentMark (t : Token) (s : Lexer) : Option Lexer := do
  let s ← (s.closeTo (-1)).dropKey
  return ({ s with keyAllowed := false }.advance 3).emit t

/-- An opening bracket. -/
def openFlow (t : Token) (s : Lexer) : Option Lexer := do
  let s ← s.saveKey
  let s := { s with key := none, outerKeys := s.key :: s.outerKeys, keyAllowed := true }
  return (s.advance 1).emit t

/-- A closing bracket. -/
def closeFlow (t : Token) (s : Lexer) : Option Lexer := do
  let s ← s.dropKey
  let s := match s.outerKeys with
    | [] => s
    | key :: outerKeys => { s with key, outerKeys }
  return ({ s with keyAllowed := false }.advance 1).emit t

/-- A comma. -/
def comma (s : Lexer) : Option Lexer := do
  let s ← s.dropKey
  return ({ s with keyAllowed := true }.advance 1).emit .flowEntry

/-- The hyphen of an item. -/
def hyphen (s : Lexer) : Option Lexer :=
  if !s.inFlow && !s.keyAllowed then none
  else do
    let s ← (s.openAt s.cursor.column s.count .blockSequenceStart).dropKey
    return ({ s with keyAllowed := true }.advance 1).emit .blockEntry

/-- The mark of a key. -/
def keyMark (s : Lexer) : Option Lexer :=
  if !s.inFlow && !s.keyAllowed then none
  else do
    let s ← (s.openAt s.cursor.column s.count .blockMappingStart).dropKey
    return ({ s with keyAllowed := !s.inFlow }.advance 1).emit .key

/-- The colon of a value. If a key may have begun before, it did. -/
def colon (s : Lexer) : Option Lexer :=
  match s.key with
  | some k =>
    let s := (s.insert k.position .key).openAt k.column k.position .blockMappingStart
    some (({ s with key := none, keyAllowed := false }.advance 1).emit .value)
  | none =>
    if !s.inFlow && !s.keyAllowed then none
    else
      let s := s.openAt s.cursor.column s.count .blockMappingStart
      some (({ s with keyAllowed := !s.inFlow }.advance 1).emit .value)

/-- Adds the token that a reader makes of the text, at a place where a key may begin; no key may
begin right after it. -/
def content (read : Reader Token) (s : Lexer) : Option Lexer := do
  let s ← s.saveKey
  let (t, cursor) ← read s.cursor
  return { s with cursor, keyAllowed := false }.emit t

/-- A block scalar after its mark. -/
def block (literal : Bool) (rounds : Nat) (s : Lexer) : Option Lexer := do
  let s ← s.dropKey
  let (text, cursor) ← blockScalar literal s.indent rounds (s.cursor.skip 1)
  return { s with cursor, keyAllowed := true }.emit (.scalar (String.ofList text) false)

/-- A scalar in quotes. -/
def quoted (read : Reader (List Char)) (s : Lexer) : Option Lexer :=
  s.content fun c => (read (c.skip 1)).map fun (text, c) => (.scalar (String.ofList text) false, c)

/-- A plain scalar. A key may begin after it if it ends with a line. -/
def plainScalar (rounds : Nat) (s : Lexer) : Option Lexer := do
  let s ← s.saveKey
  let ((text, lineEnded), cursor) ← plain ⟨s.inFlow, (s.indent + 1).toNat⟩ rounds [] s.cursor
  return { s with cursor, keyAllowed := lineEnded }.emit (.scalar (String.ofList text) true)

/-- Characters that a plain scalar may not begin with, besides those that depend on what
follows. -/
def indicators : List Char :=
  [',', '[', ']', '\x7b', '\x7d', '#', '&', '*', '!', '|', '>', '\x27', '\x22', '%', '@', '\x60']

/-- Whether a plain scalar may begin with a character, by what follows it. -/
def startsPlain (flow : Bool) (c : Char) (rest : List Char) : Bool :=
  if c = '-' then !rest.head?.any isBlank
  else if c = '?' ∨ c = ':' then !flow && !wordEnds rest
  else !indicators.contains c && !isBlank c && !isBreak c

/-- The next token, which begins with the given character. -/
def token (rounds : Nat) (c : Char) (rest : List Char) (s : Lexer) : Option Lexer :=
  if s.cursor.column = 0 ∧ c = '%' then s.directive rounds
  else if s.cursor.atDocumentMark then
    s.documentMark (if c = '-' then .documentStart else .documentEnd)
  else if c = '[' then s.openFlow .flowSequenceStart
  else if c = '\x7b' then s.openFlow .flowMappingStart
  else if c = ']' then s.closeFlow .flowSequenceEnd
  else if c = '\x7d' then s.closeFlow .flowMappingEnd
  else if c = ',' then s.comma
  else if c = '-' ∧ wordEnds rest then s.hyphen
  else if c = '?' ∧ (s.inFlow ∨ wordEnds rest) then s.keyMark
  else if c = ':' ∧ (s.inFlow ∨ wordEnds rest) then s.colon
  else if c = '*' then
    s.content fun c => (readAnchor (c.skip 1)).map fun (name, c) => (.alias name, c)
  else if c = '&' then
    s.content fun c => (readAnchor (c.skip 1)).map fun (name, c) => (.anchor name, c)
  else if c = '!' then
    s.content fun c => (readTag s.inFlow rounds c).map fun (name, c) => (.tag name, c)
  else if c = '|' ∧ !s.inFlow then s.block true rounds
  else if c = '>' ∧ !s.inFlow then s.block false rounds
  else if c = '\x27' then s.quoted (singleQuoted rounds [])
  else if c = '\x22' then s.quoted (doubleQuoted rounds [])
  else if startsPlain s.inFlow c rest then s.plainScalar rounds
  else none

/-- The tokens of the text that is left; every round takes one. -/
def run : Nat → Lexer → Option (List Token)
  | 0, _ => none
  | rounds + 1, s => do
    let s ← (s.toToken (rounds + 1)).refreshKeys
    let s := s.closeTo s.cursor.column
    match s.cursor.rest with
    | [] => do
      let s ← (s.closeTo (-1)).dropKey
      return s.tokens.reverse
    | c :: rest => do
      let s ← s.token rounds c rest
      run rounds s

end Lexer

/-- Characters that may stand in a text. -/
def isTextChar (c : Char) : Bool :=
  c == '\t' || c == '\n' || c == '\r' || c == '\u0085' ||
    (0x20 ≤ c.toNat && c.toNat ≤ 0x7e) ||
    (0xa0 ≤ c.toNat && c.toNat ≤ 0xfffd) || 0x10000 ≤ c.toNat

/-- The tokens of a text. -/
def tokens? (text : String) : Option (List Token) :=
  let cs := text.toList
  if cs.all isTextChar then (Lexer.ofText cs).run (cs.length + 2) else none

end SyntaxDump.Yaml
