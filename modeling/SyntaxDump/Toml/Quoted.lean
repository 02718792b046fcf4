import SyntaxDump.Toml.Number

/-!
# Strings in TOML text

Strings in double quotes know escapes, strings in single quotes do not. With three quotes they go
over several lines; a newline right after the opening quotes does not count, every other one is
a single character however it was written, and a backslash at the end of a line takes away the
blanks up to the next text. One or two quotes may stand anywhere in such a string, also right
before the closing ones.
-/

namespace SyntaxDump.Toml

/-- Blanks within a line. -/
def isBlank (c : Char) : Bool := c == ' ' || c == '\t'

/-- A text without the blanks at its beginning. -/
def skipBlanks (cs : List Char) : List Char := cs.dropWhile isBlank

/-- Characters that may stand in strings and comments: no control characters but the tab. -/
def isTextChar (c : Char) : Bool := c == '\t' || (0x20 ≤ c.toNat && c.toNat != 0x7f)

/-- The rest after a newline. -/
def afterNewline? : List Char → Option (List Char)
  | '\n' :: rest => some rest
  | '\r' :: '\n' :: rest => some rest
  | _ => none

/-- The character that an escape of one letter stands for. -/
def simpleEscape? (c : Char) : Option Char :=
  if c = 'b' then some '\x08'
  else if c = 't' then some '\t'
  else if c = 'n' then some '\n'
  else if c = 'f' then some '\x0c'
  else if c = 'r' then some '\r'
  else if c = '\x22' then some '\x22'
  else if c = '\\' then some '\\'
  else none

/-- The character of a code point given in hexadecimal digits. -/
def character? (ds : List Char) : Option Char := do
  let n ← Text.ofHex? ds
  if n.isValidChar then some (Char.ofNat n) else none

/-- Blanks and newlines between a backslash at the end of a line and the text after it. -/
def skipLines : List Char → List Char
  | '\n' :: rest => skipLines rest
  | '\r' :: '\n' :: rest => skipLines rest
  | c :: rest => if isBlank c then skipLines rest else c :: rest
  | [] => []

/-- A backslash that stands at the end of a line, blanks aside: the text of the next line that is
not blank. -/
def afterLineEnd? (cs : List Char) : Option (List Char) :=
  (afterNewline? (skipBlanks cs)).map skipLines

/-- An escape after its backslash. -/
def escape : Reader Char
  | 'u' :: a :: b :: c :: d :: rest => (character? [a, b, c, d]).map (·, rest)
  | 'U' :: a :: b :: c :: d :: e :: f :: g :: h :: rest =>
    (character? [a, b, c, d, e, f, g, h]).map (·, rest)
  | c :: rest => (simpleEscape? c).map (·, rest)
  | [] => none

/-- The quotes at the beginning of a text that may be a part of the string: all that stand there,
or at least three of them, the last three of at most five being the closing ones. The number of
quotes that belong to the string, and the rest after the closing quotes if they are there. -/
def spanQuotes (quote : Char) (cs : List Char) : Nat × Option (List Char) :=
  let n := (cs.takeWhile (· == quote)).length
  if n < 3 then (n, none) else (min n 5 - 3, some (cs.drop (min n 5)))

/-- A string in one pair of double quotes, after the opening one; the characters read so far are
given in reverse. Every round takes a character. -/
def basicString : Nat → List Char → Reader String
  | 0, _, _ => none
  | _ + 1, _, [] => none
  | _ + 1, read, '\x22' :: rest => some (String.ofList read.reverse, rest)
  | rounds + 1, read, '\\' :: rest => do
    let (c, rest) ← escape rest
    basicString rounds (c :: read) rest
  | rounds + 1, read, c :: rest =>
    if isTextChar c then basicString rounds (c :: read) rest else none

/-- A string in three double quotes, after the opening ones. -/
def longBasicString : Nat → List Char → Reader String
  | 0, _, _ => none
  | _ + 1, _, [] => none
  | rounds + 1, read, '\x22' :: rest =>
    match spanQuotes '\x22' ('\x22' :: rest) with
    | (n, some rest) => some (String.ofList (List.replicate n '\x22' ++ read).reverse, rest)
    | (_, none) => longBasicString rounds ('\x22' :: read) rest
  | rounds + 1, read, '\\' :: rest =>
    match afterLineEnd? rest with
    | some rest => longBasicString rounds read rest
    | none => do
      let (c, rest) ← escape rest
      longBasicString rounds (c :: read) rest
  | rounds + 1, read, c :: rest =>
    match afterNewline? (c :: rest) with
    | some rest => longBasicString rounds ('\n' :: read) rest
    | none => if isTextChar c then longBasicString rounds (c :: read) rest else none

/-- A string in one pair of single quotes, after the opening one. -/
def literalString (read : List Char) : Reader String
  | [] => none
  | '\x27' :: rest => some (String.ofList read.reverse, rest)
  | c :: rest => if isTextChar c then literalString (c :: read) rest else none

/-- A string in three single quotes, after the opening ones. -/
def longLiteralString : Nat → List Char → Reader String
  | 0, _, _ => none
  | _ + 1, _, [] => none
  | rounds + 1, read, '\x27' :: rest =>
    match spanQuotes '\x27' ('\x27' :: rest) with
    | (n, some rest) => some (String.ofList (List.replicate n '\x27' ++ read).reverse, rest)
    | (_, none) => longLiteralString rounds ('\x27' :: read) rest
  | rounds + 1, read, c :: rest =>
    match afterNewline? (c :: rest) with
    | some rest => longLiteralString rounds ('\n' :: read) rest
    | none => if isTextChar c then longLiteralString rounds (c :: read) rest else none

/-- A text without a newline at its beginning. -/
def skipNewline (cs : List Char) : List Char := (afterNewline? cs).getD cs

/-- A string of any kind. -/
def string : Reader String
  | '\x22' :: '\x22' :: '\x22' :: rest => longBasicString (rest.length + 1) [] (skipNewline rest)
  | '\x22' :: rest => basicString (rest.length + 1) [] rest
  | '\x27' :: '\x27' :: '\x27' :: rest => longLiteralString (rest.length + 1) [] (skipNewline rest)
  | '\x27' :: rest => literalString [] rest
  | _ => none

end SyntaxDump.Toml
