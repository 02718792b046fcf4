import SyntaxDump.Toml.Moment
import SyntaxDump.Toml.Quoted
import SyntaxDump.Toml.Table

/-!
# Reading TOML text

`Toml.read` turns a text of version 1.0 of TOML into the members of its outermost table. Dates
and times become strings. Arrays and tables in braces may enclose one another up to a limit, and
keys may have as many parts.
-/

namespace SyntaxDump.Toml

/-- Characters of a key without quotes. -/
def isKeyChar (c : Char) : Bool := c.isAlphanum || c == '-' || c == '_'

/-- One part of a key: in quotes, on one line, or without. -/
def keyPart : Reader String := fun cs =>
  match cs with
  | '\x22' :: rest => basicString (rest.length + 1) [] rest
  | '\x27' :: rest => literalString [] rest
  | cs =>
    let name := cs.takeWhile isKeyChar
    if name.isEmpty then none else some (String.ofList name, cs.dropWhile isKeyChar)

/-- How deep arrays and tables may enclose one another, and how many parts a key may have. -/
def depthLimit : Nat := 79

/-- The parts of a key with blanks around them and points between them. -/
def keyParts : Nat → Reader (List String)
  | 0, _ => none
  | limit + 1, cs => do
    let (part, rest) ← keyPart (skipBlanks cs)
    match skipBlanks rest with
    | '.' :: rest =>
      let (parts, rest) ← keyParts limit rest
      return (part :: parts, rest)
    | rest => return ([part], rest)

/-- A key: the tables it leads through and its last part. -/
def key : Reader (List String × String) := fun cs => do
  let (parts, rest) ← keyParts depthLimit cs
  match parts.reverse with
  | [] => none
  | last :: path => return ((path.reverse, last), rest)

/-- A text without the comment at its beginning. -/
def skipComment : List Char → List Char
  | '#' :: rest => rest.dropWhile isTextChar
  | cs => cs

/-- Blanks, comments and newlines between the items of an array. A comment ends with a newline. -/
def skipGap : Nat → List Char → Option (List Char)
  | 0, cs => some cs
  | rounds + 1, cs =>
    match skipBlanks cs with
    | '#' :: rest => do
      let rest ← afterNewline? (rest.dropWhile isTextChar)
      skipGap rounds rest
    | '\n' :: rest => skipGap rounds rest
    | '\r' :: rest => do
      let rest ← afterNewline? ('\r' :: rest)
      skipGap rounds rest
    | rest => some rest

/-- The gap at the beginning of a text. -/
def gap (cs : List Char) : Option (List Char) := skipGap cs.length cs

/-- The items of an array up to the closing bracket. -/
def items (value : Reader Json) : Nat → Reader (List Json)
  | 0, _ => none
  | rounds + 1, cs => do
    match ← gap cs with
    | ']' :: rest => return ([], rest)
    | cs =>
      let (j, rest) ← value cs
      match ← gap rest with
      | ',' :: rest =>
        let (js, rest) ← items value rounds rest
        return (j :: js, rest)
      | ']' :: rest => return ([j], rest)
      | _ => none

/-- A key with its value. -/
def keyValue (value : Reader Json) : Reader ((List String × String) × Json) := fun cs => do
  let (k, rest) ← key cs
  match rest with
  | '=' :: rest =>
    let (j, rest) ← value (skipBlanks rest)
    return ((k, j), rest)
  | _ => none

/-- The members of a table in braces, of which there is at least one more. -/
def members (value : Reader Json) : Nat → Members → Reader Members
  | 0, _, _ => none
  | rounds + 1, ms, cs => do
    let (((path, k), j), rest) ← keyValue value cs
    let ms ← insert k j path ms
    match skipBlanks rest with
    | ',' :: rest => members value rounds ms rest
    | '\x7d' :: rest => return (ms, rest)
    | _ => none

/-- A table in braces, after the opening one. -/
def inlineTable (value : Reader Json) : Reader Json := fun cs =>
  match skipBlanks cs with
  | '\x7d' :: rest => some (.obj [], rest)
  | cs => (members value (cs.length + 1) [] cs).map fun (ms, rest) => (.obj (membersToJson ms), rest)

/-- A value; the values inside arrays and braces are read with the given reader. -/
def valueWith (nested : Option (Reader Json)) : Reader Json := fun cs =>
  match cs with
  | [] => none
  | 't' :: 'r' :: 'u' :: 'e' :: rest => some (.bool true, rest)
  | 'f' :: 'a' :: 'l' :: 's' :: 'e' :: rest => some (.bool false, rest)
  | '[' :: rest => do
    let value ← nested
    let (js, rest) ← items value (rest.length + 1) rest
    return (.arr js, rest)
  | '\x7b' :: rest => do
    let value ← nested
    inlineTable value rest
  | c :: rest =>
    if c = '\x22' ∨ c = '\x27' then (string (c :: rest)).map fun (s, rest) => (.str s, rest)
    else numberOrMoment (c :: rest)

/-- A value in which arrays and braces enclose one another at most `limit` deep. -/
def value : (limit : Nat) → Reader Json
  | 0 => valueWith none
  | limit + 1 => valueWith (some (value limit))

/-- The next line after blanks and a comment up to the end of a line. -/
def lineEnd (cs : List Char) : Option (List Char) :=
  match skipComment (skipBlanks cs) with
  | [] => some []
  | rest => afterNewline? rest

/-- The tables read so far. -/
structure Progress where
  /-- The members of the outermost table. -/
  root : Members
  /-- The keys that lead to the table whose header came last. -/
  here : List String

/-- The header of a table or of an element of an array of tables. -/
def header (p : Progress) : Reader Progress := fun cs => do
  match cs with
  | '[' :: '[' :: rest =>
    let ((path, k), rest) ← key rest
    match rest with
    | ']' :: ']' :: rest =>
      let rest ← lineEnd rest
      let root ← within (openElement k) path p.root
      return (⟨root, path ++ [k]⟩, rest)
    | _ => none
  | '[' :: rest =>
    let ((path, k), rest) ← key rest
    match rest with
    | ']' :: rest =>
      let rest ← lineEnd rest
      let root ← within (openTable k) path p.root
      return (⟨root, path ++ [k]⟩, rest)
    | _ => none
  | _ => none

/-- A key and its value on a line of its own. -/
def entry (p : Progress) : Reader Progress := fun cs => do
  let (((path, k), j), rest) ← keyValue (value depthLimit) cs
  let rest ← lineEnd rest
  let root ← within (insert k j path) p.here p.root
  return (⟨root, p.here⟩, rest)

/-- The lines of a text; every round takes one. -/
def lines : Nat → Progress → List Char → Option Members
  | 0, _, _ => none
  | rounds + 1, p, cs =>
    match skipBlanks cs with
    | [] => some p.root
    | '[' :: rest => do
      let (p, rest) ← header p ('[' :: rest)
      lines rounds p rest
    | c :: rest =>
      if c = '#' ∨ c = '\n' ∨ c = '\r' then do
        let rest ← lineEnd (c :: rest)
        lines rounds p rest
      else do
        let (p, rest) ← entry p (c :: rest)
        lines rounds p rest

/-- The members of the outermost table of a text. A byte order mark may stand before it. -/
def read (text : String) : Option (List (String × Json)) :=
  let cs := match text.toList with
    | '\ufeff' :: rest => rest
    | cs => cs
  (lines (cs.length + 1) ⟨[], []⟩ cs).map membersToJson

end SyntaxDump.Toml
