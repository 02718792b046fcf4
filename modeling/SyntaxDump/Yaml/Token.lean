import SyntaxDump.Yaml.Block
import SyntaxDump.Yaml.Plain
import SyntaxDump.Yaml.Quoted

/-!
# Tokens of YAML text

The tokens of a text, and the readers for those that are read without regard to what stands
before them: directives, anchors and tags.
-/

namespace SyntaxDump.Yaml

/-- The handle of a tag and the rest of it. A handle is empty, `!`, `!!` or a word between
exclamation marks; an empty one stands for nothing. -/
structure TagName where
  handle : String
  suffix : String

/-- A piece of a text. -/
inductive Token where
  /-- The directive for a version of the language. -/
  | version (major minor : Nat)
  /-- The directive for the meaning of a handle. -/
  | handle (name lead : String)
  | documentStart
  | documentEnd
  | blockSequenceStart
  | blockMappingStart
  /-- The end of the sequence or mapping that was begun last by its indentation. -/
  | blockEnd
  | flowSequenceStart
  | flowSequenceEnd
  | flowMappingStart
  | flowMappingEnd
  /-- The hyphen before an item. -/
  | blockEntry
  /-- The comma between items. -/
  | flowEntry
  /-- The beginning of a key, with or without a mark of its own. -/
  | key
  /-- The colon before a value. -/
  | value
  | alias (name : String)
  | anchor (name : String)
  | tag (name : TagName)
  | scalar (text : String) (isPlain : Bool)

/-- The name after the mark of an anchor or alias. -/
def readAnchor : Reader String := fun c =>
  let (name, c) := c.span isWordChar
  let ends := wordEnds c.rest ||
    c.rest.head?.any fun ch => ['?', ':', ',', ']', '\x7d', '%', '@', '\x60'].contains ch
  if name.isEmpty || !ends then none else some (String.ofList name, c)

/-- Characters of tags, besides escapes; some of them only between angle brackets. -/
def isTagChar (verbatim : Bool) (c : Char) : Bool :=
  isWordChar c ||
    [';', '/', '?', ':', '@', '&', '=', '+', '$', '.', '!', '~', '*', '\x27', '(', ')'].contains c ||
    (verbatim && (c == ',' || c == '[' || c == ']'))

/-- A byte given by a percent sign and two hexadecimal digits. -/
def readByte : Reader UInt8 := fun c =>
  match c.rest with
  | '%' :: a :: b :: _ => (Text.ofHex? [a, b]).map fun n => (UInt8.ofNat n, c.skip 3)
  | _ => none

/-- A number of bytes. -/
def readBytes : Nat → Reader (List UInt8)
  | 0, c => some ([], c)
  | n + 1, c => do
    let (b, c) ← readByte c
    let (bs, c) ← readBytes n c
    return (b :: bs, c)

/-- How many bytes a character has, by the first one. -/
def byteLength? (b : UInt8) : Option Nat :=
  if b < 0x80 then some 1
  else if 0xc0 ≤ b ∧ b < 0xe0 then some 2
  else if 0xe0 ≤ b ∧ b < 0xf0 then some 3
  else if 0xf0 ≤ b ∧ b < 0xf8 then some 4
  else none

/-- A character given by the bytes of its encoding. -/
def readEscapedChar : Reader (List Char) := fun c => do
  let (first, _) ← readByte c
  let n ← byteLength? first
  let (bytes, c) ← readBytes n c
  let s ← String.fromUTF8? ⟨bytes.toArray⟩
  return (s.toList, c)

/-- The characters of a tag; each round takes at least one. -/
def readTagChars (verbatim : Bool) : Nat → Reader (List Char)
  | 0, _ => none
  | rounds + 1, c =>
    match c.rest with
    | '%' :: _ => do
      let (cs, c) ← readEscapedChar c
      let (more, c) ← readTagChars verbatim rounds c
      return (cs ++ more, c)
    | ch :: _ =>
      if isTagChar verbatim ch then
        (readTagChars verbatim rounds (c.skip 1)).map fun (more, c) => (ch :: more, c)
      else some ([], c)
    | [] => some ([], c)

/-- The handle of a tag as far as it is one: an exclamation mark, the word after it, and another
exclamation mark if it follows. -/
def readHandle : Reader (List Char) := fun c =>
  match c.rest with
  | '!' :: _ =>
    let (name, c) := (c.skip 1).span isWordChar
    match c.rest with
    | '!' :: _ => some ('!' :: name ++ ['!'], c.skip 1)
    | _ => some ('!' :: name, c)
  | _ => none

/-- Whether a handle is closed by a second exclamation mark. -/
def isClosedHandle (handle : List Char) : Bool :=
  handle.length ≥ 2 && handle.getLast? == some '!'

/-- A tag that is given in full between angle brackets, after them. -/
def readVerbatimTag (rounds : Nat) : Reader TagName := fun c => do
  let (name, c) ← readTagChars true rounds c
  match c.rest with
  | '>' :: _ => if name.isEmpty then none else some (⟨"", String.ofList name⟩, c.skip 1)
  | _ => none

/-- A tag that begins with a handle. What seems to be a handle and is not closed belongs to the
rest of a local tag; an exclamation mark alone is a tag of its own. -/
def readShortTag (rounds : Nat) : Reader TagName := fun c => do
  let (handle, c) ← readHandle c
  let (chars, c) ← readTagChars false rounds c
  if isClosedHandle handle then
    if chars.isEmpty then none else some (⟨String.ofList handle, String.ofList chars⟩, c)
  else
    let suffix := handle.drop 1 ++ chars
    if suffix.isEmpty then some (⟨"", "!"⟩, c) else some (⟨"!", String.ofList suffix⟩, c)

/-- A tag, which has to be followed by a blank, a line break, or a comma inside brackets. -/
def readTag (inFlow : Bool) (rounds : Nat) : Reader TagName := fun c => do
  let (name, c) ← match c.rest with
    | '!' :: '<' :: _ => readVerbatimTag rounds (c.skip 2)
    | _ => readShortTag rounds c
  if wordEnds c.rest || (inFlow && c.rest.head? == some ',') then some (name, c) else none

/-- A number of at most nine digits. -/
def readVersionNumber : Reader Nat := fun c =>
  let (ds, c) := c.span Char.isDigit
  if ds.isEmpty || 9 < ds.length then none
  else some (ds.foldl (fun n d => 10 * n + (d.toNat - 48)) 0, c)

/-- A directive after its mark; nothing else but a comment may stand on its line. -/
def readDirective (rounds : Nat) : Reader Token := fun c => do
  let (name, c) := c.span isWordChar
  if !wordEnds c.rest then none
  else if name = ['Y', 'A', 'M', 'L'] then
    let (major, c) ← readVersionNumber c.skipBlanks
    if c.rest.head? ≠ some '.' then none
    else
      let (minor, c) ← readVersionNumber (c.skip 1)
      let c ← c.nextLine?
      return (.version major minor, c)
  else if name = ['T', 'A', 'G'] then
    let (handle, c) ← readHandle c.skipBlanks
    if !(isClosedHandle handle || handle.length == 1) || !c.rest.head?.any isBlank then none
    else
      let (lead, c) ← readTagChars true rounds c.skipBlanks
      if lead.isEmpty || !wordEnds c.rest then none
      else
        let c ← c.nextLine?
        return (.handle (String.ofList handle) (String.ofList lead), c)
  else none

end SyntaxDump.Yaml
