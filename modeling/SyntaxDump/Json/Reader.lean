import SyntaxDump.Json.Numeral
import SyntaxDump.Text.Hex

/-!
# Reading JSON text

`Json.read` turns a text into a value or into the first fault of the text. Arrays and objects may
enclose one another up to a limit; a reader for a greater nesting is built from the reader for
the next smaller one, so the limit is also what the recursion runs on.
-/

namespace SyntaxDump.Json

/-- Blanks between the parts of a text. -/
def isBlank (c : Char) : Bool := c == ' ' || c == '\n' || c == '\t' || c == '\r'

/-- A text without the blanks at its beginning. -/
def skipBlanks (cs : List Char) : List Char := cs.dropWhile isBlank

/-- The rest of a fixed word. -/
def readWord (value : Json) : List Char → Reader Json
  | [], cs => .ok (value, cs)
  | _ :: _, [] => faultAt .valueCutOff []
  | w :: word, c :: rest =>
    if c = w then readWord value word rest else faultIn .wordExpected (c :: rest)

/-- The character that an escape of one letter stands for. -/
def simpleEscape? (c : Char) : Option Char :=
  if c = '\x22' then some '\x22'
  else if c = '\\' then some '\\'
  else if c = '/' then some '/'
  else if c = 'b' then some '\x08'
  else if c = 'f' then some '\x0c'
  else if c = 'n' then some '\n'
  else if c = 'r' then some '\r'
  else if c = 't' then some '\t'
  else none

/-- The code unit that four characters spell. -/
def codeUnit? (a b c d : Char) : Option Nat := Text.ofHex? [a, b, c, d]

/-- The fault of a text in which four hexadecimal digits were expected: four bytes are taken, and
a text with fewer is cut off. -/
def codeUnitFault {α : Type} (cs : List Char) : Except Fault α :=
  if byteCount cs < 4 then faultAt .stringCutOff []
  else .error ⟨.escapeUnknown, byteCount cs - 4⟩

/-- The fault of a text in which a second code unit was expected. -/
def pairFault {α : Type} : List Char → Except Fault α
  | [] => faultAt .stringCutOff []
  | '\\' :: [] => faultAt .stringCutOff []
  | '\\' :: 'u' :: rest => codeUnitFault rest
  | '\\' :: rest => faultIn .surrogateCutOff rest
  | cs => faultIn .surrogateCutOff cs

/-- Whether a code unit is the first of a pair. -/
def isHigh (n : Nat) : Bool := 0xD800 ≤ n && n ≤ 0xDBFF

/-- Whether a code unit is the second of a pair. -/
def isLow (n : Nat) : Bool := 0xDC00 ≤ n && n ≤ 0xDFFF

/-- The character of a pair of code units. -/
def ofPair (high low : Nat) : Char :=
  Char.ofNat ((high - 0xD800) * 0x400 + (low - 0xDC00) + 0x10000)

/-- A string after its opening quote; the characters read so far are given in reverse. -/
def readCharacters (read : List Char) : Reader String
  | [] => faultAt .stringCutOff []
  | '\x22' :: rest => .ok (String.ofList read.reverse, rest)
  | '\\' :: 'u' :: a :: b :: c :: d :: rest =>
    match codeUnit? a b c d with
    | none => codeUnitFault (a :: b :: c :: d :: rest)
    | some n =>
      if isLow n then faultAt .surrogateUnpaired rest
      else if isHigh n then
        match rest with
        | '\\' :: 'u' :: e :: f :: g :: h :: rest =>
          match codeUnit? e f g h with
          | none => codeUnitFault (e :: f :: g :: h :: rest)
          | some m =>
            if isLow m then readCharacters (ofPair n m :: read) rest
            else faultAt .surrogateUnpaired rest
        | _ => pairFault rest
      else readCharacters (Char.ofNat n :: read) rest
  | '\\' :: 'u' :: rest => codeUnitFault rest
  | '\\' :: [] => faultAt .stringCutOff []
  | '\\' :: c :: rest =>
    match simpleEscape? c with
    | some e => readCharacters (e :: read) rest
    | none => faultIn .escapeUnknown (c :: rest)
  | c :: rest =>
    if c.toNat < 0x20 then faultAt .controlCharacter rest
    else readCharacters (c :: read) rest

/-- The items of an array after an item, up to the closing bracket. Every item takes at least
the comma before it, so as many rounds as there are characters are enough. -/
def readMoreItems (item : Reader Json) : Nat → Reader (List Json)
  | 0, _ => faultAt .listCutOff []
  | rounds + 1, cs =>
    match skipBlanks cs with
    | [] => faultAt .listCutOff []
    | ']' :: rest => .ok ([], rest)
    | ',' :: rest =>
      match skipBlanks rest with
      | [] => faultAt .valueCutOff []
      | ']' :: rest => faultIn .commaTrailing (']' :: rest)
      | rest => do
        let (j, rest) ← item rest
        let (js, rest) ← readMoreItems item rounds rest
        return (j :: js, rest)
    | rest => faultIn .itemEndExpected rest

/-- An array after its opening bracket. -/
def readItems (item : Reader Json) : Reader (List Json) := fun cs =>
  match skipBlanks cs with
  | [] => faultAt .listCutOff []
  | ']' :: rest => .ok ([], rest)
  | rest => do
    let (j, rest) ← item rest
    let (js, rest) ← readMoreItems item (rest.length + 1) rest
    return (j :: js, rest)

/-- A member of an object after the opening quote of its key. -/
def readMember (item : Reader Json) : Reader (String × Json) := fun cs => do
  let (key, rest) ← readCharacters [] cs
  match skipBlanks rest with
  | [] => faultAt .objectCutOff []
  | ':' :: rest => do
    let (j, rest) ← item rest
    return ((key, j), rest)
  | rest => faultIn .colonExpected rest

/-- The members of an object after a member, up to the closing brace. -/
def readMoreMembers (item : Reader Json) : Nat → Reader (List (String × Json))
  | 0, _ => faultAt .objectCutOff []
  | rounds + 1, cs =>
    match skipBlanks cs with
    | [] => faultAt .objectCutOff []
    | '\x7d' :: rest => .ok ([], rest)
    | ',' :: rest =>
      match skipBlanks rest with
      | [] => faultAt .valueCutOff []
      | '\x22' :: rest => do
        let (m, rest) ← readMember item rest
        let (ms, rest) ← readMoreMembers item rounds rest
        return (m :: ms, rest)
      | '\x7d' :: rest => faultIn .commaTrailing ('\x7d' :: rest)
      | rest => faultIn .keyExpected rest
    | rest => faultIn .memberEndExpected rest

/-- An object after its opening brace. -/
def readMembers (item : Reader Json) : Reader (List (String × Json)) := fun cs =>
  match skipBlanks cs with
  | [] => faultAt .objectCutOff []
  | '\x7d' :: rest => .ok ([], rest)
  | '\x22' :: rest => do
    let (m, rest) ← readMember item rest
    let (ms, rest) ← readMoreMembers item (rest.length + 1) rest
    return (m :: ms, rest)
  | rest => faultIn .keyExpected rest

/-- A value; its items and members are read with the given reader, and without one arrays and
objects are too deep. -/
def readWith (nested : Option (Reader Json)) : Reader Json := fun cs =>
  match skipBlanks cs with
  | [] => faultAt .valueCutOff []
  | 'n' :: rest => readWord .null ['u', 'l', 'l'] rest
  | 't' :: rest => readWord (.bool true) ['r', 'u', 'e'] rest
  | 'f' :: rest => readWord (.bool false) ['a', 'l', 's', 'e'] rest
  | '\x22' :: rest => do
    let (s, rest) ← readCharacters [] rest
    return (.str s, rest)
  | '-' :: rest => readNumeral true rest
  | '[' :: rest =>
    match nested with
    | none => faultAt .nestingTooDeep rest
    | some item => do
      let (js, rest) ← readItems item rest
      return (.arr js, rest)
  | '\x7b' :: rest =>
    match nested with
    | none => faultAt .nestingTooDeep rest
    | some item => do
      let (ms, rest) ← readMembers item rest
      return (.obj (orderedMembers ms), rest)
  | c :: rest =>
    if c.isDigit then readNumeral false (c :: rest) else faultIn .valueExpected (c :: rest)

/-- A value in which arrays and objects enclose one another at most `limit` deep. -/
def readValue : (limit : Nat) → Reader Json
  | 0 => readWith none
  | limit + 1 => readWith (some (readValue limit))

/-- Reads a text that holds one value and nothing else but blanks. -/
def read (limit : Nat) (text : String) : Except Fault Json := do
  let (j, rest) ← readValue limit text.toList
  match skipBlanks rest with
  | [] => return j
  | rest => faultIn .textContinues rest

end SyntaxDump.Json
