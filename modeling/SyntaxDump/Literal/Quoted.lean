import SyntaxDump.Text.Hex
import SyntaxDump.Unicode.Unprintable

/-!
# String and bytes literals

A text is written between quotes on one line. Single quotes are preferred; double quotes are
taken for a text that holds a single quote and no double quote. The delimiter and the backslash
are escaped, line breaks and tabs have escapes of their own, and every other character without a
visible form is written by its code.
-/

namespace SyntaxDump.Literal

/-- The single quote. -/
def singleQuote : Char := '\x27'

/-- The double quote. -/
def doubleQuote : Char := '\x22'

/-- The delimiter of a literal, from whether either quote occurs in its content. -/
def delimiter (hasSingle hasDouble : Bool) : Char :=
  if hasSingle && !hasDouble then doubleQuote else singleQuote

/-- Characters that stand for themselves in a literal. The table of characters without a visible
form is asked about characters beyond ASCII only. -/
def isPrintable (unprintable : Char → Bool) (c : Char) : Bool :=
  if c.toNat < 128 then ' ' ≤ c && c ≤ '~' else !unprintable c

/-- A character by its code, in the shortest form that can hold it. -/
def codeEscape (c : Char) : List Char :=
  if c.toNat < 0x100 then '\\' :: 'x' :: Text.hexDigits 2 c.toNat
  else if c.toNat < 0x10000 then '\\' :: 'u' :: Text.hexDigits 4 c.toNat
  else '\\' :: 'U' :: Text.hexDigits 8 c.toNat

/-- A character inside a string literal. -/
def escapeChar (unprintable : Char → Bool) (quote : Char) (c : Char) : List Char :=
  if c = '\\' then ['\\', '\\']
  else if c = '\n' then ['\\', 'n']
  else if c = '\r' then ['\\', 'r']
  else if c = '\t' then ['\\', 't']
  else if c = quote then ['\\', c]
  else if isPrintable unprintable c then [c]
  else codeEscape c

/-- The characters of a string literal. -/
def quoted (unprintable : Char → Bool) (cs : List Char) : List Char :=
  let quote := delimiter (cs.contains singleQuote) (cs.contains doubleQuote)
  quote :: (cs.flatMap (escapeChar unprintable quote) ++ [quote])

/-- A string literal, for a given table of characters without a visible form. -/
def stringWith (unprintable : Char → Bool) (s : String) : String :=
  String.ofList (quoted unprintable s.toList)

/-- A string literal. -/
def string (s : String) : String := stringWith Unicode.unprintable.contains s

/-- A byte inside a bytes literal. -/
def escapeByte (quote : Char) (b : UInt8) : List Char :=
  if b = 0x5c then ['\\', '\\']
  else if b = 0x0a then ['\\', 'n']
  else if b = 0x0d then ['\\', 'r']
  else if b = 0x09 then ['\\', 't']
  else if b.toNat = quote.toNat then ['\\', quote]
  else if 0x20 ≤ b ∧ b ≤ 0x7e then [Char.ofNat b.toNat]
  else '\\' :: 'x' :: Text.hexDigits 2 b.toNat

/-- The characters of a bytes literal. -/
def quotedBytes (bs : List UInt8) : List Char :=
  let quote := delimiter (bs.contains 0x27) (bs.contains 0x22)
  'b' :: quote :: (bs.flatMap (escapeByte quote) ++ [quote])

/-- A bytes literal. -/
def bytes (bs : List UInt8) : String := String.ofList (quotedBytes bs)

end SyntaxDump.Literal
