import SyntaxDump.Binary64.Rounding
import SyntaxDump.Json.Basic
import SyntaxDump.Text.Hex
import SyntaxDump.Width

/-!
# Numbers in TOML text

Digits may be grouped by underscores, one between two digits. Integers are decimal with an
optional sign, or hexadecimal, octal or binary without one, and fit into 64 bits; floats have a
fraction or an exponent, and are rounded to the nearest number. One that is too large is refused
if it is positive.
-/

namespace SyntaxDump.Toml

/-- What a reader makes of a text: a result and the rest of the text, or nothing. -/
abbrev Reader (α : Type) := List Char → Option (α × List Char)

/-- Digits after a first one, in reverse before the given ones. -/
def moreDigits (isDigit : Char → Bool) (read : List Char) : Reader (List Char)
  | '_' :: c :: rest => if isDigit c then moreDigits isDigit (c :: read) rest else none
  | '_' :: [] => none
  | c :: rest => if isDigit c then moreDigits isDigit (c :: read) rest else some (read.reverse, c :: rest)
  | [] => some (read.reverse, [])

/-- One or more digits. -/
def digits (isDigit : Char → Bool) : Reader (List Char)
  | [] => none
  | c :: rest => if isDigit c then moreDigits isDigit [c] rest else none

/-- The digits of a whole number, which do not begin with a zero unless it is the only one. -/
def wholeDigits : Reader (List Char)
  | '0' :: rest => some (['0'], rest)
  | cs => digits Char.isDigit cs

/-- The number that digits stand for in a base. -/
def valueOf (base : Nat) (ds : List Char) : Nat :=
  ds.foldl (fun n c => base * n + (Text.hexValue? c).getD 0) 0

/-- An integer, if 64 bits hold it. -/
def integer? (n : Int) : Option Json :=
  if Width.signed 64 n then some (.int n) else none

/-- An integer in a base other than ten, after its mark. -/
def basedInteger (base : Nat) (isDigit : Char → Bool) : Reader Json := fun cs => do
  let (ds, rest) ← digits isDigit cs
  let j ← integer? (valueOf base ds)
  return (j, rest)

/-- A sign, if there is one, and whether it is a minus. -/
def readSign : List Char → Bool × List Char
  | '+' :: rest => (false, rest)
  | '-' :: rest => (true, rest)
  | cs => (false, cs)

/-- An exponent with its mark; without a mark it is zero. -/
def readExponent : Reader Int
  | [] => some (0, [])
  | c :: rest =>
    if c = 'e' ∨ c = 'E' then do
      let (negative, rest) := readSign rest
      let (ds, rest) ← digits Char.isDigit rest
      let n : Int := valueOf 10 ds
      return (if negative then -n else n, rest)
    else some (0, c :: rest)

/-- A float, unless it is positive and too large. -/
def float? (negative : Bool) (coefficient : Nat) (exponent : Int) : Option Json :=
  let x := Binary64.ofDecimal negative coefficient exponent
  if x = .infinity false then none else some (.float x)

/-- A decimal number after its sign. -/
def decimalNumber (negative : Bool) : Reader Json := fun cs => do
  let (whole, rest) ← wholeDigits cs
  match rest with
  | '.' :: rest =>
    let (fraction, rest) ← digits Char.isDigit rest
    let (exponent, rest) ← readExponent rest
    let j ← float? negative (valueOf 10 (whole ++ fraction)) (exponent - fraction.length)
    return (j, rest)
  | c :: _ =>
    if c = 'e' ∨ c = 'E' then
      let (exponent, rest) ← readExponent rest
      let j ← float? negative (valueOf 10 whole) exponent
      return (j, rest)
    else
      let j ← integer? (if negative then -valueOf 10 whole else valueOf 10 whole)
      return (j, rest)
  | [] =>
    let j ← integer? (if negative then -valueOf 10 whole else valueOf 10 whole)
    return (j, [])

/-- A number after its sign: digits, or the name of an infinity or of what is no number. -/
def signedNumber (negative : Bool) : Reader Json
  | 'i' :: 'n' :: 'f' :: rest => some (.float (.infinity negative), rest)
  | 'n' :: 'a' :: 'n' :: rest =>
    some (.float (if negative then Binary64.nan.neg else .nan), rest)
  | cs => decimalNumber negative cs

/-- A number. -/
def number : Reader Json
  | '0' :: 'x' :: rest => basedInteger 16 (fun c => (Text.hexValue? c).isSome) rest
  | '0' :: 'o' :: rest => basedInteger 8 (fun c => '0' ≤ c && c ≤ '7') rest
  | '0' :: 'b' :: rest => basedInteger 2 (fun c => c == '0' || c == '1') rest
  | cs => let (negative, rest) := readSign cs; signedNumber negative rest

end SyntaxDump.Toml
