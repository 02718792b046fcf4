import SyntaxDump.Binary64.Rounding
import SyntaxDump.Json.Basic
import SyntaxDump.Json.Error
import SyntaxDump.Width

/-!
# Numbers in JSON text

A numeral without fraction and exponent is an integer when it fits into 64 bits, signed or
unsigned, and is not `-0`; every other numeral is a float.

A float is computed from a significand of 64 bits and a power of ten. The significand takes the
digits of the numeral as long as they fit; further digits of the whole part count only towards
the power, further digits of the fraction not at all. Significand and power are then combined by
one rounded multiplication or division (`scale`), so the float is not always the one nearest to
the numeral.
-/

namespace SyntaxDump.Json

/-- What a reader makes of a text: a result and the rest of the text, or a fault. -/
abbrev Reader (α : Type) := List Char → Except Fault (α × List Char)

/-- The fault that lies at the beginning of the given rest. -/
def faultAt {α : Type} (problem : Problem) (rest : List Char) : Except Fault α :=
  .error ⟨problem, byteCount rest⟩

/-- The fault that lies after the first byte of the given rest. -/
def faultIn {α : Type} (problem : Problem) (rest : List Char) : Except Fault α :=
  .error ⟨problem, byteCount rest - 1⟩

/-- The value of a decimal digit. -/
def digitValue (c : Char) : Nat := c.toNat - 48

/-- The digits at the beginning of a text, and the rest. -/
def spanDigits (cs : List Char) : List Char × List Char := cs.span Char.isDigit

/-- Appends digits to a significand as long as it stays below the bound, and returns the digits
left over. -/
def accumulate (bound : Nat) (n : Nat) : List Char → Nat × List Char
  | [] => (n, [])
  | c :: rest =>
    if 10 * n + digitValue c < bound then accumulate bound (10 * n + digitValue c) rest
    else (n, c :: rest)

/-- Combines a float with a power of ten; `none` if the result is too large. Powers beyond
`10 ^ 308` are taken off in steps, of which the first few settle the matter. -/
def scale (x : Binary64) (exponent : Int) : Nat → Option Binary64
  | 0 => some x
  | steps + 1 =>
    if exponent.natAbs ≤ 308 then
      if 0 ≤ exponent then
        let y := x.mul (.powerOfTen exponent.toNat)
        if y.isFinite then some y else none
      else some (x.div (.powerOfTen (-exponent).toNat))
    else if x.isZero then some x
    else if 0 ≤ exponent then none
    else scale (x.div (.powerOfTen 308)) (exponent + 308) steps

/-- The float of a significand below `2 ^ 64` and a power of ten. Two divisions by `10 ^ 308`
make any such significand zero, so four steps are enough. -/
def combine (negative : Bool) (significand : Nat) (exponent : Int) : Option Binary64 :=
  (scale (.ofRatio false significand 1) exponent 4).map
    fun x => if negative then x.neg else x

/-- The float of a numeral that ends at the given rest. -/
def finishFloat (negative : Bool) (significand : Nat) (exponent : Int) : Reader Json :=
  fun rest => match combine negative significand exponent with
    | some x => .ok (.float x, rest)
    | none => faultAt .numberOutOfRange rest

/-- The integer of a numeral, or its float if it has no integer of 64 bits. -/
def finishInteger (negative : Bool) (significand : Nat) : Json :=
  if !negative then .int significand
  else if significand = 0 || Width.values 63 < significand then
    .float (Binary64.ofRatio false significand 1).neg
  else .int (-significand)

/-- The digits of an exponent. One that does not fit into 32 bits is out of range as far as it
has been read, unless the number is zero or the exponent negative: then the number is zero. -/
def readExponentDigits (negative : Bool) (significand : Nat) (exponent : Int)
    (negativeExponent : Bool) : Reader Json := fun cs =>
  let (ds, rest) := spanDigits cs
  match accumulate (Width.values 31) 0 ds with
  | (n, []) =>
    finishFloat negative significand
      (if negativeExponent then exponent - n else exponent + n) rest
  | (_, _ :: unread) =>
    if significand ≠ 0 ∧ !negativeExponent then faultAt .numberOutOfRange (unread ++ rest)
    else .ok (.float (.zero negative), rest)

/-- The exponent of a numeral after its `e`. -/
def readExponent (negative : Bool) (significand : Nat) (exponent : Int) : Reader Json := fun cs =>
  let (negativeExponent, cs) := match cs with
    | '+' :: rest => (false, rest)
    | '-' :: rest => (true, rest)
    | _ => (false, cs)
  match cs with
  | [] => faultAt .valueCutOff []
  | c :: _ =>
    if c.isDigit then readExponentDigits negative significand exponent negativeExponent cs
    else faultIn .numberMalformed cs

/-- The fraction of a numeral after its point. -/
def readFraction (negative : Bool) (significand : Nat) (exponent : Int) : Reader Json := fun cs =>
  let (ds, rest) := spanDigits cs
  if ds.isEmpty then
    if rest.isEmpty then faultAt .valueCutOff [] else faultIn .numberMalformed rest
  else
    let (n, unread) := accumulate (Width.values 64) significand ds
    let exponent := exponent - (ds.length - unread.length : Nat)
    match rest with
    | 'e' :: more => readExponent negative n exponent more
    | 'E' :: more => readExponent negative n exponent more
    | _ => finishFloat negative n exponent rest

/-- A numeral after its sign. A zero is the only digit before the point, the exponent or the
end. -/
def readNumeral (negative : Bool) : Reader Json := fun cs =>
  match cs with
  | [] => faultAt .valueCutOff []
  | c :: more =>
    if !c.isDigit then faultIn .numberMalformed cs
    else if c = '0' ∧ more.head?.any Char.isDigit then faultIn .numberMalformed more
    else
      let (ds, rest) := spanDigits cs
      let (n, unread) := accumulate (Width.values 64) 0 ds
      let exponent : Int := unread.length
      match rest with
      | '.' :: more => readFraction negative n exponent more
      | 'e' :: more => readExponent negative n exponent more
      | 'E' :: more => readExponent negative n exponent more
      | _ =>
        if unread.isEmpty then .ok (finishInteger negative n, rest)
        else finishFloat negative n exponent rest

end SyntaxDump.Json
