import SyntaxDump.Binary64.Rounding
import SyntaxDump.Json.Basic
import SyntaxDump.Text.Hex
import SyntaxDump.Width

/-!
# Values of scalars

A plain scalar may stand for a null, a truth value or a number; all other scalars are strings. A
tag can ask for one of these kinds, whatever the spelling of the scalar. Integers that 64 bits do
not hold are refused as far as 128 bits hold them, and beyond that are no integers.
-/

namespace SyntaxDump.Yaml

/-- Whether a text stands for a null. -/
def isNull (text : String) : Bool := ["null", "Null", "NULL", "~"].contains text

/-- The truth value that a text stands for. -/
def truth? (text : String) : Option Bool :=
  if ["true", "True", "TRUE"].contains text then some true
  else if ["false", "False", "FALSE"].contains text then some false
  else none

/-- A sign, if there is one, and whether it is a minus. -/
def readSign : List Char → Bool × List Char
  | '+' :: rest => (false, rest)
  | '-' :: rest => (true, rest)
  | cs => (false, cs)

/-- The value of one or more digits in a base. -/
def digitsValue? (base : Nat) (ds : List Char) : Option Nat :=
  if ds.isEmpty then none
  else ds.foldlM (fun n d => do
    let v ← Text.hexValue? d
    if v < base then some (base * n + v) else none) 0

/-- Whether a text is made of digits of which the first is a zero that stands for nothing. -/
def hasLeadingZero (text : List Char) : Bool :=
  match (readSign text).2 with
  | '0' :: d :: rest => (d :: rest).all Char.isDigit
  | _ => false

/-- The value of a whole number without its sign. -/
def magnitude? : List Char → Option Nat
  | '0' :: 'x' :: ds => digitsValue? 16 ds
  | '0' :: 'o' :: ds => digitsValue? 8 ds
  | '0' :: 'b' :: ds => digitsValue? 2 ds
  | ds => digitsValue? 10 ds

/-- The integer that a text spells. -/
def integer? (text : String) : Option Int :=
  if hasLeadingZero text.toList then none
  else
    let (negative, ds) := readSign text.toList
    (magnitude? ds).map fun n => if negative then -n else n

/-- The exponent of a decimal fraction. -/
def exponent? : List Char → Option Int
  | [] => some 0
  | c :: rest =>
    if c = 'e' ∨ c = 'E' then
      let (negative, ds) := readSign rest
      if ds.all Char.isDigit then
        (digitsValue? 10 ds).map fun n => if negative then -(n : Int) else n
      else none
    else none

/-- The number that a decimal fraction without a sign stands for. There are digits before the
point or after it. -/
def fraction? (negative : Bool) (cs : List Char) : Option Binary64 := do
  let (whole, rest) := cs.span Char.isDigit
  let (tail, rest) := match rest with
    | '.' :: rest => rest.span Char.isDigit
    | _ => ([], rest)
  let coefficient ← digitsValue? 10 (whole ++ tail)
  let exponent ← exponent? rest
  let x := Binary64.ofDecimal negative coefficient (exponent - tail.length)
  if x.isFinite then some x else none

/-- The words for what is not finite. -/
def notFinite? (text : String) : Option Binary64 :=
  if [".inf", ".Inf", ".INF", "+.inf", "+.Inf", "+.INF"].contains text then some (.infinity false)
  else if ["-.inf", "-.Inf", "-.INF"].contains text then some (.infinity true)
  else if [".nan", ".NaN", ".NAN"].contains text then some .nan
  else none

/-- The float that a text spells. -/
def float? (text : String) : Option Binary64 :=
  match notFinite? text with
  | some x => some x
  | none =>
    let (negative, cs) := readSign text.toList
    fraction? negative cs

/-- A float as a value; what is not finite becomes null. -/
def floatValue (x : Binary64) : Json := if x.isFinite then .float x else .null

/-- How far a number is held by 64 bits, or at least by 128. -/
inductive IntegerSize where
  | narrow
  | wide
  | tooWide
deriving DecidableEq

/-- How far an integer is held. -/
def IntegerSize.of (n : Int) : IntegerSize :=
  if Width.holds 64 n then .narrow
  else if Width.holds 128 n then .wide
  else .tooWide

/-- The value of a plain scalar that is no null, no truth value and no integer. -/
def floatOrText (text : String) : Json :=
  if hasLeadingZero text.toList then .str text
  else match float? text with
    | some x => floatValue x
    | none => .str text

/-- The value of a plain scalar without a tag. -/
def plainValue (text : String) : Option Json :=
  if text.isEmpty || isNull text then some .null
  else match truth? text with
    | some b => some (.bool b)
    | none =>
      match integer? text with
      | none => some (floatOrText text)
      | some n =>
        match IntegerSize.of n with
        | .narrow => some (.int n)
        | .wide => none
        | .tooWide => some (floatOrText text)

/-- The value of a scalar without a tag. -/
def untaggedValue (text : String) (isPlain : Bool) : Option Json :=
  if isPlain then plainValue text else some (.str text)

/-- An integer that a tag asks for. -/
def taggedInteger (text : String) : Option Json := do
  let n ← integer? text
  if IntegerSize.of n = .narrow then some (.int n) else none

/-- The value of a scalar with a tag that is not local. -/
def taggedValue (tag text : String) : Option Json :=
  if tag = "tag:yaml.org,2002:bool" then (truth? text).map .bool
  else if tag = "tag:yaml.org,2002:int" then taggedInteger text
  else if tag = "tag:yaml.org,2002:float" then (float? text).map floatValue
  else if tag = "tag:yaml.org,2002:null" then if isNull text then some .null else none
  else some (.str text)

end SyntaxDump.Yaml
