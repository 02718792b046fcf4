import SyntaxDump.Toml.Number

/-!
# Dates and times in TOML text

A date, a time, or both, in which case an offset may follow. They are kept as text in one
spelling: a `T` between date and time, no zeros at the end of a fraction of a second, which has
at most nine digits, and `Z` or hours and minutes for an offset.
-/

namespace SyntaxDump.Toml

/-- The value of two digits, if it lies in a range. -/
def twoDigits? (low high : Nat) (a b : Char) : Option Nat :=
  if a.isDigit && b.isDigit then
    let n := valueOf 10 [a, b]
    if low ≤ n ∧ n ≤ high then some n else none
  else none

/-- The number of days of a month. -/
def daysOf (year month : Nat) : Nat :=
  if month = 2 then
    if year % 4 = 0 ∧ (year % 100 ≠ 0 ∨ year % 400 = 0) then 29 else 28
  else if month = 4 ∨ month = 6 ∨ month = 9 ∨ month = 11 then 30
  else 31

/-- A date. -/
def readDate : Reader (List Char)
  | y₁ :: y₂ :: y₃ :: y₄ :: '-' :: m₁ :: m₂ :: '-' :: d₁ :: d₂ :: rest => do
    if [y₁, y₂, y₃, y₄].all Char.isDigit then
      let month ← twoDigits? 1 12 m₁ m₂
      let _ ← twoDigits? 1 (daysOf (valueOf 10 [y₁, y₂, y₃, y₄]) month) d₁ d₂
      return ([y₁, y₂, y₃, y₄, '-', m₁, m₂, '-', d₁, d₂], rest)
    else none
  | _ => none

/-- The fraction of a second with its point, if there is one; zeros at its end are dropped. -/
def readFraction : List Char → List Char × List Char
  | '.' :: c :: rest =>
    if c.isDigit then
      let ds := (c :: rest).takeWhile Char.isDigit
      let kept := ((ds.take 9).reverse.dropWhile (· == '0')).reverse
      (if kept.isEmpty then [] else '.' :: kept, (c :: rest).dropWhile Char.isDigit)
    else ([], '.' :: c :: rest)
  | cs => ([], cs)

/-- A time; sixty seconds are allowed. -/
def readTime : Reader (List Char)
  | h₁ :: h₂ :: ':' :: m₁ :: m₂ :: ':' :: s₁ :: s₂ :: rest => do
    let _ ← twoDigits? 0 23 h₁ h₂
    let _ ← twoDigits? 0 59 m₁ m₂
    let _ ← twoDigits? 0 60 s₁ s₂
    let (fraction, rest) := readFraction rest
    return ([h₁, h₂, ':', m₁, m₂, ':', s₁, s₂] ++ fraction, rest)
  | _ => none

/-- An offset with its sign; one of zero hours and minutes is positive. -/
def readOffsetDigits (sign : Char) : Reader (List Char)
  | h₁ :: h₂ :: ':' :: m₁ :: m₂ :: rest => do
    let hours ← twoDigits? 0 23 h₁ h₂
    let minutes ← twoDigits? 0 59 m₁ m₂
    let sign := if hours = 0 ∧ minutes = 0 then '+' else sign
    return ([sign, h₁, h₂, ':', m₁, m₂], rest)
  | _ => none

/-- An offset, if there is one. -/
def readOffset : Reader (List Char)
  | 'Z' :: rest => some (['Z'], rest)
  | 'z' :: rest => some (['Z'], rest)
  | '+' :: rest => readOffsetDigits '+' rest
  | '-' :: rest => readOffsetDigits '-' rest
  | cs => some ([], cs)

/-- Whether a time begins here: two digits for an hour and a colon. -/
def timeBegins : List Char → Bool
  | h₁ :: h₂ :: ':' :: _ => (twoDigits? 0 23 h₁ h₂).isSome
  | _ => false

/-- Whether a date begins here: four digits and a hyphen. -/
def dateBegins : List Char → Bool
  | y₁ :: y₂ :: y₃ :: y₄ :: '-' :: _ => [y₁, y₂, y₃, y₄].all Char.isDigit
  | _ => false

/-- What may stand between a date and a time. -/
def isTimeMark (c : Char) : Bool := c == 'T' || c == 't' || c == ' '

/-- A date with the time and the offset that follow it, if they do. -/
def readDateTime : Reader (List Char) := fun cs => do
  let (date, rest) ← readDate cs
  match rest with
  | mark :: more =>
    if isTimeMark mark && timeBegins more then
      let (time, rest) ← readTime more
      let (offset, rest) ← readOffset rest
      return (date ++ 'T' :: time ++ offset, rest)
    else return (date, rest)
  | [] => return (date, [])

/-- A number, a date or a time: all begin with a digit or a sign. -/
def numberOrMoment : Reader Json := fun cs =>
  if dateBegins cs then (readDateTime cs).map fun (t, rest) => (.str (String.ofList t), rest)
  else if timeBegins cs then (readTime cs).map fun (t, rest) => (.str (String.ofList t), rest)
  else number cs

end SyntaxDump.Toml
