import SyntaxDump.Proofs.Json.Range
import SyntaxDump.Proofs.Json.Text

/-!
# Texts with exact integers

The reader makes floats of integers that do not fit into 64 bits. To say what a text spells,
whatever the reader makes of it, there is a second reader here that differs in one point: where a
value may stand and an integer is written in canonical form, it reads the integer, however wide. The
value that the first reader makes of a text is that of the second one with its integers rounded.

## Main statements

- `Json.integer?_eq_some_iff`: when an integer is written in canonical form;
- `Json.readExact_of_read`: what is read, from what is spelled.
-/

namespace SyntaxDump.Json

/-! ## Exact readings -/

instance : (rest : List Char) → Decidable (EndsNumeral rest)
  | [] => isTrue nofun
  | c :: _ =>
    decidable_of_iff (c.isDigit = false ∧ c ≠ '.' ∧ c ≠ 'e' ∧ c ≠ 'E')
      ⟨fun h _ hd => Option.some.inj hd ▸ h, fun h => h c rfl⟩

/-- The integer that a text begins with in canonical form, and the rest of the text. -/
def integer? : List Char → Option (ℤ × List Char)
  | [] => none
  | c :: cs =>
    let ds := (spanDigits cs).1
    let n : ℤ := if c = '-' then -Nat.ofDigitChars 10 ds 0 else Nat.ofDigitChars 10 (c :: ds) 0
    if c :: cs = writeInt n ++ (spanDigits cs).2 ∧ EndsNumeral (spanDigits cs).2 then
      some (n, (spanDigits cs).2)
    else none

/-- A text begins with an integer in canonical form if the integer is written that way and nothing
after it could be taken for a part of it. -/
theorem integer?_eq_some_iff {cs : List Char} {n : ℤ} {rest : List Char} :
    integer? cs = some (n, rest) ↔ cs = writeInt n ++ rest ∧ EndsNumeral rest := by
  constructor
  · intro h
    cases cs with
    | nil => cases h
    | cons c cs =>
      obtain ⟨hwritten, heq⟩ := Option.ite_none_right_eq_some.mp h
      obtain ⟨rfl, rfl⟩ := Prod.mk.inj (Option.some.inj heq)
      exact hwritten
  · rintro ⟨rfl, hrest⟩
    have hdigits := Decimal.isDigit_of_mem_digits (n := n.natAbs)
    have hmagnitude := Decimal.ofDigitChars_digits n.natAbs
    -- the sign tells which of the two integers of the magnitude it is
    by_cases hn : n < 0
    · have htext : writeInt n = '-' :: Decimal.digits n.natAbs := if_pos hn
      have hvalue : -(n.natAbs : ℤ) = n := by omega
      rw [htext, List.cons_append, integer?, spanDigits_append hdigits hrest.endsDigits]
      dsimp only
      rw [if_pos rfl, hmagnitude, hvalue, htext]
      exact if_pos ⟨rfl, hrest⟩
    · have htext : writeInt n = Decimal.digits n.natAbs := if_neg hn
      have hvalue : (n.natAbs : ℤ) = n := by omega
      obtain ⟨c, ds, hds⟩ := List.exists_cons_of_ne_nil (Decimal.digits_ne_nil n.natAbs)
      rw [hds] at htext hdigits hmagnitude
      obtain ⟨hc, htail⟩ := List.forall_mem_cons.mp hdigits
      have hsign : c ≠ '-' := by
        rintro rfl
        exact absurd hc (by decide)
      rw [htext, List.cons_append, integer?, spanDigits_append htail hrest.endsDigits]
      dsimp only
      rw [if_neg hsign, hmagnitude, hvalue, htext]
      exact if_pos ⟨rfl, hrest⟩

/-- A value in which integers are exact; its items and members are read with the given reader. -/
def readExactWith (nested : Option (Reader Json)) : Reader Json := fun cs =>
  match integer? (skipBlanks cs) with
  | some (n, rest) => .ok (.int n, rest)
  | none => readWith nested cs

/-- A value with exact integers in which arrays and objects enclose one another at most `limit`
deep. -/
def readExactValue : (limit : Nat) → Reader Json
  | 0 => readExactWith none
  | limit + 1 => readExactWith (some (readExactValue limit))

/-- Reads a text that holds one value with exact integers and nothing else but blanks. -/
def readExact (limit : Nat) (text : String) : Except Fault Json := do
  let (j, rest) ← readExactValue limit text.toList
  match skipBlanks rest with
  | [] => return j
  | rest => faultIn .textContinues rest

/-! ## Rounding -/

/-- The float that the numeral of an integer is read as. It is infinite if there is none. -/
def floatOfInt (n : ℤ) : Binary64 :=
  match reread (writeInt n) with
  | .float x => x
  | _ => .infinity (decide (n < 0))

mutual

/-- The value with each integer that does not fit into 64 bits replaced by a float. -/
def rounded : Json → Json
  | .int n => if (Constant.int n).InRange then .int n else .float (floatOfInt n)
  | .arr items => .arr (roundedItems items)
  | .obj members => .obj (roundedMembers members)
  | .null => .null
  | .bool b => .bool b
  | .float x => .float x
  | .str s => .str s

/-- The items of an array, each rounded. -/
def roundedItems : List Json → List Json
  | [] => []
  | j :: rest => rounded j :: roundedItems rest

/-- The members of an object with their values rounded. -/
def roundedMembers : List (String × Json) → List (String × Json)
  | [] => []
  | (key, j) :: rest => (key, rounded j) :: roundedMembers rest

end

theorem roundedItems_eq_map (items : List Json) : roundedItems items = items.map rounded := by
  induction items with
  | nil => rfl
  | cons j rest ih => rw [roundedItems, List.map_cons, ih]

/-- The member of a rounded value is the rounded member. -/
theorem member?_roundedMembers (members : List (String × Json)) (key : String) :
    member? (roundedMembers members) key = (member? members key).map rounded := by
  induction members with
  | nil => rfl
  | cons m rest ih =>
    rw [roundedMembers, member?_cons, member?_cons, ih]
    split <;> rfl

private theorem insertMember_roundedMembers (key : String) (j : Json)
    (members : List (String × Json)) :
    insertMember key (rounded j) (roundedMembers members) =
      roundedMembers (insertMember key j members) := by
  induction members with
  | nil => rfl
  | cons m rest ih =>
    obtain ⟨k, v⟩ := m
    rw [roundedMembers, insertMember, insertMember, ih]
    split
    · rfl
    split <;> rfl

/-- Rounding the values of members has no part in their order. -/
private theorem orderedMembers_roundedMembers (members : List (String × Json)) :
    orderedMembers (roundedMembers members) = roundedMembers (orderedMembers members) := by
  have hfold (ordered : List (String × Json)) :
      (roundedMembers members).foldl (fun acc m => insertMember m.1 m.2 acc)
          (roundedMembers ordered) =
        roundedMembers (members.foldl (fun acc m => insertMember m.1 m.2 acc) ordered) := by
    induction members generalizing ordered with
    | nil => rfl
    | cons m rest ih =>
      rw [roundedMembers, List.foldl_cons, List.foldl_cons, insertMember_roundedMembers, ih]
  exact hfold []

/-- A number that is read is not rounded again. -/
private theorem IsNumber.rounded_eq {j : Json} (h : IsNumber j) : j.rounded = j := by
  cases j with
  | int n => exact if_pos h
  | float x => rfl
  | _ => exact h.elim

/-! ## Readings compared -/

open SyntaxDump.Except (Mirrors)

section Readers

variable {item item' : Reader Json}
  (hitem : ∀ cs, Mirrors (Prod.map rounded id) (item cs) (item' cs))

include hitem

private theorem readMoreItems_mirrors (rounds : Nat) (cs : List Char) :
    Mirrors (Prod.map roundedItems id) (readMoreItems item rounds cs)
      (readMoreItems item' rounds cs) := by
  induction rounds generalizing cs with
  | zero => exact .error
  | succ rounds ih =>
    rw [readMoreItems, readMoreItems]
    split
    · exact .error
    · exact .ok (Prod.map roundedItems id) ([], _)
    · split
      · exact .error
      · exact .error
      · refine (hitem _).bind ?_
        rintro ⟨j, rest⟩
        refine (ih rest).bind ?_
        rintro ⟨js, rest⟩
        exact .ok (Prod.map roundedItems id) (j :: js, rest)
    · exact .error

private theorem readItems_mirrors (cs : List Char) :
    Mirrors (Prod.map roundedItems id) (readItems item cs) (readItems item' cs) := by
  rw [readItems, readItems]
  split
  · exact .error
  · exact .ok (Prod.map roundedItems id) ([], _)
  · refine (hitem _).bind ?_
    rintro ⟨j, rest⟩
    refine (readMoreItems_mirrors hitem _ rest).bind ?_
    rintro ⟨js, rest⟩
    exact .ok (Prod.map roundedItems id) (j :: js, rest)

private theorem readMember_mirrors (cs : List Char) :
    Mirrors (Prod.map (Prod.map id rounded) id) (readMember item cs) (readMember item' cs) := by
  rw [readMember, readMember]
  -- keys are texts, which are read alike
  refine (Mirrors.refl _).bind ?_
  rintro ⟨key, rest⟩
  dsimp only [id]
  split
  · exact .error
  · refine (hitem _).bind ?_
    rintro ⟨j, rest⟩
    exact .ok (Prod.map (Prod.map id rounded) id) ((key, j), rest)
  · exact .error

private theorem readMoreMembers_mirrors (rounds : Nat) (cs : List Char) :
    Mirrors (Prod.map roundedMembers id) (readMoreMembers item rounds cs)
      (readMoreMembers item' rounds cs) := by
  induction rounds generalizing cs with
  | zero => exact .error
  | succ rounds ih =>
    rw [readMoreMembers, readMoreMembers]
    split
    · exact .error
    · exact .ok (Prod.map roundedMembers id) ([], _)
    · split
      · exact .error
      · refine (readMember_mirrors hitem _).bind ?_
        rintro ⟨m, rest⟩
        refine (ih rest).bind ?_
        rintro ⟨ms, rest⟩
        exact .ok (Prod.map roundedMembers id) (m :: ms, rest)
      · exact .error
      · exact .error
    · exact .error

private theorem readMembers_mirrors (cs : List Char) :
    Mirrors (Prod.map roundedMembers id) (readMembers item cs) (readMembers item' cs) := by
  rw [readMembers, readMembers]
  split
  · exact .error
  · exact .ok (Prod.map roundedMembers id) ([], _)
  · refine (readMember_mirrors hitem _).bind ?_
    rintro ⟨m, rest⟩
    refine (readMoreMembers_mirrors hitem _ rest).bind ?_
    rintro ⟨ms, rest⟩
    exact .ok (Prod.map roundedMembers id) (m :: ms, rest)
  · exact .error

end Readers

/-- An integer in canonical form is read as the integer, rounded. -/
private theorem readWith_writeInt_mirrors (nested : Option (Reader Json)) {n : ℤ}
    {rest : List Char} (hrest : EndsNumeral rest) :
    Mirrors (Prod.map rounded id) (readWith nested (writeInt n ++ rest))
      (.ok (.int n, rest) : Except Fault (Json × List Char)) := by
  have hread {j : Json} (h : ReadsAs (writeInt n) j) (heq : rounded (.int n) = j) :
      Mirrors (Prod.map rounded id) (readWith nested (writeInt n ++ rest))
        (.ok (.int n, rest) : Except Fault (Json × List Char)) := by
    rw [h.read nested rest hrest, ← heq]
    exact .ok (Prod.map rounded id) (.int n, rest)
  -- beyond 64 bits the numeral is read as a float, or not at all if there is none
  by_cases hrange : (Constant.int n).InRange
  · exact hread (readsAs_writeInt hrange.1 hrange.2) (if_pos hrange)
  · rcases readsAs_writeInt_float_or_fault hrange with ⟨x, -, hfloat⟩ | hfault
    · refine hread hfloat ?_
      rw [rounded, if_neg hrange, floatOfInt, hfloat.reread_eq]
    · obtain ⟨fault, hfault⟩ := hfault nested rest hrest
      rw [hfault]
      exact .error

/-- Blanks before a value do not matter. -/
private theorem readWith_skipBlanks (nested : Option (Reader Json)) (cs : List Char) :
    readWith nested (skipBlanks cs) = readWith nested cs := by
  have hskip : skipBlanks (skipBlanks cs) = skipBlanks cs := List.dropWhile_idempotent _ cs
  rw [readWith, readWith, hskip]

/-- A value that is its own rounded value. -/
private theorem mirrors_self {j : Json} (hj : j.rounded = j) (rest : List Char) :
    Mirrors (Prod.map rounded id) (.ok (j, rest) : Except Fault (Json × List Char))
      (.ok (j, rest) : Except Fault (Json × List Char)) := by
  have h : Mirrors (Prod.map rounded id) (.ok (j.rounded, rest) : Except Fault (Json × List Char))
      (.ok (j, rest) : Except Fault (Json × List Char)) := .ok _ (j, rest)
  rwa [hj] at h

/-- A word is read as the value that it stands for. -/
private theorem readWord_mirrors {value : Json} (h : value.rounded = value)
    (word cs : List Char) :
    Mirrors (Prod.map rounded id) (readWord value word cs) (readWord value word cs) := by
  induction word generalizing cs with
  | nil => exact mirrors_self h cs
  | cons w word ih =>
    cases cs with
    | nil => exact .error
    | cons c rest =>
      rw [readWord]
      split
      · exact ih rest
      · exact .error

/-- A numeral that is not an integer in canonical form is read as it is. -/
private theorem readNumeral_mirrors (negative : Bool) (cs : List Char) :
    Mirrors (Prod.map rounded id) (readNumeral negative cs) (readNumeral negative cs) := by
  rintro ⟨j, rest⟩ h
  have hj := (readNumeral_isNumber negative cs j rest h).rounded_eq
  exact ⟨(j, rest), h, by rw [Prod.map, hj]; rfl⟩

/-- What is read is the rounded value of what is spelled, if this is so for items and members. -/
private theorem readWith_mirrors {nested nested' : Option (Reader Json)}
    (hnested : ∀ item ∈ nested, ∃ item' ∈ nested', ∀ cs,
      Mirrors (Prod.map rounded id) (item cs) (item' cs)) (cs : List Char) :
    Mirrors (Prod.map rounded id) (readWith nested cs) (readExactWith nested' cs) := by
  rw [readExactWith]
  split
  · -- an integer in canonical form, where alone the readers differ
    next n rest h =>
    obtain ⟨htext, hrest⟩ := integer?_eq_some_iff.mp h
    rw [← readWith_skipBlanks, htext]
    exact readWith_writeInt_mirrors nested hrest
  · rw [readWith, readWith]
    -- one case for each character that values begin with
    split
    · exact .error
    · exact readWord_mirrors rfl _ _
    · exact readWord_mirrors rfl _ _
    · exact readWord_mirrors rfl _ _
    · refine (Mirrors.refl _).bind ?_
      rintro ⟨s, rest⟩
      exact mirrors_self rfl rest
    · exact readNumeral_mirrors _ _
    · -- an array, unless the limit is reached
      split
      · exact .error
      · next item =>
        obtain ⟨item', rfl, hitem⟩ := hnested item rfl
        refine (readItems_mirrors hitem _).bind ?_
        rintro ⟨js, rest⟩
        exact .ok (Prod.map rounded id) (.arr js, rest)
    · -- an object, whose members are put in order
      split
      · exact .error
      · next item =>
        obtain ⟨item', rfl, hitem⟩ := hnested item rfl
        refine (readMembers_mirrors hitem _).bind ?_
        rintro ⟨ms, rest⟩
        dsimp only [Prod.map]
        rw [orderedMembers_roundedMembers]
        exact .ok (Prod.map rounded id) (.obj (orderedMembers ms), rest)
    · split
      · exact readNumeral_mirrors _ _
      · exact .error

/-- The value that is read at the beginning of a text is the rounded value of what is spelled there.
The induction is on the limit, as the reader of items and members is the one for the next smaller
limit. -/
theorem readValue_mirrors (limit : Nat) (cs : List Char) :
    Mirrors (Prod.map rounded id) (readValue limit cs) (readExactValue limit cs) := by
  induction limit generalizing cs with
  | zero => exact readWith_mirrors (fun item h => absurd h (Option.not_mem_none item)) cs
  | succ limit ih =>
    refine readWith_mirrors (fun item hitem => ⟨_, rfl, ?_⟩) cs
    exact Option.some.inj hitem ▸ ih

/-- The value that a text is read as is the rounded value of what the text spells. -/
theorem readExact_of_read {limit : Nat} {text : String} {j : Json} (h : read limit text = .ok j) :
    ∃ spelled, readExact limit text = .ok spelled ∧ j = spelled.rounded := by
  have hmirrors : Mirrors rounded (read limit text) (readExact limit text) := by
    refine (readValue_mirrors limit text.toList).bind ?_
    rintro ⟨j, rest⟩
    dsimp only [Prod.map, id]
    cases skipBlanks rest with
    | nil => exact .ok rounded j
    | cons c cs => exact .error
  exact hmirrors j h

end SyntaxDump.Json
