import SyntaxDump.Json.Reader
import SyntaxDump.Proofs.Json.Members
import SyntaxDump.Proofs.Json.Parts
import SyntaxDump.Proofs.Json.Numeral
import SyntaxDump.Proofs.Json.Scale
import SyntaxDump.Proofs.Result
import SyntaxDump.Proofs.Validity

/-!
# What texts are read as

Whatever a text spells, the numbers of the value that is read from it are integers of 64 bits and
finite floats, and arrays and objects enclose one another no deeper than the reader allows. The
proof goes through the readers one by one; each keeps to a condition if the readers that it is made
of do.

## Main statements

- `Json.readValue_readable`: what is read from the beginning of a text;
- `Json.readable_of_read`: what a whole text is read as.
-/

namespace SyntaxDump.Json

/-! ## Readers that keep to a condition -/

/-- Whatever is read meets a condition. -/
def Ensures {α : Type} (x : Except Fault (α × List Char)) (condition : α → Prop) : Prop :=
  ∀ a rest, x = .ok (a, rest) → condition a

section Ensures

variable {α β : Type} {p : α → Prop} {q : β → Prop}

private theorem Ensures.ok {a : α} {rest : List Char} (h : p a) : Ensures (.ok (a, rest)) p :=
  fun _ _ heq => (Prod.mk.inj (Except.ok.inj heq)).1 ▸ h

private theorem Ensures.fault {fault : Fault} : Ensures (.error fault) p := nofun

private theorem Ensures.bind {x : Except Fault (α × List Char)} (hx : Ensures x p)
    {next : α × List Char → Except Fault (β × List Char)}
    (hnext : ∀ a rest, p a → Ensures (next (a, rest)) q) : Ensures (x >>= next) q := by
  intro b rest h
  obtain ⟨⟨a, rest'⟩, ha, h⟩ := Except.bind_eq_ok_iff.mp h
  exact hnext a rest' (hx a rest' ha) b rest h

end Ensures

/-! ## Numbers -/

/-- A value that is a number within the range. -/
def IsNumber : Json → Prop
  | .int n => (Constant.int n).InRange
  | .float x => (Constant.float x).InRange
  | _ => False

variable {negative : Bool} {significand : Nat} {e : ℤ}

private theorem finishFloat_isNumber (h : significand < 2 ^ 64) (rest : List Char) :
    Ensures (finishFloat negative significand e rest) IsNumber := by
  rw [finishFloat]
  split
  · next x hx => exact .ok (p := IsNumber) (isFinite_of_combine h hx)
  · exact .fault

private theorem finishInteger_isNumber (h : significand < 2 ^ 64) :
    IsNumber (finishInteger negative significand) := by
  rw [finishInteger]
  split_ifs with hpositive hwide
  · exact ⟨by omega, by exact_mod_cast h⟩
  · exact (Binary64.isFinite_neg _).trans (isFinite_ofRatio_significand h)
  · rw [Bool.or_eq_true, decide_eq_true_iff, decide_eq_true_iff, Width.values, Nat.pow_eq] at hwide
    exact ⟨by omega, by omega⟩

private theorem readExponent_isNumber (h : significand < 2 ^ 64) (cs : List Char) :
    Ensures (readExponent negative significand e cs) IsNumber := by
  have hdigits (negativeExponent : Bool) (cs : List Char) :
      Ensures (readExponentDigits negative significand e negativeExponent cs) IsNumber := by
    rw [readExponentDigits]
    dsimp only
    split
    · exact finishFloat_isNumber h _
    · -- an exponent beyond 31 bits makes a fault, or a zero
      split_ifs
      · exact .fault
      · refine .ok (p := IsNumber) ?_
        change (Binary64.zero negative).isFinite
        cases negative <;> decide
  rw [readExponent.eq_def]
  dsimp only
  -- whatever the sign is, digits follow
  repeat' split
  all_goals first | exact .fault | exact hdigits _ _

private theorem readFraction_isNumber (h : significand < 2 ^ 64) (cs : List Char) :
    Ensures (readFraction negative significand e cs) IsNumber := by
  rw [readFraction]
  have hlt := accumulate_lt (Width.values 64) h (spanDigits cs).1
  dsimp only
  split_ifs
  · exact .fault
  · exact .fault
  · split
    · exact readExponent_isNumber hlt _
    · exact readExponent_isNumber hlt _
    · exact finishFloat_isNumber hlt _

/-- A numeral is read as a number within the range. -/
theorem readNumeral_isNumber (negative : Bool) (cs : List Char) :
    Ensures (readNumeral negative cs) IsNumber := by
  rw [readNumeral.eq_def]
  split
  · exact .fault
  · next c more =>
    have hlt := accumulate_lt (Width.values 64) (n := 0) (by decide) (spanDigits (c :: more)).1
    dsimp only
    -- a digit comes first, and no other one after a zero
    split
    · exact .fault
    split
    · exact .fault
    -- what follows decides between a fraction, an exponent and an integer
    split
    · exact readFraction_isNumber hlt _
    · exact readExponent_isNumber hlt _
    · exact readExponent_isNumber hlt _
    · split_ifs
      · exact .ok (finishInteger_isNumber hlt)
      · exact finishFloat_isNumber hlt _

/-! ## Values -/

/-- A value as readers leave it that allow a depth of nesting. -/
structure Readable (limit : Nat) (j : Json) : Prop where
  numbers : ∀ c ∈ j.numbers, c.InRange
  nesting : j.nesting ≤ limit

variable {limit : Nat}

private theorem IsNumber.readable {j : Json} (h : IsNumber j) : Readable limit j := by
  cases j with
  | int n => exact ⟨List.forall_mem_singleton.mpr h, Nat.zero_le _⟩
  | float x => exact ⟨List.forall_mem_singleton.mpr h, Nat.zero_le _⟩
  | _ => exact h.elim

/-- An array of values is one level deeper than they are. -/
private theorem readable_arr {items : List Json} (h : ∀ j ∈ items, Readable limit j) :
    Readable (limit + 1) (.arr items) where
  numbers := by
    rw [Json.numbers, numbersOfItems_eq_flatMap, List.forall_mem_flatMap]
    exact fun j hj => (h j hj).numbers
  nesting := nesting_le_of_parts fun j hj => (h j hj).nesting

private theorem readable_obj {members : List (String × Json)}
    (h : ∀ m ∈ members, Readable limit m.2) : Readable (limit + 1) (.obj members) where
  numbers := by
    rw [Json.numbers, numbersOfMembers_eq_flatMap, List.forall_mem_flatMap, List.forall_mem_map]
    exact fun m hm => (h m hm).numbers
  nesting := nesting_le_of_parts (List.forall_mem_map.mpr fun m hm => (h m hm).nesting)

section Readers

variable {item : Reader Json} (hitem : ∀ cs, Ensures (item cs) (Readable limit))

include hitem

private theorem readMoreItems_readable (rounds : Nat) (cs : List Char) :
    Ensures (readMoreItems item rounds cs) fun items => ∀ j ∈ items, Readable limit j := by
  induction rounds generalizing cs with
  | zero => exact .fault
  | succ rounds ih =>
    rw [readMoreItems]
    split
    · exact .fault
    · exact .ok nofun
    · split
      · exact .fault
      · exact .fault
      · refine (hitem _).bind fun j rest hj => (ih rest).bind fun items rest hitems => .ok ?_
        exact List.forall_mem_cons.mpr ⟨hj, hitems⟩
    · exact .fault

private theorem readItems_readable (cs : List Char) :
    Ensures (readItems item cs) fun items => ∀ j ∈ items, Readable limit j := by
  rw [readItems]
  split
  · exact .fault
  · exact .ok nofun
  · refine (hitem _).bind fun j rest hj =>
      (readMoreItems_readable hitem _ rest).bind fun items rest hitems => .ok ?_
    exact List.forall_mem_cons.mpr ⟨hj, hitems⟩

private theorem readMember_readable (cs : List Char) :
    Ensures (readMember item cs) fun m => Readable limit m.2 := by
  rw [readMember]
  refine Ensures.bind (p := fun _ => True) (fun _ _ _ => trivial) fun key rest _ => ?_
  dsimp only
  split
  · exact .fault
  · exact (hitem _).bind fun j rest hj => .ok hj
  · exact .fault

private theorem readMoreMembers_readable (rounds : Nat) (cs : List Char) :
    Ensures (readMoreMembers item rounds cs) fun members => ∀ m ∈ members, Readable limit m.2 := by
  induction rounds generalizing cs with
  | zero => exact .fault
  | succ rounds ih =>
    rw [readMoreMembers]
    split
    · exact .fault
    · exact .ok nofun
    · split
      · exact .fault
      · refine (readMember_readable hitem _).bind fun m rest hm =>
          (ih rest).bind fun members rest hmembers => .ok ?_
        exact List.forall_mem_cons.mpr ⟨hm, hmembers⟩
      · exact .fault
      · exact .fault
    · exact .fault

private theorem readMembers_readable (cs : List Char) :
    Ensures (readMembers item cs) fun members => ∀ m ∈ members, Readable limit m.2 := by
  rw [readMembers]
  split
  · exact .fault
  · exact .ok nofun
  · refine (readMember_readable hitem _).bind fun m rest hm =>
      (readMoreMembers_readable hitem _ rest).bind fun members rest hmembers => .ok ?_
    exact List.forall_mem_cons.mpr ⟨hm, hmembers⟩
  · exact .fault

end Readers

/-- A word is read as the value that it stands for. -/
private theorem readWord_readable {value : Json} (h : Readable limit value) (word cs : List Char) :
    Ensures (readWord value word cs) (Readable limit) := by
  induction word generalizing cs with
  | nil => exact .ok h
  | cons w word ih =>
    cases cs with
    | nil => exact .fault
    | cons c rest =>
      rw [readWord]
      split
      · exact ih rest
      · exact .fault

/-- A value is read as one that is readable, if what is read of its items and members is. -/
private theorem readWith_readable {nested : Option (Reader Json)}
    (hnested : ∀ item ∈ nested, ∃ below, limit = below + 1 ∧
      ∀ cs, Ensures (item cs) (Readable below)) (cs : List Char) :
    Ensures (readWith nested cs) (Readable limit) := by
  have hscalar {j : Json} (hnumbers : j.numbers = []) (hnesting : j.nesting = 0) :
      Readable limit j := ⟨by simp [hnumbers], by omega⟩
  rw [readWith]
  -- one case for each character that values begin with
  split
  · exact .fault
  · exact readWord_readable (hscalar rfl rfl) _ _
  · exact readWord_readable (hscalar rfl rfl) _ _
  · exact readWord_readable (hscalar rfl rfl) _ _
  · exact Ensures.bind (p := fun _ => True) (fun _ _ _ => trivial) fun s rest _ =>
      .ok (hscalar rfl rfl)
  · exact fun j rest h => (readNumeral_isNumber _ _ j rest h).readable
  · -- an array, unless the limit is reached
    split
    · exact .fault
    · next item =>
      obtain ⟨below, rfl, hitem⟩ := hnested item rfl
      exact (readItems_readable hitem _).bind fun items rest hitems => .ok (readable_arr hitems)
  · -- an object, whose members are put in order
    split
    · exact .fault
    · next item =>
      obtain ⟨below, rfl, hitem⟩ := hnested item rfl
      refine (readMembers_readable hitem _).bind fun members rest hmembers =>
        .ok (readable_obj fun m hm => ?_)
      exact hmembers m (mem_orderedMembers hm)
  · split
    · exact fun j rest h => (readNumeral_isNumber _ _ j rest h).readable
    · exact .fault

/-- The numbers of a value that is read are within the range, and its nesting is within the limit.
The induction is on the limit, as the reader of items and members is the one for the next smaller
limit. -/
theorem readValue_readable (limit : Nat) (cs : List Char) :
    Ensures (readValue limit cs) (Readable limit) := by
  induction limit generalizing cs with
  | zero => exact readWith_readable (fun item h => absurd h (Option.not_mem_none item)) cs
  | succ limit ih =>
    refine readWith_readable (fun item hitem => ⟨limit, rfl, ?_⟩) cs
    exact Option.some.inj hitem ▸ ih

/-- The numbers of a value that a text is read as are integers of 64 bits and finite floats, and it
nests no deeper than the reader allows. -/
theorem readable_of_read {text : String} {j : Json} (h : read limit text = .ok j) :
    Readable limit j := by
  obtain ⟨⟨j', rest⟩, hread, h⟩ := Except.bind_eq_ok_iff.mp h
  dsimp only at h
  split at h
  · exact Except.ok.inj h ▸ readValue_readable limit _ j' rest hread
  · cases h

end SyntaxDump.Json
