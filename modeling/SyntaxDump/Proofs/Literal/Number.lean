import Std.Data.String.ToInt
import SyntaxDump.Literal.Number
import SyntaxDump.Proofs.Decimal.Digits
import SyntaxDump.Proofs.Term.Lexical

/-!
# Number literals are words

Integers and floats consist of digits, signs, points and the letters of exponents and of the names
of the special values.

## Main statements

- `isWord_toString_nat`, `isWord_toString_int`: integers are words;
- `Literal.isWord_float`: so are floats, also those that are no finite numbers.
-/

namespace SyntaxDump

/-- Decimal digits are among the characters of words. -/
theorem isWordChar_of_isDigit {c : Char} (h : c.isDigit) : isWordChar c := by
  simp [isWordChar, Char.isAlphanum, h]

/-! ## Integers -/

/-- A natural number consists of digits. -/
private theorem isDigit_of_mem_toString_nat {n : Nat} {c : Char} (h : c ∈ (toString n).toList) :
    c.isDigit := by
  rw [Nat.toString_eq_repr, Nat.toList_repr] at h
  exact Nat.isDigit_of_mem_toDigits (by decide) (by decide) h

theorem toList_toString_negSucc (n : Nat) :
    (toString (Int.negSucc n)).toList = '-' :: (toString (n + 1)).toList := by
  simp [toString, Int.repr]

/-- An integer consists of digits behind a sign. -/
theorem mem_toString_int {n : Int} {c : Char} (h : c ∈ (toString n).toList) :
    c = '-' ∨ c.isDigit := by
  cases n with
  | ofNat n => exact .inr (isDigit_of_mem_toString_nat h)
  | negSucc n =>
    rw [toList_toString_negSucc, List.mem_cons] at h
    exact h.imp_right isDigit_of_mem_toString_nat

/-- A natural number is a word. -/
theorem isWord_toString_nat (n : Nat) : IsWord (toString n) where
  nonempty := by
    rw [Nat.toString_eq_repr, Nat.toList_repr]
    exact Nat.toDigits_ne_nil
  chars _ hc := isWordChar_of_isDigit (isDigit_of_mem_toString_nat hc)

/-- An integer is a word. -/
theorem isWord_toString_int (n : Int) : IsWord (toString n) where
  nonempty := by
    cases n with
    | ofNat n => exact (isWord_toString_nat n).nonempty
    | negSucc n => rw [toList_toString_negSucc]; nofun
  chars c hc := by
    rcases mem_toString_int hc with rfl | hdigit
    · decide
    · exact isWordChar_of_isDigit hdigit

/-- Different natural numbers are written differently. -/
theorem toString_nat_injective {m n : Nat} (h : toString m = toString n) : m = n :=
  Nat.repr_injective h

/-- Different integers are written differently. -/
theorem toString_int_injective {m n : Int} (h : toString m = toString n) : m = n :=
  Int.repr_injective h

/-! ## Floats -/

namespace Decimal

private theorem forall_mem_replicate_zero (n : Nat) :
    ∀ c ∈ List.replicate n '0', isWordChar c := by
  intro c hc
  rw [List.eq_of_mem_replicate hc]
  rfl

section

variable {cs : List Char} (hcs : ∀ c ∈ cs, isWordChar c)

include hcs

/-- Digits with a point among them, and zeros on either side of them. -/
private theorem forall_mem_positional (pointZero : Bool) (lead : Int) :
    ∀ c ∈ positional pointZero cs lead, isWordChar c := by
  rw [positional]
  split
  · simp only [List.forall_mem_cons, List.forall_mem_append]
    exact ⟨by decide, by decide, forall_mem_replicate_zero _, hcs⟩
  · -- the digits before the point, with zeros where there are too few
    have hhead (whole zeros : Nat) :
        ∀ c ∈ cs.take whole ++ List.replicate zeros '0', isWordChar c :=
      List.forall_mem_append.mpr
        ⟨fun c hc => hcs c (List.mem_of_mem_take hc), forall_mem_replicate_zero _⟩
    simp only []
    split
    · split
      · exact List.forall_mem_append.mpr ⟨hhead _ _, List.all_eq_true.mp rfl⟩
      · exact hhead _ _
    · refine List.forall_mem_append.mpr ⟨hhead _ _, List.forall_mem_cons.mpr ⟨by decide, ?_⟩⟩
      exact fun c hc => hcs c (List.mem_of_mem_drop hc)

/-- Digits with a point after the first one, and an exponent. -/
private theorem forall_mem_scientific (width : Nat) (lead : Int) :
    ∀ c ∈ scientific width cs lead, isWordChar c := by
  have hsign : isWordChar (if lead < 0 then '-' else '+') := by split <;> decide
  have hexponent : ∀ c ∈ padLeft width (digits lead.natAbs), isWordChar c :=
    List.forall_mem_append.mpr ⟨forall_mem_replicate_zero _,
      fun c hc => isWordChar_of_isDigit (isDigit_of_mem_digits c hc)⟩
  rw [scientific.eq_def]
  refine List.forall_mem_append.mpr ⟨?_, ?_⟩
  · -- a single digit has no point after it
    split
    · nofun
    · exact hcs
    · obtain ⟨hfirst, hrest⟩ := List.forall_mem_cons.mp hcs
      exact List.forall_mem_cons.mpr ⟨hfirst, List.forall_mem_cons.mpr ⟨by decide, hrest⟩⟩
  · exact List.forall_mem_cons.mpr ⟨by decide, List.forall_mem_cons.mpr ⟨hsign, hexponent⟩⟩

end

/-- A decimal in any style consists of characters of words. -/
private theorem forall_mem_layout (style : Style) (d : Decimal) :
    ∀ c ∈ d.layout style, isWordChar c := by
  have hdigits : ∀ c ∈ d.significantDigits, isWordChar c := fun c hc =>
    isWordChar_of_isDigit (isDigit_of_mem_significantDigits c hc)
  rw [layout]
  split
  · exact forall_mem_positional hdigits _ _
  · exact forall_mem_scientific hdigits _ _

/-- A number that is written positionally has at least one character before the point. -/
private theorem positional_ne_nil (pointZero : Bool) (cs : List Char) (lead : Int) :
    positional pointZero cs lead ≠ [] := by
  rw [positional]
  split
  · nofun
  · -- at least one digit or zero stands before the point
    have hhead : cs.take (lead.toNat + 1) ++
        List.replicate (lead.toNat + 1 - cs.length) '0' ≠ [] := by
      intro hnil
      have hlength := congrArg List.length hnil
      simp only [List.length_append, List.length_take, List.length_replicate,
        List.length_nil] at hlength
      omega
    simp only []
    split
    · split
      · exact List.append_ne_nil_of_left_ne_nil hhead _
      · exact hhead
    · exact List.append_ne_nil_of_left_ne_nil hhead _

private theorem layout_ne_nil (style : Style) (d : Decimal) : d.layout style ≠ [] := by
  rw [layout]
  split
  · exact positional_ne_nil _ _ _
  · rw [scientific.eq_def]
    exact List.append_ne_nil_of_right_ne_nil _ (List.cons_ne_nil _ _)

end Decimal

/-- A finite number in any style is a word. -/
theorem Binary64.isWord_text (style : Decimal.Style) (x : Binary64) : IsWord (x.text style) := by
  have hsign : ∀ c ∈ (if x.negative then ['-'] else []), isWordChar c := by
    split <;> exact List.all_eq_true.mp rfl
  rw [Binary64.text]
  refine ⟨?_, ?_⟩
  · rw [String.toList_ofList, Binary64.layout]
    split
    · exact List.append_ne_nil_of_right_ne_nil _ (Decimal.positional_ne_nil _ _ _)
    · exact List.append_ne_nil_of_right_ne_nil _ (Decimal.layout_ne_nil _ _)
  · rw [String.toList_ofList, Binary64.layout]
    split
    · exact List.forall_mem_append.mpr
        ⟨hsign, Decimal.forall_mem_positional (List.all_eq_true.mp rfl) _ _⟩
    · exact List.forall_mem_append.mpr ⟨hsign, Decimal.forall_mem_layout _ _⟩

/-- A float is a word. -/
theorem Literal.isWord_float (x : Binary64) : IsWord (Literal.float x) := by
  rw [Literal.float]
  split
  · decide
  split
  · exact Binary64.isWord_text ..
  split <;> decide

end SyntaxDump
