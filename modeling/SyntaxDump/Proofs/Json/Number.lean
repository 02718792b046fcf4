import Mathlib
import SyntaxDump.Json.Reader
import SyntaxDump.Json.Writer
import SyntaxDump.Proofs.Decimal.Shortest
import SyntaxDump.Proofs.Json.Numeral
import SyntaxDump.Proofs.Json.Scale

/-!
# Numbers written and read

An integer is written with all its digits, a float with the fewest digits that identify it. The
reader makes an integer of the digits if it has 64 bits, and a float otherwise; it rounds more than
once, so that the float need not be the one that was written. It is a finite one, however: no number
that is written is out of range for the reader.

## Main statements

- `Json.readsAs_writeInt`: integers of 64 bits are read as themselves;
- `Json.readsAs_writeInt_float`, `Json.readsAs_writeInt_float_or_fault`: wider ones are read as
  finite floats, or not at all where there is none;
- `Json.readsAs_writeFloat`: finite floats are read as finite floats.
-/

namespace SyntaxDump.Json

variable {negative : Bool} {rest : List Char}

/-! ## Numerals among values -/

/-- A text is read as a value, wherever a value may stand and whatever ends it. It does not begin
with a character that ends an array. -/
structure ReadsAs (text : List Char) (j : Json) : Prop where
  head : ∃ c cs, text = c :: cs ∧ isBlank c = false ∧ c ≠ ']'
  read : ∀ nested rest, EndsNumeral rest → readWith nested (text ++ rest) = .ok (j, rest)

/-- No blank is a digit. -/
private theorem isBlank_digit {c : Char} (hc : c.isDigit) : isBlank c = false := by
  refine Bool.eq_false_iff.mpr fun h => ?_
  simp only [isBlank, Bool.or_eq_true, beq_iff_eq] at h
  rcases h with ((rfl | rfl) | rfl) | rfl <;> exact absurd hc (by decide)

/-- Where a value may stand, a numeral with or without a sign is read as such. -/
private theorem readWith_numeral {nested : Option (Reader Json)} (negative : Bool) {c : Char}
    (hc : c.isDigit) (cs : List Char) :
    readWith nested ((if negative then ['-'] else []) ++ c :: cs) =
      readNumeral negative (c :: cs) := by
  cases negative with
  | true => rfl
  | false =>
    change readWith nested (c :: cs) = _
    -- no other value begins with a digit
    rw [readWith, skipBlanks, List.dropWhile_cons, isBlank_digit hc, if_neg Bool.false_ne_true]
    split
    case h_9 heq =>
      obtain ⟨rfl, rfl⟩ := List.cons.inj heq
      rw [if_pos hc]
    case h_1 heq => cases heq
    all_goals
      next heq =>
        obtain ⟨rfl, -⟩ := List.cons.inj heq
        exact absurd hc (by decide)

/-- A numeral is read as a value, with or without a sign. -/
private theorem readsAs_numeral {text : List Char} {j : Json} (negative : Bool)
    (hdigit : ∃ c cs, text = c :: cs ∧ c.isDigit)
    (hread : ∀ rest, EndsNumeral rest → readNumeral negative (text ++ rest) = .ok (j, rest)) :
    ReadsAs ((if negative then ['-'] else []) ++ text) j := by
  obtain ⟨c, cs, rfl, hc⟩ := hdigit
  constructor
  · cases negative with
    | true => exact ⟨'-', _, rfl, rfl, by decide⟩
    | false =>
      refine ⟨c, cs, rfl, isBlank_digit hc, ?_⟩
      rintro rfl
      exact absurd hc (by decide)
  · intro nested rest hrest
    rw [List.append_assoc, List.cons_append, readWith_numeral negative hc]
    exact hread rest hrest

/-! ## Integers -/

/-- The digits of a number are the whole part of a numeral. -/
private theorem isWhole_digits (n : Nat) : IsWhole (Decimal.digits n) where
  nonempty := Decimal.digits_ne_nil n
  digits := Decimal.isDigit_of_mem_digits
  leading := by
    rcases n.eq_zero_or_pos with rfl | hn
    · exact .inl rfl
    · exact .inr (Decimal.head_digits_ne_zero hn)

/-- The text of an integer is a sign and digits. -/
private theorem writeInt_eq (n : ℤ) :
    writeInt n = (if decide (n < 0) then ['-'] else []) ++ Decimal.digits n.natAbs := by
  rw [writeInt]
  by_cases hn : n < 0 <;> simp [hn]

private theorem exists_digits_eq_cons (n : Nat) :
    ∃ c ds, Decimal.digits n = c :: ds ∧ c.isDigit := by
  obtain ⟨c, ds, hds⟩ := List.exists_cons_of_ne_nil (Decimal.digits_ne_nil n)
  exact ⟨c, ds, hds, Decimal.isDigit_of_mem_digits c (hds ▸ List.mem_cons_self)⟩

/-- Where a value may stand, the text of an integer is read as a numeral. -/
private theorem readWith_writeInt (nested : Option (Reader Json)) (n : ℤ) (rest : List Char) :
    readWith nested (writeInt n ++ rest) =
      readNumeral (decide (n < 0)) (Decimal.digits n.natAbs ++ rest) := by
  obtain ⟨c, ds, hds, hc⟩ := exists_digits_eq_cons n.natAbs
  rw [writeInt_eq, hds, List.append_assoc]
  exact readWith_numeral _ hc _

private theorem readsAs_writeInt_of_readNumeral {n : ℤ} {j : Json}
    (hread : ∀ rest, EndsNumeral rest →
      readNumeral (decide (n < 0)) (Decimal.digits n.natAbs ++ rest) = .ok (j, rest)) :
    ReadsAs (writeInt n) j := by
  rw [writeInt_eq]
  exact readsAs_numeral _ (exists_digits_eq_cons n.natAbs) hread

/-- An integer of 64 bits, with a sign or without, is read as itself. -/
theorem readsAs_writeInt {n : ℤ} (hlow : -2 ^ 63 ≤ n) (hhigh : n < 2 ^ 64) :
    ReadsAs (writeInt n) (.int n) := by
  have hfits : Nat.ofDigitChars 10 (Decimal.digits n.natAbs) 0 < Width.values 64 := by
    rw [Decimal.ofDigitChars_digits, Width.values, Nat.pow_eq]
    omega
  have hfinish : finishInteger (decide (n < 0)) n.natAbs = .int n := by
    rw [finishInteger, Width.values, Nat.pow_eq]
    by_cases hn : n < 0
    · have hsmall : ¬ (decide (n.natAbs = 0) || decide (2 ^ 63 < n.natAbs)) := by
        rw [Bool.or_eq_true, decide_eq_true_iff, decide_eq_true_iff]
        omega
      rw [if_neg (by simp [hn]), if_neg hsmall]
      congr 1
      omega
    · simp [hn, abs_of_nonneg (not_lt.mp hn)]
  refine readsAs_writeInt_of_readNumeral fun rest hrest => ?_
  rw [readNumeral_whole _ (isWhole_digits _) hrest, accumulate_eq_of_lt _ hfits,
    Decimal.ofDigitChars_digits]
  exact congrArg (fun j => Except.ok (j, rest)) hfinish

/-- A numeral of an integer beyond that is read as a finite float, unless the float would be too
large, which it is not for integers as wide as documents allow. -/
private theorem readNumeral_wide {n : ℤ} (hwide : ¬ (-2 ^ 63 ≤ n ∧ n < 2 ^ 64)) :
    ∃ float : Option Binary64, (∀ x ∈ float, x.isFinite) ∧
      (n.natAbs < 2 ^ 128 → float.isSome) ∧ ∀ rest, EndsNumeral rest →
        readNumeral (decide (n < 0)) (Decimal.digits n.natAbs ++ rest) =
          match float with
          | some x => .ok (.float x, rest)
          | none => faultAt .numberOutOfRange rest := by
  obtain ⟨read, hread, hvalue⟩ := accumulate_cases (Width.values 64) 0 (Decimal.digits n.natAbs)
  have hlt := accumulate_lt (Width.values 64) (n := 0) (by decide) (Decimal.digits n.natAbs)
  have hle := accumulate_mul_pow_le (Width.values 64) 0 (Decimal.digits n.natAbs)
  rw [Decimal.ofDigitChars_digits] at hle
  have htext (rest : List Char) (hrest : EndsNumeral rest) :=
    readNumeral_whole (decide (n < 0)) (isWhole_digits n.natAbs) hrest
  generalize accumulate (Width.values 64) 0 (Decimal.digits n.natAbs) = taken at *
  obtain ⟨significand, unread⟩ := taken
  dsimp only at *
  cases unread with
  | nil =>
    -- all digits fit, so the integer is a negative one of more than 63 bits
    have hall : significand = n.natAbs := by
      rw [hvalue, ← List.append_nil read, ← hread, Decimal.ofDigitChars_digits]
    have hneg : n < 0 := by
      rw [Width.values, Nat.pow_eq] at hlt
      omega
    have hlarge : Width.values 63 < significand := by
      rw [Width.values, Nat.pow_eq]
      omega
    refine ⟨some (Binary64.ofRatio false significand 1).neg, ?_, fun _ => rfl,
      fun rest hrest => ?_⟩
    · rintro x hx
      obtain rfl := Option.some.inj hx
      rw [Binary64.isFinite_neg]
      exact isFinite_ofRatio_significand hlt
    · rw [htext rest hrest, finishInteger]
      simp [hneg, hlarge]
  | cons c unread =>
    refine ⟨combine (decide (n < 0)) significand (c :: unread).length,
      fun x hx => isFinite_of_combine hlt hx, fun hfits => ?_, fun rest hrest => ?_⟩
    · -- zeros in the place of the other digits make the integer no larger
      have hsafe : (significand : ℚ) * 10 ^ (((c :: unread).length : Nat) : ℤ) ≤
          safeMagnitude := by
        rw [zpow_natCast]
        refine le_trans ?_ (natCast_le_safeMagnitude hfits)
        exact_mod_cast hle
      exact combine_isSome (decide (n < 0)) hlt hsafe
    · rw [htext rest hrest, finishFloat]
      rfl

/-- An integer beyond that, as wide as documents allow, is read as a finite float. -/
theorem readsAs_writeInt_float {n : ℤ} (hwide : ¬ (-2 ^ 63 ≤ n ∧ n < 2 ^ 64))
    (hfits : n.natAbs < 2 ^ 128) :
    ∃ x : Binary64, x.isFinite ∧ ReadsAs (writeInt n) (.float x) := by
  obtain ⟨float, hfinite, hsome, hread⟩ := readNumeral_wide hwide
  obtain ⟨x, rfl⟩ := Option.isSome_iff_exists.mp (hsome hfits)
  exact ⟨x, hfinite x rfl, readsAs_writeInt_of_readNumeral hread⟩

/-- An integer beyond that, however wide, is read as a finite float or not at all. -/
theorem readsAs_writeInt_float_or_fault {n : ℤ} (hwide : ¬ (-2 ^ 63 ≤ n ∧ n < 2 ^ 64)) :
    (∃ x : Binary64, x.isFinite ∧ ReadsAs (writeInt n) (.float x)) ∨
      ∀ nested rest, EndsNumeral rest →
        ∃ fault, readWith nested (writeInt n ++ rest) = .error fault := by
  obtain ⟨float, hfinite, -, hread⟩ := readNumeral_wide hwide
  cases float with
  | some x => exact .inl ⟨x, hfinite x rfl, readsAs_writeInt_of_readNumeral hread⟩
  | none =>
    refine .inr fun nested rest hrest => ⟨⟨.numberOutOfRange, byteCount rest⟩, ?_⟩
    rw [readWith_writeInt, hread rest hrest]
    rfl

/-! ## Floats -/

/-- A positive decimal is written as a numeral, and what is taken of it is not larger. A power of
ten that is positive comes from an exponent. -/
theorem isNumeral_layout {d : Decimal} (hpos : 0 < d.coefficient)
    (hlead : d.leadingPower.natAbs < 2 ^ 31) :
    ∃ (significand : Nat) (e : ℤ), (e ≤ 0 ∨ (significand : ℚ) * 10 ^ e ≤ d.value) ∧
      IsNumeral (d.layout floatStyle) significand e := by
  obtain ⟨hne, hhead⟩ := Decimal.head_significantDigits_ne_zero hpos
  have hdigits := Decimal.isDigit_of_mem_significantDigits (d := d)
  rw [Decimal.layout]
  split_ifs with hpositional
  · -- with a point among the digits the power of ten is not positive
    have hlt : d.leadingPower < 16 := by
      simp only [floatStyle, Bool.and_eq_true, decide_eq_true_eq] at hpositional
      exact hpositional.2
    obtain ⟨significand, e, he, hread⟩ := isNumeral_positional hne hdigits hhead hlt
    exact ⟨significand, e, .inl he, hread⟩
  · have hvalue := d.value_eq
    obtain ⟨c, ds, hcs⟩ := List.exists_cons_of_ne_nil hne
    rw [hcs] at hdigits hvalue ⊢
    obtain ⟨hc, hds⟩ := List.forall_mem_cons.mp hdigits
    refine ⟨_, _, .inr ?_, isNumeral_scientific hc hds hlead⟩
    obtain ⟨read, hread, -⟩ := accumulate_cases (Width.values 64) (digitValue c) ds
    have hle := accumulate_mul_pow_le (Width.values 64) (digitValue c) ds
    have hlength := congrArg List.length hread
    generalize accumulate (Width.values 64) (digitValue c) ds = taken at *
    rw [List.length_append] at hlength
    -- the digits that were not taken are replaced by zeros
    have hpower : d.leadingPower - (ds.length - taken.2.length : Nat) =
        taken.2.length + (d.leadingPower + 1 - (c :: ds).length) := by
      rw [List.length_cons]
      omega
    rw [hpower, hvalue, zpow_add₀ (by norm_num), zpow_natCast, ← mul_assoc, ofDigitChars_cons,
      Nat.mul_zero, Nat.zero_add]
    refine mul_le_mul_of_nonneg_right ?_ (by positivity)
    exact_mod_cast hle

/-- The decimals of the two largest numbers. Rounding a power of ten and a product with it might
make them infinite, but does not. -/
private theorem isNumeral_largest {x : Binary64} (hexponent : x.exponent = 971)
    (hsignificand : 2 ^ 53 - 2 ≤ x.significand) (negative : Bool) :
    ∃ significand e, IsNumeral ((x.shortest .toEven).layout floatStyle) significand e ∧
      (combine negative significand e).isSome := by
  have hlt := x.significand_lt
  -- the distance to the number below is that to the one above, as there is a fraction
  have hfraction : x.fractionField ≠ 0 := by
    intro hzero
    rw [Binary64.significand, hzero, Nat.pow_eq] at hsignificand
    split_ifs at hsignificand <;> omega
  have hneighbourhood : x.neighbourhood =
      ⟨4 * x.significand - 2, 4 * x.significand, 4 * x.significand + 2, x.significand % 2 = 0,
        969⟩ := by
    rw [Binary64.neighbourhood, hexponent, if_neg (fun h => hfraction h.1)]
    rfl
  have hdigits (n : Nat) := isNumeral_scientific (rfl : '1'.isDigit)
    (Decimal.isDigit_of_mem_digits (n := n)) (by norm_num : (308 : ℤ).natAbs < 2 ^ 31)
  -- for each of the two the decimal and what it is read as are computed
  obtain hm | hm : x.significand = 2 ^ 53 - 2 ∨ x.significand = 2 ^ 53 - 1 := by omega
  · have hshortest : x.shortest .toEven = ⟨17976931348623155, 292⟩ := by
      rw [Binary64.shortest, hneighbourhood, hm]
      decide +kernel
    have hlayout : Decimal.layout floatStyle ⟨17976931348623155, 292⟩ =
        Decimal.scientific 1 ('1' :: Decimal.digits 7976931348623155) 308 := by decide +kernel
    rw [hshortest, hlayout]
    exact ⟨_, _, hdigits 7976931348623155, by cases negative <;> decide +kernel⟩
  · have hshortest : x.shortest .toEven = ⟨17976931348623157, 292⟩ := by
      rw [Binary64.shortest, hneighbourhood, hm]
      decide +kernel
    have hlayout : Decimal.layout floatStyle ⟨17976931348623157, 292⟩ =
        Decimal.scientific 1 ('1' :: Decimal.digits 7976931348623157) 308 := by decide +kernel
    rw [hshortest, hlayout]
    exact ⟨_, _, hdigits 7976931348623157, by cases negative <;> decide +kernel⟩

/-- Half a unit above any other number is not beyond the safe magnitudes. -/
private theorem half_unit_above_le_safeMagnitude {x : Binary64} (hfinite : x.isFinite)
    (h : ¬ (x.exponent = 971 ∧ 2 ^ 53 - 2 ≤ x.significand)) :
    ((x.significand : ℚ) + 1 / 2) * 2 ^ x.exponent ≤ safeMagnitude := by
  have hexponent := (Binary64.exponent_bounds hfinite).2
  have hunit : (0 : ℚ) < 2 ^ (970 : ℤ) := by positivity
  rw [safeMagnitude, show (971 : ℤ) = 970 + 1 by norm_num, zpow_add_one₀ two_ne_zero]
  rcases hexponent.lt_or_eq with hlt | heq
  · -- below the greatest exponent any significand will do
    have hsignificand : (x.significand : ℚ) ≤ 2 ^ 53 := by exact_mod_cast x.significand_lt.le
    have hpower : (2 : ℚ) ^ x.exponent ≤ 2 ^ (970 : ℤ) :=
      zpow_le_zpow_right₀ one_le_two (by omega)
    refine (mul_le_mul (add_le_add_left hsignificand _) hpower (by positivity)
      (by positivity)).trans ?_
    generalize (2 : ℚ) ^ (970 : ℤ) = u at *
    linarith
  · have hsignificand : (x.significand : ℚ) ≤ (2 ^ 53 - 3 : Nat) := by
      exact_mod_cast (by omega : x.significand ≤ 2 ^ 53 - 3)
    rw [heq, show (971 : ℤ) = 970 + 1 by norm_num, zpow_add_one₀ two_ne_zero]
    refine mul_le_mul_of_nonneg_right ?_ (by positivity)
    refine (add_le_add_left hsignificand _).trans ?_
    norm_num

/-- A positive number is written as a numeral, and the parts of the numeral have a float. -/
private theorem isNumeral_shortest {x : Binary64} (hfinite : x.isFinite) (hzero : x.isZero = false)
    (negative : Bool) :
    ∃ significand e, IsNumeral ((x.shortest .toEven).layout floatStyle) significand e ∧
      (combine negative significand e).isSome := by
  by_cases hlargest : x.exponent = 971 ∧ 2 ^ 53 - 2 ≤ x.significand
  · exact isNumeral_largest hlargest.1 hlargest.2 negative
  have hpos := Binary64.shortest_pos hfinite hzero .toEven
  have hle := Binary64.value_shortest_le x .toEven
  -- the exponent is that of a float, so it is small
  have hlead : (x.shortest .toEven).leadingPower.natAbs < 2 ^ 31 := by
    have hlow := Binary64.le_exponent_shortest hfinite hzero .toEven
    have hlength := Nat.length_toDigits_pos (b := 10) (n := (x.shortest .toEven).coefficient)
    have hlt : (10 : ℚ) ^ (x.shortest .toEven).leadingPower < 10 ^ (309 : ℤ) :=
      (Decimal.ten_zpow_leadingPower_le hpos).trans_lt
        ((Binary64.value_shortest_le_overflow hfinite .toEven).trans_lt overflow_lt_ten_pow)
    have hhigh := (zpow_lt_zpow_iff_right₀ (by norm_num)).mp hlt
    rw [Decimal.leadingPower, Decimal.digits] at hhigh ⊢
    omega
  obtain ⟨significand, e, hbound, hread⟩ := isNumeral_layout hpos hlead
  refine ⟨significand, e, hread, ?_⟩
  rcases hbound with he | hvalue
  · exact combine_isSome_of_nonpos negative hread.fits he
  · exact combine_isSome negative hread.fits
      (hvalue.trans (hle.trans (half_unit_above_le_safeMagnitude hfinite hlargest)))

/-- A finite float is read as a finite one. -/
theorem readsAs_writeFloat {x : Binary64} (h : x.isFinite) :
    ∃ y : Binary64, y.isFinite ∧ ReadsAs (writeFloat x) (.float y) := by
  have hread {text : List Char} {significand : Nat} {e : ℤ} (htext : IsNumeral text significand e)
      (hcombine : (combine x.negative significand e).isSome) :
      ∃ y : Binary64, y.isFinite ∧
        ReadsAs ((if x.negative then ['-'] else []) ++ text) (.float y) := by
    obtain ⟨y, hy⟩ := Option.isSome_iff_exists.mp hcombine
    refine ⟨y, isFinite_of_combine htext.fits hy,
      readsAs_numeral x.negative htext.digit fun rest hrest => ?_⟩
    rw [htext.read _ rest hrest, finishFloat, hy]
  rw [writeFloat, if_pos h, Binary64.layout]
  cases hzero : x.isZero with
  | true =>
    have hdigit : ∀ c ∈ ['0'], c.isDigit := List.forall_mem_singleton.mpr rfl
    obtain ⟨significand, e, he, htext⟩ := isNumeral_point
      ⟨List.cons_ne_nil _ _, hdigit, .inl rfl⟩ (by decide) (List.cons_ne_nil _ _) hdigit
    exact hread htext (combine_isSome_of_nonpos x.negative htext.fits he)
  | false =>
    obtain ⟨significand, e, htext, hcombine⟩ := isNumeral_shortest h hzero x.negative
    exact hread htext hcombine

end SyntaxDump.Json
