import Mathlib
import SyntaxDump.Binary64.Rounding

/-!
# Bounds of rounding

A fraction is rounded to the nearest number of 64 bits. What lies below the overflow, half a unit
beyond the largest finite number, becomes finite, and from one on the relative error is at most half
the last bit of the significand. Products and quotients are rounded fractions, so the same bounds
tell when they are finite.

## Main statements

- `Binary64.isFinite_ofRatio`, `Binary64.magnitude_ofRatio_bounds`: rounding a fraction;
- `Binary64.isFinite_mul`, `Binary64.isFinite_div`: when products and quotients are finite.
-/

namespace SyntaxDump.Binary64

/-- The magnitude of the number that a finite number denotes. -/
def magnitude (x : Binary64) : ℚ := x.significand * 2 ^ x.exponent

/-- What is rounded to infinity begins half a unit beyond the largest finite number. -/
def overflow : ℚ := (2 ^ 53 - 1 / 2) * 2 ^ (971 : ℤ)

/-! ## The parts of a number -/

private theorem magnitudeBits_ofMagnitudeBits (negative : Bool) {m : Nat} (h : m < 2 ^ 63) :
    (ofMagnitudeBits negative m).magnitudeBits = m := by
  simp only [magnitudeBits, ofMagnitudeBits, Nat.pow_eq]
  cases negative <;> simp <;> omega

theorem isFinite_iff {x : Binary64} : x.isFinite = true ↔ x.magnitudeBits < 2047 * 2 ^ 52 := by
  rw [isFinite, decide_eq_true_iff, exponentField, Nat.pow_eq]
  omega

/-- The significand of a number that is not zero. -/
theorem significand_pos {x : Binary64} (h : x.isZero = false) : 0 < x.significand := by
  have hbits : x.magnitudeBits ≠ 0 := by simpa [isZero] using h
  rw [significand, exponentField, fractionField, Nat.pow_eq]
  split_ifs <;> omega

/-- A significand has no more than 53 bits. -/
theorem significand_lt (x : Binary64) : x.significand < 2 ^ 53 := by
  have hfraction : x.fractionField < 2 ^ 52 := Nat.mod_lt _ (Nat.two_pow_pos 52)
  rw [significand, Nat.pow_eq]
  split_ifs <;> omega

/-- The range of the exponents of finite numbers. -/
theorem exponent_bounds {x : Binary64} (h : x.isFinite) :
    -1074 ≤ x.exponent ∧ x.exponent ≤ 971 := by
  have hfield : x.exponentField < 2047 := of_decide_eq_true h
  rw [exponent]
  omega

/-! ## Division of natural numbers -/

/-- A quotient is rounded down or up, depending on which side of the middle the remainder is. -/
private theorem divideToEven_cases (num den : Nat) :
    (divideToEven num den = num / den ∧ 2 * (num % den) ≤ den) ∨
      (divideToEven num den = num / den + 1 ∧ den ≤ 2 * (num % den)) := by
  rw [divideToEven]
  split_ifs with hbelow habove
  · exact .inl ⟨rfl, hbelow.le⟩
  · exact .inr ⟨rfl, habove.le⟩
  · -- in the middle the parity of the quotient decides
    rcases Nat.mod_two_eq_zero_or_one (num / den) with hparity | hparity
    · exact .inl ⟨by rw [hparity, Nat.add_zero], by omega⟩
    · exact .inr ⟨by rw [hparity], by omega⟩

/-- The rounded quotient is at most half a unit away from the quotient. -/
theorem abs_divideToEven_sub_le (num : Nat) {den : Nat} (h : 0 < den) :
    |(divideToEven num den : ℚ) - num / den| ≤ 1 / 2 := by
  have hden : (0 : ℚ) < den := by exact_mod_cast h
  -- the quotient is the integer below it and a proper fraction
  have hlt : ((num % den : Nat) : ℚ) < den := by exact_mod_cast Nat.mod_lt num h
  have hquotient : (num : ℚ) / den = (num / den : Nat) + (num % den : Nat) / (den : ℚ) := by
    rw [div_eq_iff hden.ne', add_mul, div_mul_cancel₀ _ hden.ne']
    exact_mod_cast (Nat.div_add_mod' num den).symm
  have hfraction : ((num % den : Nat) : ℚ) / den * den = (num % den : Nat) :=
    div_mul_cancel₀ _ hden.ne'
  have hnonneg : (0 : ℚ) ≤ ((num % den : Nat) : ℚ) / den := by positivity
  rw [hquotient, abs_le]
  rcases divideToEven_cases num den with ⟨heq, hside⟩ | ⟨heq, hside⟩
  · have hside' : 2 * ((num % den : Nat) : ℚ) ≤ den := by exact_mod_cast hside
    have hhalf : ((num % den : Nat) : ℚ) / den ≤ 1 / 2 := by
      rw [div_le_div_iff₀ hden two_pos]
      linarith
    rw [heq]
    constructor <;> linarith
  · have hside' : (den : ℚ) ≤ 2 * ((num % den : Nat) : ℚ) := by exact_mod_cast hside
    have hhalf : 1 / 2 ≤ ((num % den : Nat) : ℚ) / den := by
      rw [div_le_div_iff₀ two_pos hden]
      linarith
    have hone : ((num % den : Nat) : ℚ) / den < 1 := (div_lt_one hden).mpr hlt
    rw [heq, Nat.cast_add_one]
    constructor <;> linarith

/-! ## The scale of a fraction -/

/-- A power of two with an integer exponent, as the quotient of two with natural exponents. -/
private theorem zpow_sub_natCast (m n : Nat) : (2 : ℚ) ^ ((m : ℤ) - n) = 2 ^ m / 2 ^ n := by
  rw [zpow_sub₀ two_ne_zero, zpow_natCast, zpow_natCast]

/-- The binary logarithms of numerator and denominator bound a fraction. -/
private theorem log2_bounds {num den : Nat} (hnum : 0 < num) (hden : 0 < den) :
    (2 : ℚ) ^ ((Nat.log2 num : ℤ) - Nat.log2 den - 1) < num / den ∧
      (num : ℚ) / den < 2 ^ ((Nat.log2 num : ℤ) - Nat.log2 den + 1) := by
  have hdenpos : (0 : ℚ) < den := by exact_mod_cast hden
  have hnumlow : ((2 : ℚ) ^ Nat.log2 num) ≤ num := by exact_mod_cast Nat.log2_self_le hnum.ne'
  have hnumhigh : (num : ℚ) < 2 ^ (Nat.log2 num + 1) := by exact_mod_cast Nat.lt_log2_self
  have hdenlow : ((2 : ℚ) ^ Nat.log2 den) ≤ den := by exact_mod_cast Nat.log2_self_le hden.ne'
  have hdenhigh : (den : ℚ) < 2 ^ (Nat.log2 den + 1) := by exact_mod_cast Nat.lt_log2_self
  constructor
  · have hexp : (Nat.log2 num : ℤ) - Nat.log2 den - 1 =
        (Nat.log2 num : ℤ) - (Nat.log2 den + 1 : Nat) := by
      push_cast; ring
    rw [hexp, zpow_sub_natCast]
    exact div_lt_div₀' hnumlow hdenhigh (by exact_mod_cast hnum) hdenpos
  · have hexp : (Nat.log2 num : ℤ) - Nat.log2 den + 1 =
        ((Nat.log2 num + 1 : Nat) : ℤ) - Nat.log2 den := by
      push_cast; ring
    rw [hexp, zpow_sub_natCast]
    exact div_lt_div₀ hnumhigh hdenlow (by positivity) (by positivity)

/-- A comparison of a fraction with a power of two, made between natural numbers. -/
private theorem fits_iff (num : Nat) {den : Nat} (hden : 0 < den) (e : ℤ) :
    (if 0 ≤ e then num < den * Nat.pow 2 e.toNat else num * Nat.pow 2 (-e).toNat < den) ↔
      (num : ℚ) / den < 2 ^ e := by
  have hdenpos : (0 : ℚ) < den := by exact_mod_cast hden
  rw [div_lt_iff₀ hdenpos]
  split_ifs with he
  · obtain ⟨n, rfl⟩ := Int.eq_ofNat_of_zero_le he
    rw [zpow_natCast, mul_comm]
    exact_mod_cast Iff.rfl
  · obtain ⟨n, rfl⟩ : ∃ n : Nat, e = -n := ⟨(-e).toNat, by omega⟩
    rw [zpow_neg, zpow_natCast, inv_mul_eq_div, lt_div_iff₀ (by positivity)]
    simp only [neg_neg, Int.toNat_natCast]
    exact_mod_cast Iff.rfl

/-- The scale of a fraction, by the comparison with the power of two that is nearest to the quotient
of the leading bits. -/
private theorem scaleOf_eq {num den : Nat} (hden : 0 < den) :
    scaleOf num den =
      max (if (num : ℚ) / den < 2 ^ ((Nat.log2 num : ℤ) - Nat.log2 den)
        then (Nat.log2 num : ℤ) - Nat.log2 den - 53 else (Nat.log2 num : ℤ) - Nat.log2 den - 52)
        (-1074) := by
  have hfits := fits_iff num hden ((Nat.log2 num : ℤ) - Nat.log2 den)
  rw [scaleOf]
  simp only [sub_add_cancel]
  generalize (Nat.log2 num : ℤ) - Nat.log2 den = d at *
  by_cases hfit : (num : ℚ) / den < 2 ^ d
  · have h := hfits.mpr hfit
    rw [if_pos hfit]
    split_ifs at h ⊢ <;> simp_all
  · have h := hfits.not.mpr hfit
    rw [if_neg hfit]
    split_ifs at h ⊢ <;> simp_all <;> omega

/-- At its scale a fraction has no more than 53 bits before the point, and exactly 53 unless the
scale is the least. -/
theorem scaleOf_bounds {num den : Nat} (hnum : 0 < num) (hden : 0 < den) :
    -1074 ≤ scaleOf num den ∧ (num : ℚ) / den < 2 ^ (scaleOf num den + 53) ∧
      (scaleOf num den = -1074 ∨ (2 : ℚ) ^ (scaleOf num den + 52) ≤ num / den) := by
  obtain ⟨hlow, hhigh⟩ := log2_bounds hnum hden
  rw [scaleOf_eq hden]
  generalize (num : ℚ) / den = r at *
  generalize (Nat.log2 num : ℤ) - Nat.log2 den = d at *
  -- the scale before it is kept above the least one
  obtain ⟨s, hscale, hbelow, habove⟩ :
      ∃ s, (if r < 2 ^ d then d - 53 else d - 52) = s ∧ r < 2 ^ (s + 53) ∧
        (2 : ℚ) ^ (s + 52) ≤ r := by
    by_cases hfit : r < 2 ^ d
    · refine ⟨d - 53, if_pos hfit, by rwa [sub_add_cancel], ?_⟩
      rw [show d - 53 + 52 = d - 1 by ring]
      exact hlow.le
    · refine ⟨d - 52, if_neg hfit, ?_, ?_⟩
      · rw [show d - 52 + 53 = d + 1 by ring]
        exact hhigh
      · rw [sub_add_cancel]
        exact not_lt.mp hfit
  rw [hscale]
  rcases le_total (-1074) s with hs | hs
  · rw [max_eq_left hs]
    exact ⟨hs, hbelow, .inr habove⟩
  · rw [max_eq_right hs]
    refine ⟨le_refl _, hbelow.trans_le ?_, .inl rfl⟩
    exact zpow_le_zpow_right₀ one_le_two (by linarith)

/-! ## The nearest number -/

/-- A number of `q` units, where the unit is one of the finite numbers and the number is made of its
significand and the place of the unit among them. -/
private theorem magnitude_ofMagnitudeBits {negative : Bool} {q n : Nat} (hq : q ≤ 2 ^ 53)
    (hn : n = 0 ∨ 2 ^ 52 ≤ q) (hfinite : q + n * 2 ^ 52 < 2047 * 2 ^ 52) :
    (ofMagnitudeBits negative (q + n * 2 ^ 52)).magnitude = q * 2 ^ ((n : ℤ) - 1074) := by
  have hbits := magnitudeBits_ofMagnitudeBits negative
    (hfinite.trans (by norm_num : 2047 * 2 ^ 52 < 2 ^ 63))
  rw [magnitude, significand, exponent, fractionField, exponentField, hbits, Nat.pow_eq]
  rcases lt_or_ge q (2 ^ 52) with hsmall | hlarge
  · -- below the least exponent the significand has no leading one
    obtain rfl : n = 0 := hn.resolve_right hsmall.not_ge
    rw [zero_mul, add_zero, Nat.div_eq_of_lt hsmall, Nat.mod_eq_of_lt hsmall]
    norm_num
  rcases hq.lt_or_eq with hq | rfl
  · have hfield : (q + n * 2 ^ 52) / 2 ^ 52 = n + 1 := by omega
    have hfraction : 2 ^ 52 + (q + n * 2 ^ 52) % 2 ^ 52 = q := by omega
    rw [hfield, if_neg (by omega), hfraction, max_eq_left (by omega)]
    push_cast
    rw [show (n : ℤ) + 1 - 1075 = n - 1074 by ring]
  · -- a significand that was rounded up to the next power of two
    have hfield : (2 ^ 53 + n * 2 ^ 52) / 2 ^ 52 = n + 2 := by omega
    have hfraction : (2 ^ 53 + n * 2 ^ 52) % 2 ^ 52 = 0 := by omega
    rw [hfield, if_neg (by omega), hfraction, max_eq_left (by omega)]
    push_cast
    rw [show (n : ℤ) + 2 - 1075 = n - 1074 + 1 by ring, zpow_add_one₀ two_ne_zero]
    ring

/-- A fraction divided by a power of two, rounded. -/
private theorem abs_rounded_sub_le (num : Nat) {den : Nat} (hden : 0 < den) (e : ℤ) :
    |((if 0 ≤ e then divideToEven num (den * 2 ^ e.toNat)
        else divideToEven (num * 2 ^ (-e).toNat) den : Nat) : ℚ) - num / den / 2 ^ e| ≤ 1 / 2 := by
  split_ifs with he
  · obtain ⟨n, rfl⟩ := Int.eq_ofNat_of_zero_le he
    have hdivide := abs_divideToEven_sub_le num (Nat.mul_pos hden (Nat.two_pow_pos n))
    rw [Nat.cast_mul, Nat.cast_pow, ← div_div] at hdivide
    rw [zpow_natCast]
    exact hdivide
  · obtain ⟨n, rfl⟩ : ∃ n : Nat, e = -n := ⟨(-e).toNat, by omega⟩
    have hdivide := abs_divideToEven_sub_le (num * 2 ^ n) hden
    rw [Nat.cast_mul, Nat.cast_pow, mul_div_right_comm] at hdivide
    rw [neg_neg, Int.toNat_natCast, zpow_neg, zpow_natCast, div_inv_eq_mul]
    exact hdivide

/-- What rounding makes of a positive fraction `r`: a whole number `q` of units, where the unit is
the `n`-th among those of the format. -/
private structure Rounded (r : ℚ) (q n : Nat) : Prop where
  near : |(q : ℚ) - r / 2 ^ ((n : ℤ) - 1074)| ≤ 1 / 2
  below : r < 2 ^ 53 * 2 ^ ((n : ℤ) - 1074)
  above : n = 0 ∨ 2 ^ 52 * 2 ^ ((n : ℤ) - 1074) ≤ r

/-- The number nearest to a fraction, unless it is too large. -/
private theorem ofRatio_eq (negative : Bool) {num den : Nat} (hnum : 0 < num) (hden : 0 < den) :
    ∃ q n : Nat, Rounded (num / den) q n ∧
      ofRatio negative num den = if 2047 * 2 ^ 52 ≤ q + n * 2 ^ 52 then infinity negative
        else ofMagnitudeBits negative (q + n * 2 ^ 52) := by
  obtain ⟨hleast, hbelow, habove⟩ := scaleOf_bounds hnum hden
  obtain ⟨n, hn⟩ : ∃ n : Nat, scaleOf num den = (n : ℤ) - 1074 :=
    ⟨(scaleOf num den + 1074).toNat, by omega⟩
  rw [ofRatio, if_neg hnum.ne']
  simp only [Nat.pow_eq]
  rw [hn] at hbelow habove ⊢
  refine ⟨_, n, ⟨abs_rounded_sub_le num hden _, ?_, ?_⟩, by rw [sub_add_cancel, Int.toNat_natCast]⟩
  · rwa [add_comm, zpow_add₀ two_ne_zero] at hbelow
  · refine habove.imp (by omega) fun h => ?_
    rwa [add_comm, zpow_add₀ two_ne_zero] at h

namespace Rounded

variable {r : ℚ} {q n : Nat} (h : Rounded r q n)

include h

/-- A rounded fraction is at most half a unit away from the fraction. -/
private theorem abs_sub_le :
    |q * 2 ^ ((n : ℤ) - 1074) - r| ≤ 1 / 2 * (2 : ℚ) ^ ((n : ℤ) - 1074) := by
  have hunit : (0 : ℚ) < 2 ^ ((n : ℤ) - 1074) := by positivity
  calc |q * 2 ^ ((n : ℤ) - 1074) - r|
      = |(q : ℚ) - r / 2 ^ ((n : ℤ) - 1074)| * 2 ^ ((n : ℤ) - 1074) := by
        rw [← abs_of_pos hunit, ← abs_mul, abs_of_pos hunit, sub_mul, div_mul_cancel₀ _ hunit.ne']
    _ ≤ 1 / 2 * 2 ^ ((n : ℤ) - 1074) := mul_le_mul_of_nonneg_right h.near hunit.le

/-- Rounding does not make the significand longer than a power of two. -/
private theorem le_two_pow : q ≤ 2 ^ 53 := by
  have hunit : (0 : ℚ) < 2 ^ ((n : ℤ) - 1074) := by positivity
  have hbelow : r / 2 ^ ((n : ℤ) - 1074) < 2 ^ 53 := (div_lt_iff₀ hunit).mpr h.below
  have hnear := (abs_le.mp h.near).2
  have hlt : (q : ℚ) < (2 ^ 53 + 1 : Nat) := by
    push_cast
    linarith
  exact Nat.lt_succ_iff.mp (by exact_mod_cast hlt)

/-- Rounding does not make the significand shorter. -/
private theorem two_pow_le : n = 0 ∨ 2 ^ 52 ≤ q := by
  have hunit : (0 : ℚ) < 2 ^ ((n : ℤ) - 1074) := by positivity
  refine h.above.imp_right fun habove => ?_
  have habove : 2 ^ 52 ≤ r / 2 ^ ((n : ℤ) - 1074) := (le_div_iff₀ hunit).mpr habove
  have hnear := (abs_le.mp h.near).1
  have hlt : ((2 ^ 52 : Nat) : ℚ) < q + 1 := by
    push_cast
    linarith
  exact Nat.lt_succ_iff.mp (by exact_mod_cast hlt)

/-- What lies below the overflow is rounded to a finite number. -/
private theorem lt_of_lt_overflow (hr : r < overflow) : q + n * 2 ^ 52 < 2047 * 2 ^ 52 := by
  have hq := h.le_two_pow
  rcases h.above with rfl | habove
  · omega
  -- the unit is not greater than that of the largest finite numbers
  have hn : n ≤ 2045 := by
    by_contra hlarge
    have hunit : (2 : ℚ) ^ ((971 : ℤ) + 1) ≤ 2 ^ ((n : ℤ) - 1074) :=
      zpow_le_zpow_right₀ one_le_two (by omega)
    have hpos : (0 : ℚ) < 2 ^ (971 : ℤ) := by positivity
    rw [zpow_add_one₀ two_ne_zero] at hunit
    rw [overflow] at hr
    generalize (2 : ℚ) ^ (971 : ℤ) = u at *
    linarith
  rcases hn.lt_or_eq with hn | rfl
  · omega
  · -- with that unit the fraction is less than half a unit beyond the largest finite number
    have hunit : (0 : ℚ) < 2 ^ (((2045 : Nat) : ℤ) - 1074) := by positivity
    have hr' : r / 2 ^ (((2045 : Nat) : ℤ) - 1074) < 2 ^ 53 - 1 / 2 := by
      rw [div_lt_iff₀ hunit]
      exact hr
    have hnear := (abs_le.mp h.near).2
    have hlt : (q : ℚ) < (2 ^ 53 : Nat) := by
      push_cast
      linarith
    have hlt : q < 2 ^ 53 := by exact_mod_cast hlt
    omega

end Rounded

/-- A fraction below the overflow is rounded to a finite number. -/
theorem isFinite_ofRatio (negative : Bool) {num den : Nat} (hden : 0 < den)
    (h : (num : ℚ) / den < overflow) : (ofRatio negative num den).isFinite := by
  rcases num.eq_zero_or_pos with rfl | hnum
  · rw [ofRatio, if_pos rfl]
    cases negative <;> rfl
  obtain ⟨q, n, hrounded, heq⟩ := ofRatio_eq negative hnum hden
  have hlt := hrounded.lt_of_lt_overflow h
  rw [heq, if_neg hlt.not_ge, isFinite_iff, magnitudeBits_ofMagnitudeBits negative (by omega)]
  exact hlt

/-- A fraction that is not less than one is rounded with a relative error of at most half the last
bit of the significand. -/
theorem magnitude_ofRatio_bounds (negative : Bool) (num : Nat) {den : Nat} (hden : 0 < den)
    (hone : 1 ≤ (num : ℚ) / den) (h : (num : ℚ) / den < overflow) :
    (num : ℚ) / den * (1 - (1 / 2) ^ 53) ≤ (ofRatio negative num den).magnitude ∧
      (ofRatio negative num den).magnitude ≤ (num : ℚ) / den * (1 + (1 / 2) ^ 53) := by
  have hnum : 0 < num := by
    rcases num.eq_zero_or_pos with rfl | hnum
    · norm_num at hone
    · exact hnum
  obtain ⟨q, n, hrounded, heq⟩ := ofRatio_eq negative hnum hden
  have hlt := hrounded.lt_of_lt_overflow h
  rw [heq, if_neg hlt.not_ge,
    magnitude_ofMagnitudeBits hrounded.le_two_pow hrounded.two_pow_le hlt]
  have habs := abs_le.mp hrounded.abs_sub_le
  -- the unit is small against the fraction, also when it is the least
  have hunit : 2 ^ 52 * (2 : ℚ) ^ ((n : ℤ) - 1074) ≤ num / den := by
    rcases hrounded.above with rfl | habove
    · have hleast : (2 : ℚ) ^ (((0 : Nat) : ℤ) - 1074) ≤ 2 ^ (-52 : ℤ) :=
        zpow_le_zpow_right₀ one_le_two (by norm_num)
      calc 2 ^ 52 * (2 : ℚ) ^ (((0 : Nat) : ℤ) - 1074)
          ≤ 2 ^ 52 * 2 ^ (-52 : ℤ) := mul_le_mul_of_nonneg_left hleast (by positivity)
        _ = 1 := by norm_num
        _ ≤ num / den := hone
    · exact habove
  have hhalf : 1 / 2 * (2 : ℚ) ^ ((n : ℤ) - 1074) ≤ num / den * (1 / 2) ^ 53 := by
    rw [one_div_pow, mul_one_div, le_div_iff₀ (by positivity)]
    linarith
  constructor <;> linarith

/-! ## Arithmetic -/

/-- The sign does not matter for being finite. -/
theorem isFinite_neg (x : Binary64) : x.neg.isFinite = x.isFinite := by
  have hlt : x.magnitudeBits < 2 ^ 63 := Nat.mod_lt _ (Nat.two_pow_pos 63)
  rw [isFinite, isFinite, exponentField, exponentField, neg, magnitudeBits_ofMagnitudeBits _ hlt]

/-- The magnitude of a finite number lies below the overflow. -/
theorem magnitude_lt_overflow {x : Binary64} (h : x.isFinite) : x.magnitude < overflow := by
  have hsignificand : x.significand ≤ 2 ^ 53 - 1 := Nat.le_sub_one_of_lt x.significand_lt
  calc x.magnitude = x.significand * 2 ^ x.exponent := rfl
    _ ≤ (2 ^ 53 - 1 : Nat) * 2 ^ (971 : ℤ) := by
      refine mul_le_mul (by exact_mod_cast hsignificand) ?_ (by positivity) (by positivity)
      exact zpow_le_zpow_right₀ one_le_two (exponent_bounds h).2
    _ < overflow := by
      rw [overflow]
      exact mul_lt_mul_of_pos_right (by norm_num) (by positivity)

/-- A fraction times a power of two, rounded. -/
private theorem isFinite_ofRatio_zpow (negative : Bool) {m d : Nat} (hd : 0 < d) (e : ℤ)
    (h : (m : ℚ) / d * 2 ^ e < overflow) :
    (if 0 ≤ e then ofRatio negative (m * 2 ^ e.toNat) d
      else ofRatio negative m (d * 2 ^ (-e).toNat)).isFinite := by
  split_ifs with he
  · obtain ⟨n, rfl⟩ := Int.eq_ofNat_of_zero_le he
    refine isFinite_ofRatio negative hd ?_
    rwa [Nat.cast_mul, Nat.cast_pow, mul_div_right_comm]
  · obtain ⟨n, rfl⟩ : ∃ n : Nat, e = -n := ⟨(-e).toNat, by omega⟩
    refine isFinite_ofRatio negative (by positivity) ?_
    rw [neg_neg, Int.toNat_natCast, Nat.cast_mul, Nat.cast_pow, ← div_div]
    rwa [zpow_neg, zpow_natCast, ← div_eq_mul_inv] at h

/-- A product below the overflow is finite. -/
theorem isFinite_mul {x y : Binary64} (h : x.magnitude * y.magnitude < overflow) :
    (x.mul y).isFinite := by
  have hproduct := isFinite_ofRatio_zpow (x.negative != y.negative)
    (m := x.significand * y.significand)
    one_pos (x.exponent + y.exponent) ?_
  · rw [one_mul] at hproduct
    exact hproduct
  · rw [Nat.cast_one, div_one, zpow_add₀ two_ne_zero, Nat.cast_mul]
    rw [magnitude, magnitude] at h
    linarith

/-- The quotient of a finite number by one that is not less than one is finite. -/
theorem isFinite_div {x y : Binary64} (hx : x.isFinite) (hy : 1 ≤ y.magnitude) :
    (x.div y).isFinite := by
  have hpos : 0 < y.significand := by
    rcases y.significand.eq_zero_or_pos with hzero | hpos
    · rw [magnitude, hzero] at hy
      norm_num at hy
    · exact hpos
  refine isFinite_ofRatio_zpow (x.negative != y.negative) (m := x.significand) hpos
    (x.exponent - y.exponent) ?_
  calc (x.significand : ℚ) / y.significand * 2 ^ (x.exponent - y.exponent)
      = x.magnitude / y.magnitude := by
        rw [zpow_sub₀ two_ne_zero, magnitude, magnitude, mul_div_mul_comm]
    _ ≤ x.magnitude := div_le_self (by rw [magnitude]; positivity) hy
    _ < overflow := magnitude_lt_overflow hx

end SyntaxDump.Binary64
