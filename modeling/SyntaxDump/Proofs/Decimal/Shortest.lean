import Mathlib
import SyntaxDump.Decimal.Shortest
import SyntaxDump.Proofs.Binary64.Rounding
import SyntaxDump.Proofs.Decimal.Digits

/-!
# Bounds of shortest decimals

The decimal that a finite positive number is written with lies in the interval of the reals that
round to the number. For the reader of numerals three consequences matter: the decimal is positive,
it is not greater than the end of the interval, and its exponent is small.

## Main statements

- `Decimal.value_eq`, `Decimal.ten_zpow_leadingPower_le`: the number that a decimal denotes, from
  its digits;
- `Binary64.shortest_pos`: the decimal is not zero;
- `Binary64.value_shortest_le`: it is at most half a unit above the number;
- `Binary64.le_exponent_shortest`: the least of its exponents.
-/

namespace SyntaxDump

namespace Decimal

/-! ## The number that a decimal denotes -/

/-- The number that a decimal denotes. -/
def value (d : Decimal) : ℚ := d.coefficient * 10 ^ d.exponent

variable {d : Decimal}

/-- The significant digits with the last one in its place. -/
theorem value_eq (d : Decimal) :
    d.value = Nat.ofDigitChars 10 d.significantDigits 0 *
      10 ^ (d.leadingPower + 1 - d.significantDigits.length) := by
  obtain ⟨zeros, happend⟩ := d.digits_eq_append
  have hcoefficient : d.coefficient = 10 ^ zeros * Nat.ofDigitChars 10 d.significantDigits 0 := by
    rw [← ofDigitChars_digits d.coefficient, happend, Nat.ofDigitChars_append,
      Nat.ofDigitChars_replicate_zero]
  have hlength : (digits d.coefficient).length = d.significantDigits.length + zeros := by
    rw [happend, List.length_append, List.length_replicate]
  have hpower : d.leadingPower + 1 - d.significantDigits.length = zeros + d.exponent := by
    rw [leadingPower, hlength]
    push_cast
    ring
  rw [value, hpower, zpow_add₀ (by norm_num), zpow_natCast, hcoefficient]
  push_cast
  ring

/-- The place of the first digit against the whole decimal. -/
theorem ten_zpow_leadingPower_le (h : 0 < d.coefficient) : (10 : ℚ) ^ d.leadingPower ≤ d.value := by
  have hlength : 0 < (digits d.coefficient).length := Nat.length_toDigits_pos
  have hpower : d.leadingPower = ((digits d.coefficient).length - 1 : Nat) + d.exponent := by
    rw [leadingPower]
    omega
  rw [hpower, zpow_add₀ (by norm_num), zpow_natCast, value]
  refine mul_le_mul_of_nonneg_right ?_ (by positivity)
  exact_mod_cast pow_length_digits_le h

end Decimal

namespace Binary64

namespace Neighbourhood

/-! ## The search -/

/-- What is found is a multiple that rounds to the number. -/
private theorem contains_of_nearest? {n : Neighbourhood} {tie : Decimal.Tie} {k : ℤ} {d : Nat}
    (h : n.nearest? tie k = some d) : n.contains k d := by
  rw [nearest?] at h
  dsimp only at h
  generalize hbelow : n.contains k (n.centre * (n.fraction k).1 / (n.fraction k).2) = below at h
  generalize habove : n.contains k (n.centre * (n.fraction k).1 / (n.fraction k).2 + 1) = above at h
  generalize n.centre * (n.fraction k).1 / (n.fraction k).2 = q at *
  -- the multiples next to the number are the quotient and the one above
  cases below <;> cases above
  · cases h
  · exact Option.some.inj h ▸ habove
  · exact Option.some.inj h ▸ hbelow
  · -- both neighbours round to the number; whichever is chosen does
    dsimp only at h
    split_ifs at h
    · exact Option.some.inj h ▸ hbelow
    · exact Option.some.inj h ▸ habove
    · cases tie
      · exact Option.some.inj h ▸ habove
      · obtain rfl := Option.some.inj h
        rcases Nat.mod_two_eq_zero_or_one q with hparity | hparity
        · rwa [hparity]
        · rwa [hparity]

/-- The search ends at a multiple that rounds to the number, or at the last of its powers with the
quotient rounded down. -/
private theorem search_cases (n : Neighbourhood) (tie : Decimal.Tie) (fuel : Nat) (k : ℤ) :
    k - fuel ≤ (n.search tie fuel k).exponent ∧ (n.search tie fuel k).exponent ≤ k ∧
      (n.contains (n.search tie fuel k).exponent (n.search tie fuel k).coefficient ∨
        n.search tie fuel k =
          ⟨n.centre * (n.fraction (k - fuel)).1 / (n.fraction (k - fuel)).2, k - fuel⟩) := by
  induction fuel generalizing k with
  | zero =>
    rw [search, Nat.cast_zero, sub_zero]
    exact ⟨le_rfl, le_rfl, .inr rfl⟩
  | succ fuel ih =>
    rw [search]
    split
    · next d hd => exact ⟨by dsimp only; omega, le_rfl, .inl (contains_of_nearest? hd)⟩
    · obtain ⟨hlow, hhigh, hfound⟩ := ih (k - 1)
      refine ⟨by omega, by omega, hfound.imp_right fun heq => ?_⟩
      rw [heq, show k - 1 - fuel = k - (fuel + 1 : Nat) by omega]

/-- The unit over the step `10 ^ k`, as a fraction. -/
private theorem fraction_eq (n : Neighbourhood) (k : ℤ) :
    ((n.fraction k).1 : ℚ) / (n.fraction k).2 = 2 ^ n.unit / 10 ^ k := by
  have hpow (b : Nat) (hb : 0 < b) (e : ℤ) :
      (b : ℚ) ^ e = (b ^ e.toNat : Nat) / (b ^ (-e).toNat : Nat) := by
    have hb' : (b : ℚ) ≠ 0 := by exact_mod_cast hb.ne'
    rw [Nat.cast_pow, Nat.cast_pow, ← zpow_natCast, ← zpow_natCast, ← zpow_sub₀ hb']
    congr 1
    omega
  have htwo := hpow 2 two_pos n.unit
  have hten := hpow 10 (by norm_num) k
  rw [Nat.cast_ofNat] at htwo hten
  rw [fraction, htwo, hten]
  simp only [Nat.pow_eq]
  rw [div_div_div_eq, Nat.cast_mul, Nat.cast_mul]

private theorem fraction_pos (n : Neighbourhood) (k : ℤ) :
    0 < (n.fraction k).1 ∧ 0 < (n.fraction k).2 := by
  rw [fraction]
  simp only [Nat.pow_eq]
  exact ⟨by positivity, by positivity⟩

/-- A multiple `d` of the step `10 ^ k` compared with one of the unit. -/
private theorem mul_le_mul_fraction_iff (n : Neighbourhood) (k : ℤ) (d m : Nat) :
    d * (n.fraction k).2 ≤ m * (n.fraction k).1 ↔ (d : ℚ) * 10 ^ k ≤ m * 2 ^ n.unit := by
  have hden : (0 : ℚ) < (n.fraction k).2 := by exact_mod_cast (n.fraction_pos k).2
  have hstep : (0 : ℚ) < 10 ^ k := by positivity
  rw [← le_div_iff₀ hstep, mul_div_assoc, ← fraction_eq, ← mul_div_assoc, le_div_iff₀ hden]
  exact_mod_cast Iff.rfl

/-- What rounds to the number lies within the interval. -/
private theorem bounds_of_contains {n : Neighbourhood} {k : ℤ} {d : Nat} (h : n.contains k d) :
    n.low * (n.fraction k).1 ≤ d * (n.fraction k).2 ∧
      d * (n.fraction k).2 ≤ n.high * (n.fraction k).1 := by
  rw [contains] at h
  dsimp only at h
  cases hclosed : n.closed <;> simp [hclosed] at h
  · exact ⟨h.1.le, h.2.le⟩
  · exact h

/-- The decimal that is found is not greater than the end of the interval. -/
theorem value_search_le {n : Neighbourhood} (hcentre : n.centre ≤ n.high) (tie : Decimal.Tie)
    (fuel : Nat) (k : ℤ) : (n.search tie fuel k).value ≤ n.high * 2 ^ n.unit := by
  rw [Decimal.value, ← mul_le_mul_fraction_iff]
  obtain ⟨-, -, hfound | hlast⟩ := search_cases n tie fuel k
  · exact (bounds_of_contains hfound).2
  · rw [hlast]
    exact (Nat.div_mul_le_self _ _).trans (Nat.mul_le_mul_right _ hcentre)

/-- The decimal that is found is not zero if the interval does not begin at zero and the search ends
below the number. -/
theorem search_pos {n : Neighbourhood} (hlow : 0 < n.low) (tie : Decimal.Tie) (fuel : Nat) {k : ℤ}
    (hk : (10 : ℚ) ^ (k - fuel) ≤ n.centre * 2 ^ n.unit) :
    0 < (n.search tie fuel k).coefficient := by
  obtain ⟨-, -, hfound | hlast⟩ := search_cases n tie fuel k
  · have hmul := (Nat.mul_pos hlow (n.fraction_pos _).1).trans_le (bounds_of_contains hfound).1
    exact Nat.pos_of_mul_pos_right hmul
  · have hone := (mul_le_mul_fraction_iff n (k - fuel) 1 n.centre).mpr
      (by rwa [Nat.cast_one, one_mul])
    rw [hlast]
    rw [one_mul] at hone
    exact Nat.div_pos hone (n.fraction_pos _).2

/-! ## Where the search starts -/

/-- A power of ten against a power of two: a hundred is less than `2 ^ 7`, ten thousand more than
`2 ^ 13`. -/
private theorem ten_zpow_le_two_zpow {k e : ℤ} (hnonneg : 0 ≤ k → 7 * (k + 1) ≤ 2 * e)
    (hneg : k < 0 → 13 * (k + 3) ≤ 4 * e) : (10 : ℚ) ^ k ≤ 2 ^ e := by
  rcases le_or_gt 0 k with hk | hk
  · have hexponent := hnonneg hk
    obtain ⟨a, ha⟩ : ∃ a : Nat, (a : ℤ) = (k + 1) / 2 := ⟨((k + 1) / 2).toNat, by omega⟩
    calc (10 : ℚ) ^ k ≤ 10 ^ (2 * (a : ℤ)) := zpow_le_zpow_right₀ (by norm_num) (by omega)
      _ = (10 ^ 2) ^ a := by rw [zpow_mul, zpow_natCast]; norm_num
      _ ≤ (2 ^ 7) ^ a := pow_le_pow_left₀ (by norm_num) (by norm_num) a
      _ = 2 ^ (7 * (a : ℤ)) := by rw [zpow_mul, zpow_natCast]; norm_num
      _ ≤ 2 ^ e := zpow_le_zpow_right₀ one_le_two (by omega)
  · have hexponent := hneg hk
    obtain ⟨a, ha⟩ : ∃ a : Nat, (a : ℤ) = -k / 4 := ⟨(-k / 4).toNat, by omega⟩
    calc (10 : ℚ) ^ k ≤ 10 ^ (-4 * (a : ℤ)) := zpow_le_zpow_right₀ (by norm_num) (by omega)
      _ = ((1 / 10) ^ 4) ^ a := by rw [zpow_mul, zpow_natCast]; norm_num
      _ ≤ ((1 / 2) ^ 13) ^ a := pow_le_pow_left₀ (by norm_num) (by norm_num) a
      _ = 2 ^ (-13 * (a : ℤ)) := by rw [zpow_mul, zpow_natCast]; norm_num
      _ ≤ 2 ^ e := zpow_le_zpow_right₀ one_le_two (by omega)

end Neighbourhood

/-! ## Numbers -/

/-- The powers of ten that are searched lie below the number in the end. -/
private theorem topPower_bounds {x : Binary64} (hfinite : x.isFinite) (hzero : x.isZero = false) :
    -350 ≤ x.neighbourhood.topPower - 20 ∧
      (10 : ℚ) ^ (x.neighbourhood.topPower - 20) ≤
        x.neighbourhood.centre * 2 ^ x.neighbourhood.unit := by
  have hpos := significand_pos hzero
  have hlt := x.significand_lt
  have hexponent := exponent_bounds hfinite
  rw [Neighbourhood.topPower, neighbourhood]
  dsimp only
  -- the leading bit of the end of the interval, which is at most twice the centre
  generalize hleading : Nat.log2 (4 * x.significand + 2) = leading
  have hleading_le : leading ≤ 55 := by
    rw [← hleading, Nat.lt_succ_iff.symm, Nat.log2_lt (by omega)]
    omega
  have hhigh : 2 ^ leading ≤ 4 * x.significand + 2 := hleading ▸ Nat.log2_self_le (by omega)
  refine ⟨by omega, ?_⟩
  calc (10 : ℚ) ^ (((leading : ℤ) + 1 + (x.exponent - 2)) * 30103 / 100000 + 1 - 20)
      ≤ 2 ^ ((leading : ℤ) - 1 + (x.exponent - 2)) :=
        Neighbourhood.ten_zpow_le_two_zpow (fun _ => by omega) (fun _ => by omega)
    _ = 2 ^ (leading : ℤ) / 2 * 2 ^ (x.exponent - 2) := by
      rw [zpow_add₀ two_ne_zero, zpow_sub_one₀ two_ne_zero, div_eq_mul_inv]
    _ ≤ (4 * x.significand : Nat) * 2 ^ (x.exponent - 2) := by
      refine mul_le_mul_of_nonneg_right ?_ (by positivity)
      rw [div_le_iff₀ two_pos, zpow_natCast]
      have hhigh' : 2 ^ leading ≤ 4 * x.significand * 2 := by omega
      exact_mod_cast hhigh'

/-- A number that is not zero is not written as zero. -/
theorem shortest_pos {x : Binary64} (hfinite : x.isFinite) (hzero : x.isZero = false)
    (tie : Decimal.Tie) : 0 < (x.shortest tie).coefficient := by
  have hpos := significand_pos hzero
  refine Neighbourhood.search_pos ?_ tie 20 (topPower_bounds hfinite hzero).2
  rw [neighbourhood]
  dsimp only
  split_ifs <;> omega

/-- A number is written as one that is at most half a unit larger. -/
theorem value_shortest_le (x : Binary64) (tie : Decimal.Tie) :
    (x.shortest tie).value ≤ (x.significand + 1 / 2) * 2 ^ x.exponent := by
  have hcentre : x.neighbourhood.centre ≤ x.neighbourhood.high := Nat.le_add_right _ 2
  refine (Neighbourhood.value_search_le hcentre tie 20 _).trans_eq ?_
  rw [neighbourhood, zpow_sub₀ two_ne_zero]
  push_cast
  ring

/-- A number is written as one that is rounded to a finite number, or is half a unit beyond the
largest of them. -/
theorem value_shortest_le_overflow {x : Binary64} (h : x.isFinite) (tie : Decimal.Tie) :
    (x.shortest tie).value ≤ overflow := by
  have hsignificand : (x.significand : ℚ) + 1 ≤ 2 ^ 53 := by exact_mod_cast x.significand_lt
  calc (x.shortest tie).value ≤ (x.significand + 1 / 2) * 2 ^ x.exponent := value_shortest_le x tie
    _ ≤ (2 ^ 53 - 1 / 2) * 2 ^ (971 : ℤ) := by
      refine mul_le_mul ?_ (zpow_le_zpow_right₀ one_le_two (exponent_bounds h).2) (by positivity)
        (by norm_num)
      linarith

/-- The last digit that a number is written with does not stand for an extremely small power of
ten. -/
theorem le_exponent_shortest {x : Binary64} (hfinite : x.isFinite) (hzero : x.isZero = false)
    (tie : Decimal.Tie) : -350 ≤ (x.shortest tie).exponent :=
  (topPower_bounds hfinite hzero).1.trans (Neighbourhood.search_cases _ tie 20 _).1

end Binary64

end SyntaxDump
