import Mathlib
import SyntaxDump.Json.Numeral
import SyntaxDump.Proofs.Decimal.Digits

/-!
# Reading numerals

A numeral has a whole part, and after it a fraction, an exponent or both. The reader takes it apart
from left to right, and its digits go into a significand as long as they fit. Here each part is read
up to what follows it, whatever that is, and each form of numeral that is written for floats is read
as a significand and a power of ten.

## Main statements

- `Json.accumulate_mul_pow_le`: a significand with zeros in the place of the digits that did not fit
  is not greater than the number that is written;
- `Json.readNumeral_whole`: a numeral without fraction and exponent;
- `Json.isNumeral_positional`, `Json.isNumeral_scientific`: the numerals of floats.
-/

namespace SyntaxDump.Json

/-! ## Digits -/

/-- What may follow digits: not another one. -/
def EndsDigits (rest : List Char) : Prop := ∀ c ∈ rest.head?, c.isDigit = false

/-- What may follow a numeral: nothing that could be taken for a part of it. -/
def EndsNumeral (rest : List Char) : Prop :=
  ∀ c ∈ rest.head?, c.isDigit = false ∧ c ≠ '.' ∧ c ≠ 'e' ∧ c ≠ 'E'

/-- A numeral ends where the text does. -/
theorem endsNumeral_nil : EndsNumeral [] := nofun

theorem EndsNumeral.endsDigits {rest : List Char} (h : EndsNumeral rest) : EndsDigits rest :=
  fun c hc => (h c hc).1

/-- Digits are told from what follows them. -/
theorem spanDigits_append {ds rest : List Char} (hds : ∀ c ∈ ds, c.isDigit)
    (hrest : EndsDigits rest) : spanDigits (ds ++ rest) = (ds, rest) := by
  have hnone : rest.takeWhile Char.isDigit = [] ∧ rest.dropWhile Char.isDigit = rest := by
    cases rest with
    | nil => exact ⟨rfl, rfl⟩
    | cons c rest =>
      have hc : c.isDigit = false := hrest c rfl
      simp [List.takeWhile, List.dropWhile, hc]
  rw [spanDigits, List.span_eq_takeWhile_dropWhile, List.takeWhile_append_of_pos hds,
    List.dropWhile_append_of_pos hds, hnone.1, hnone.2, List.append_nil]

/-- The number that digits after others make. -/
theorem ofDigitChars_cons (c : Char) (ds : List Char) (n : Nat) :
    Nat.ofDigitChars 10 (c :: ds) n = Nat.ofDigitChars 10 ds (10 * n + digitValue c) :=
  Nat.ofDigitChars_cons

section Accumulate

variable (bound : Nat)

/-- A significand is made of the digits that fit. -/
theorem accumulate_cases (n : Nat) (ds : List Char) :
    ∃ read, ds = read ++ (accumulate bound n ds).2 ∧
      (accumulate bound n ds).1 = Nat.ofDigitChars 10 read n := by
  induction ds generalizing n with
  | nil => exact ⟨[], rfl, rfl⟩
  | cons c ds ih =>
    rw [accumulate]
    split_ifs
    · obtain ⟨read, hds, hvalue⟩ := ih (10 * n + digitValue c)
      refine ⟨c :: read, congrArg (c :: ·) hds, ?_⟩
      rw [hvalue, ofDigitChars_cons]
    · exact ⟨[], rfl, rfl⟩

/-- A significand stays below the bound. -/
theorem accumulate_lt {n : Nat} (hn : n < bound) (ds : List Char) :
    (accumulate bound n ds).1 < bound := by
  induction ds generalizing n with
  | nil => exact hn
  | cons c ds ih =>
    rw [accumulate]
    split_ifs with h
    · exact ih h
    · exact hn

/-- Digits that make a number below the bound fit into a significand. -/
theorem accumulate_eq_of_lt {n : Nat} {ds : List Char} (h : Nat.ofDigitChars 10 ds n < bound) :
    accumulate bound n ds = (Nat.ofDigitChars 10 ds n, []) := by
  induction ds generalizing n with
  | nil => rfl
  | cons c ds ih =>
    rw [ofDigitChars_cons] at h
    -- the digits read so far make a number that is not greater
    have hle : 10 * n + digitValue c ≤ Nat.ofDigitChars 10 ds (10 * n + digitValue c) := by
      rw [Nat.ofDigitChars_eq_ofDigitChars_zero]
      exact (Nat.le_mul_of_pos_left _ (by positivity)).trans (Nat.le_add_right _ _)
    rw [accumulate, if_pos (hle.trans_lt h), ih h, ofDigitChars_cons]

/-- With zeros in the place of the digits that do not fit, a significand is not greater than the
number that is written. -/
theorem accumulate_mul_pow_le (n : Nat) (ds : List Char) :
    (accumulate bound n ds).1 * 10 ^ (accumulate bound n ds).2.length ≤
      Nat.ofDigitChars 10 ds n := by
  obtain ⟨read, hds, hvalue⟩ := accumulate_cases bound n ds
  generalize (accumulate bound n ds).2 = unread at *
  rw [hvalue, hds, Nat.ofDigitChars_append, Nat.ofDigitChars_eq_ofDigitChars_zero (l := unread),
    mul_comm]
  exact Nat.le_add_right _ _

end Accumulate

/-! ## The parts of a numeral -/

/-- The whole part of a numeral: digits that do not begin with a zero, or a zero alone. -/
structure IsWhole (ds : List Char) : Prop where
  nonempty : ds ≠ []
  digits : ∀ c ∈ ds, c.isDigit
  leading : ds = ['0'] ∨ ∀ c ∈ ds.head?, c ≠ '0'

variable {negative : Bool} {rest : List Char}

/-- What a numeral is read as after its whole part, of which some digits may not have fitted into
the significand. -/
private def readAfterWhole (negative : Bool) (significand : Nat) (unread : List Char) :
    Reader Json := fun rest =>
  match rest with
  | '.' :: more => readFraction negative significand unread.length more
  | 'e' :: more => readExponent negative significand unread.length more
  | 'E' :: more => readExponent negative significand unread.length more
  | _ =>
    if unread.isEmpty then .ok (finishInteger negative significand, rest)
    else finishFloat negative significand unread.length rest

/-- The whole part is read up to what follows it. -/
private theorem readNumeral_append {ds : List Char} (hds : IsWhole ds) (hrest : EndsDigits rest) :
    readNumeral negative (ds ++ rest) =
      readAfterWhole negative (accumulate (Width.values 64) 0 ds).1
        (accumulate (Width.values 64) 0 ds).2 rest := by
  obtain ⟨hnonempty, hdigits, hleading⟩ := hds
  have hspan := spanDigits_append hdigits hrest
  cases ds with
  | nil => exact absurd rfl hnonempty
  | cons c ds =>
    have hdigit : c.isDigit := hdigits c List.mem_cons_self
    -- after a zero there is no other digit
    have hzero : ¬ (c = '0' ∧ (ds ++ rest).head?.any Char.isDigit) := by
      rintro ⟨rfl, hany⟩
      rcases hleading with heq | hne
      · obtain rfl := (List.cons.inj heq).2
        cases rest with
        | nil => cases hany
        | cons c rest => exact absurd hany (by simp [hrest c rfl])
      · exact hne '0' rfl rfl
    rw [List.cons_append, readNumeral]
    dsimp only
    rw [← List.cons_append, hspan, if_neg (by simp [hdigit]), if_neg hzero]
    rfl

/-- Digits end before a mark. -/
private theorem endsDigits_cons {mark : Char} (hmark : mark.isDigit = false) (more : List Char) :
    EndsDigits (mark :: more) := by
  rintro c hc
  rwa [← Option.some.inj hc]

/-- The whole part before a fraction. -/
private theorem readNumeral_point {ds : List Char} (hds : IsWhole ds) (more : List Char) :
    readNumeral negative (ds ++ '.' :: more) =
      readFraction negative (accumulate (Width.values 64) 0 ds).1
        (accumulate (Width.values 64) 0 ds).2.length more :=
  readNumeral_append hds (endsDigits_cons rfl more)

/-- The whole part before an exponent. -/
private theorem readNumeral_exponent {ds : List Char} (hds : IsWhole ds) (more : List Char) :
    readNumeral negative (ds ++ 'e' :: more) =
      readExponent negative (accumulate (Width.values 64) 0 ds).1
        (accumulate (Width.values 64) 0 ds).2.length more :=
  readNumeral_append hds (endsDigits_cons rfl more)

/-- A numeral that ends after its whole part. -/
theorem readNumeral_whole (negative : Bool) {ds : List Char} (hds : IsWhole ds)
    (hrest : EndsNumeral rest) :
    readNumeral negative (ds ++ rest) =
      if (accumulate (Width.values 64) 0 ds).2.isEmpty then
        .ok (finishInteger negative (accumulate (Width.values 64) 0 ds).1, rest)
      else finishFloat negative (accumulate (Width.values 64) 0 ds).1
        (accumulate (Width.values 64) 0 ds).2.length rest := by
  rw [readNumeral_append hds hrest.endsDigits, readAfterWhole]
  · rintro more rfl
    exact (hrest _ rfl).2.1 rfl
  · rintro more rfl
    exact (hrest _ rfl).2.2.1 rfl
  · rintro more rfl
    exact (hrest _ rfl).2.2.2 rfl

/-- A fraction that ends after its digits. -/
theorem readFraction_append {significand : Nat} {e : ℤ} {ds : List Char} (hnonempty : ds ≠ [])
    (hds : ∀ c ∈ ds, c.isDigit) (hrest : EndsNumeral rest) :
    readFraction negative significand e (ds ++ rest) =
      finishFloat negative (accumulate (Width.values 64) significand ds).1
        (e - (ds.length - (accumulate (Width.values 64) significand ds).2.length : Nat)) rest := by
  rw [readFraction, spanDigits_append hds hrest.endsDigits]
  dsimp only
  rw [if_neg (by simpa using hnonempty)]
  split
  · exact absurd rfl (hrest _ rfl).2.2.1
  · exact absurd rfl (hrest _ rfl).2.2.2
  · rfl

/-- A fraction before an exponent. -/
private theorem readFraction_exponent {significand : Nat} {e : ℤ} {ds more : List Char}
    (hnonempty : ds ≠ []) (hds : ∀ c ∈ ds, c.isDigit) :
    readFraction negative significand e (ds ++ 'e' :: more) =
      readExponent negative (accumulate (Width.values 64) significand ds).1
        (e - (ds.length - (accumulate (Width.values 64) significand ds).2.length : Nat)) more := by
  rw [readFraction, spanDigits_append hds (endsDigits_cons rfl more)]
  dsimp only
  rw [if_neg (by simpa using hnonempty)]
  rfl

/-- An exponent with its sign. -/
theorem readExponent_append {significand : Nat} {e lead : ℤ} (hlead : lead.natAbs < 2 ^ 31)
    (hrest : EndsNumeral rest) :
    readExponent negative significand e
      ((if lead < 0 then '-' else '+') :: (Decimal.digits lead.natAbs ++ rest)) =
      finishFloat negative significand (e + lead) rest := by
  have hread (negativeExponent : Bool) :
      readExponentDigits negative significand e negativeExponent
          (Decimal.digits lead.natAbs ++ rest) =
        finishFloat negative significand
          (if negativeExponent then e - lead.natAbs else e + lead.natAbs) rest := by
    rw [readExponentDigits, spanDigits_append Decimal.isDigit_of_mem_digits hrest.endsDigits]
    dsimp only
    rw [accumulate_eq_of_lt _ (by rw [Decimal.ofDigitChars_digits]; exact hlead),
      Decimal.ofDigitChars_digits]
  -- there is at least one digit after the sign
  obtain ⟨c, ds, hds⟩ : ∃ c ds, Decimal.digits lead.natAbs = c :: ds :=
    List.exists_cons_of_ne_nil (Decimal.digits_ne_nil _)
  have hdigit : c.isDigit := Decimal.isDigit_of_mem_digits c (hds ▸ List.mem_cons_self)
  rw [hds, List.cons_append] at hread ⊢
  split_ifs with hsign
  · rw [readExponent, if_pos hdigit, hread, if_pos rfl, show e - lead.natAbs = e + lead by omega]
  · rw [readExponent, if_pos hdigit, hread, if_neg Bool.false_ne_true,
      show e + lead.natAbs = e + lead by omega]

/-! ## Forms of numerals -/

/-- A text is read as a numeral with a point or an exponent, whatever its sign and its end. -/
structure IsNumeral (text : List Char) (significand : Nat) (e : ℤ) : Prop where
  digit : ∃ c cs, text = c :: cs ∧ c.isDigit
  read : ∀ negative rest, EndsNumeral rest →
    readNumeral negative (text ++ rest) = finishFloat negative significand e rest
  fits : significand < 2 ^ 64

/-- Digits before and after a point. -/
theorem isNumeral_point {whole fraction : List Char} (hwhole : IsWhole whole)
    (hfits : Nat.ofDigitChars 10 whole 0 < 2 ^ 64) (hnonempty : fraction ≠ [])
    (hfraction : ∀ c ∈ fraction, c.isDigit) :
    ∃ significand e, e ≤ 0 ∧ IsNumeral (whole ++ '.' :: fraction) significand e := by
  have htaken := accumulate_eq_of_lt (Width.values 64) hfits
  refine ⟨_, -(fraction.length - (accumulate (Width.values 64) (Nat.ofDigitChars 10 whole 0)
    fraction).2.length : Nat), by omega, ?_, fun negative rest hrest => ?_,
    accumulate_lt (Width.values 64) hfits fraction⟩
  · obtain ⟨c, ds, rfl⟩ := List.exists_cons_of_ne_nil hwhole.nonempty
    exact ⟨c, _, rfl, hwhole.digits c List.mem_cons_self⟩
  · rw [List.append_assoc, List.cons_append, readNumeral_point hwhole, htaken,
      readFraction_append hnonempty hfraction hrest, List.length_nil, Nat.cast_zero, zero_sub]

/-- A digit on its own is a whole part and fits into a significand. -/
private theorem isWhole_singleton {c : Char} (hc : c.isDigit) :
    IsWhole [c] ∧ accumulate (Width.values 64) 0 [c] = (digitValue c, []) := by
  have hdigits : ∀ c' ∈ [c], c'.isDigit := List.forall_mem_singleton.mpr hc
  refine ⟨⟨List.cons_ne_nil _ _, hdigits, ?_⟩, ?_⟩
  · by_cases hzero : c = '0'
    · exact .inl (congrArg ([·]) hzero)
    · exact .inr fun c' hc' => Option.some.inj hc' ▸ hzero
  · have hlt : Nat.ofDigitChars 10 [c] 0 < Width.values 64 :=
      (Decimal.ofDigitChars_lt hdigits 0).trans (by rw [List.length_singleton]; decide)
    rw [accumulate_eq_of_lt _ hlt, ofDigitChars_cons, Nat.mul_zero, Nat.zero_add]
    rfl

/-- One digit, further digits after a point if there are any, and an exponent. -/
theorem isNumeral_scientific {c : Char} {ds : List Char} {lead : ℤ} (hc : c.isDigit)
    (hds : ∀ c ∈ ds, c.isDigit) (hlead : lead.natAbs < 2 ^ 31) :
    IsNumeral (Decimal.scientific 1 (c :: ds) lead)
      (accumulate (Width.values 64) (digitValue c) ds).1
      (lead - (ds.length - (accumulate (Width.values 64) (digitValue c) ds).2.length : Nat)) := by
  obtain ⟨hwhole, htaken⟩ := isWhole_singleton hc
  have hlt : digitValue c < Width.values 64 := by
    have hbound := accumulate_lt (Width.values 64) (n := 0) (by decide) [c]
    rwa [htaken] at hbound
  -- an exponent has at least one digit, so that none is added
  have hpad : Decimal.padLeft 1 (Decimal.digits lead.natAbs) = Decimal.digits lead.natAbs := by
    rw [Decimal.padLeft, Nat.sub_eq_zero_of_le (List.length_pos_iff.mpr (Decimal.digits_ne_nil _))]
    rfl
  cases ds with
  | nil =>
    refine ⟨⟨c, _, rfl, hc⟩, fun negative rest hrest => ?_, accumulate_lt _ hlt []⟩
    calc readNumeral negative (Decimal.scientific 1 [c] lead ++ rest)
        = readNumeral negative ([c] ++ 'e' :: ((if lead < 0 then '-' else '+') ::
            (Decimal.digits lead.natAbs ++ rest))) := by
          rw [Decimal.scientific, hpad]
          rfl
      _ = finishFloat negative (digitValue c) lead rest := by
          rw [readNumeral_exponent hwhole, readExponent_append hlead hrest, htaken,
            List.length_nil, Nat.cast_zero, zero_add]
      _ = _ := by rw [accumulate, List.length_nil, Nat.sub_zero, Nat.cast_zero, sub_zero]
  | cons c' ds =>
    refine ⟨⟨c, _, rfl, hc⟩, fun negative rest hrest => ?_, accumulate_lt _ hlt _⟩
    calc readNumeral negative (Decimal.scientific 1 (c :: c' :: ds) lead ++ rest)
        = readNumeral negative ([c] ++ '.' :: (c' :: ds ++ 'e' ::
            ((if lead < 0 then '-' else '+') :: (Decimal.digits lead.natAbs ++ rest)))) := by
          rw [Decimal.scientific.eq_def, hpad]
          simp
      _ = finishFloat negative _ _ rest := by
          rw [readNumeral_point hwhole, readFraction_exponent (List.cons_ne_nil _ _) hds,
            readExponent_append hlead hrest, htaken, List.length_nil, Nat.cast_zero, zero_sub,
            neg_add_eq_sub]

private theorem forall_isDigit_replicate (n : Nat) : ∀ c ∈ List.replicate n '0', c.isDigit := by
  intro c hc
  rw [List.eq_of_mem_replicate hc]
  rfl

/-- The digits before the point, at most sixteen, with zeros where there are too few. -/
private theorem isWhole_positional {cs : List Char} (hne : cs ≠ []) (hcs : ∀ c ∈ cs, c.isDigit)
    (hhead : ∀ c ∈ cs.head?, c ≠ '0') {whole : Nat} (hpos : 0 < whole) (hle : whole ≤ 16) :
    IsWhole (cs.take whole ++ List.replicate (whole - cs.length) '0') ∧
      Nat.ofDigitChars 10 (cs.take whole ++ List.replicate (whole - cs.length) '0') 0 < 2 ^ 64 := by
  have hdigits : ∀ c ∈ cs.take whole ++ List.replicate (whole - cs.length) '0', c.isDigit :=
    List.forall_mem_append.mpr
      ⟨fun c hc => hcs c (List.mem_of_mem_take hc), forall_isDigit_replicate _⟩
  have hlength : (cs.take whole ++ List.replicate (whole - cs.length) '0').length = whole := by
    rw [List.length_append, List.length_take, List.length_replicate]
    omega
  constructor
  · obtain ⟨c, cs, rfl⟩ := List.exists_cons_of_ne_nil hne
    obtain ⟨n, rfl⟩ := Nat.exists_eq_add_of_lt hpos
    rw [Nat.zero_add] at hdigits ⊢
    exact ⟨List.cons_ne_nil _ _, hdigits, .inr hhead⟩
  · calc Nat.ofDigitChars 10 (cs.take whole ++ List.replicate (whole - cs.length) '0') 0
        < 10 ^ whole * (0 + 1) := (Decimal.ofDigitChars_lt hdigits 0).trans_eq (by rw [hlength])
      _ ≤ 10 ^ 16 * (0 + 1) := Nat.mul_le_mul_right _ (Nat.pow_le_pow_right (by decide) hle)
      _ ≤ 2 ^ 64 := by norm_num

/-- Digits with a point among them, at most sixteen before it. -/
theorem isNumeral_positional {cs : List Char} (hne : cs ≠ []) (hcs : ∀ c ∈ cs, c.isDigit)
    (hhead : ∀ c ∈ cs.head?, c ≠ '0') {lead : ℤ} (hlead : lead < 16) :
    ∃ significand e, e ≤ 0 ∧ IsNumeral (Decimal.positional true cs lead) significand e := by
  rw [Decimal.positional]
  rcases lt_or_ge lead 0 with hneg | hneg
  · -- a zero is all there is before the point
    have hzero : IsWhole ['0'] :=
      ⟨List.cons_ne_nil _ _, List.forall_mem_singleton.mpr rfl, .inl rfl⟩
    rw [if_pos hneg]
    refine isNumeral_point hzero (by decide) ?_ ?_
    · exact List.append_ne_nil_of_right_ne_nil _ hne
    · exact List.forall_mem_append.mpr ⟨forall_isDigit_replicate _, hcs⟩
  obtain ⟨hwhole, hfits⟩ :=
    isWhole_positional hne hcs hhead (Nat.succ_pos lead.toNat) (by omega)
  rw [if_neg hneg.not_gt]
  simp only [↓reduceIte]
  split_ifs with htail
  · exact isNumeral_point hwhole hfits (List.cons_ne_nil _ _) (List.forall_mem_singleton.mpr rfl)
  · exact isNumeral_point hwhole hfits (by simpa using htail)
      fun c hc => hcs c (List.mem_of_mem_drop hc)

end SyntaxDump.Json
