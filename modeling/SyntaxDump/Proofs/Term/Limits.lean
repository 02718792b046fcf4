import SyntaxDump.Proofs.Text.Join
import SyntaxDump.Term

/-!
# Terms within the limits of a machine

The longest margin of a term is that of the deepest level that it opens, and no other text that is
written for it is longer than the whole. So a term can be written exactly if there is room for this
margin and for its text.

## Main statement

- `Term.textWithin_eq_ok_iff`: which terms can be written, and as which text.
-/

namespace SyntaxDump

/-- Where there is room for joined texts with what stands around them there is room for each. -/
theorem Text.fits_of_mem {before separator after t : String} {ts : List String}
    (h : Fits (before ++ separator.intercalate ts ++ after)) (ht : t ∈ ts) : Fits t := by
  have hpart := utf8ByteSize_le_of_mem separator ht
  rw [Fits, String.utf8ByteSize_append, String.utf8ByteSize_append] at h
  rw [Fits]
  omega

namespace Term

mutual

/-- How many levels a term opens, one inside the other. -/
def levels : Term → Nat
  | .atom _ => 0
  | .list [] => 0
  | .list (item :: items) => itemLevels (item :: items) + 1
  | .call _ args => argLevels args + 1

/-- How many levels the items of a list open. -/
def itemLevels : List Term → Nat
  | [] => 0
  | t :: rest => max (levels t) (itemLevels rest)

/-- How many levels the arguments of a call open. -/
def argLevels : List (Option String × Term) → Nat
  | [] => 0
  | (_, t) :: rest => max (levels t) (argLevels rest)

end

/-- There is room for what separates the lines of `n` levels below a level: a comma, a line break
and the margin. -/
def Room (unit : Option String) (level n : Nat) : Prop :=
  ∀ u ∈ unit, 0 < n → u.utf8ByteSize * (level + n) + 2 ≤ Text.maxBytes

variable {unit : Option String} {level : Nat}

theorem room_zero : Room unit level 0 := fun _ _ h => absurd h (Nat.lt_irrefl 0)

/-- Fewer levels need less room. -/
theorem Room.mono {m n : Nat} (hle : m ≤ n) (h : Room unit level n) : Room unit level m := by
  intro u hu hm
  have hmargin : u.utf8ByteSize * (level + m) ≤ u.utf8ByteSize * (level + n) :=
    Nat.mul_le_mul_left _ (Nat.add_le_add_left hle level)
  exact Nat.le_trans (Nat.add_le_add_right hmargin 2) (h u hu (Nat.lt_of_lt_of_le hm hle))

/-- Levels below the next one need room for that level too. -/
theorem room_succ_iff {n : Nat} :
    Room unit level (n + 1) ↔
      (∀ u ∈ unit, u.utf8ByteSize * (level + 1) + 2 ≤ Text.maxBytes) ∧
        Room unit (level + 1) n := by
  -- the deepest level is the same, counted from the next one
  have hdeepest : level + (n + 1) = level + 1 + n := by omega
  constructor
  · intro h
    have hnext : Room unit level 1 := h.mono (Nat.le_add_left 1 n)
    exact ⟨fun u hu => hnext u hu Nat.one_pos, fun u hu _ => hdeepest ▸ h u hu (Nat.succ_pos n)⟩
  · rintro ⟨hnext, h⟩ u hu -
    rw [hdeepest]
    rcases Nat.eq_zero_or_pos n with rfl | hn
    · exact hnext u hu
    · exact h u hu hn

theorem room_max_iff {m n : Nat} :
    Room unit level (max m n) ↔ Room unit level m ∧ Room unit level n := by
  rcases Nat.le_total m n with hle | hle
  · rw [Nat.max_eq_right hle]
    exact (and_iff_right_of_imp (Room.mono hle)).symm
  · rw [Nat.max_eq_left hle]
    exact (and_iff_left_of_imp (Room.mono hle)).symm

/-- The edges of a level can be written exactly if there is room for the longer one. -/
theorem edgesWithin_eq_ok_iff {edges : Edges} :
    edgesWithin unit level = .ok edges ↔
      (∀ u ∈ unit, u.utf8ByteSize * level + 2 ≤ Text.maxBytes) ∧
        edges = ⟨opening unit level, separator unit level⟩ := by
  cases unit with
  | none => simp [edgesWithin, opening, separator, eq_comm]
  | some u =>
    have hopening : ("\n" ++ Text.times u level).utf8ByteSize = 1 + u.utf8ByteSize * level := by
      rw [String.utf8ByteSize_append, Text.utf8ByteSize_times]
      rfl
    have hseparator : (",\n" ++ Text.times u level).utf8ByteSize = 2 + u.utf8ByteSize * level := by
      rw [String.utf8ByteSize_append, Text.utf8ByteSize_times]
      rfl
    rw [edgesWithin, Except.bind_eq_ok_iff_of Text.timesWithin_eq_ok_iff,
      Except.bind_eq_ok_iff_of Text.fit_eq_ok_iff, Except.bind_eq_ok_iff_of Text.fit_eq_ok_iff,
      Text.Fits, Text.Fits, hopening, hseparator]
    simp only [Option.mem_some_iff, forall_eq']
    -- of the margin and the two edges the separator is the longest
    constructor
    · rintro ⟨-, -, hroom, h⟩
      exact ⟨by omega, (Except.ok.inj h).symm⟩
    · rintro ⟨hroom, rfl⟩
      exact ⟨by omega, by omega, by omega, rfl⟩

/-- If the whole has room, so have its parts. -/
private theorem and_parts_iff {edges room parts whole result : Prop} (h : whole → parts) :
    (edges ∧ (room ∧ parts) ∧ whole ∧ result) ↔ ((edges ∧ room) ∧ whole) ∧ result := by
  constructor
  · rintro ⟨hedges, ⟨hroom, -⟩, hwhole, hresult⟩
    exact ⟨⟨⟨hedges, hroom⟩, hwhole⟩, hresult⟩
  · rintro ⟨⟨⟨hedges, hroom⟩, hwhole⟩, hresult⟩
    exact ⟨hedges, ⟨hroom, h hwhole⟩, hwhole, hresult⟩

mutual

/-- A term can be written exactly if there is room for the levels that it opens and for its
text. -/
theorem textWithin_eq_ok_iff (unit : Option String) (level : Nat) : (t : Term) → {s : String} →
    (textWithin unit level t = .ok s ↔
      (Room unit level t.levels ∧ Text.Fits (text unit level t)) ∧ s = text unit level t)
  | .atom t, s => by
    rw [textWithin, levels, text, Text.fit_eq_ok_iff, and_iff_right room_zero]
  | .list [], s => by
    have hfits : Text.Fits "[]" := by decide +kernel
    rw [textWithin, levels, text, and_iff_right ⟨room_zero, hfits⟩]
    exact ⟨fun h => (Except.ok.inj h).symm, fun h => congrArg _ h.symm⟩
  | .list (item :: items), s => by
    rw [textWithin, levels, room_succ_iff, text, Except.bind_eq_ok_iff_of edgesWithin_eq_ok_iff,
      Except.bind_eq_ok_iff_of (textsWithin_eq_ok_iff unit (level + 1) (item :: items)),
      Text.enclosedWithin_eq_ok_iff]
    exact and_parts_iff fun h t => Text.fits_of_mem h
  | .call name args, s => by
    rw [textWithin, levels, room_succ_iff, text, Except.bind_eq_ok_iff_of edgesWithin_eq_ok_iff,
      Except.bind_eq_ok_iff_of (argTextsWithin_eq_ok_iff unit (level + 1) args)]
    -- the arguments are joined on one line or on several
    split
    · rw [Text.enclosedWithin_eq_ok_iff]
      exact and_parts_iff fun h t => Text.fits_of_mem h
    · rw [Text.enclosedWithin_eq_ok_iff]
      exact and_parts_iff fun h t => Text.fits_of_mem h

/-- The items of a list can be written exactly if there is room for the levels that they open and
for their texts. -/
theorem textsWithin_eq_ok_iff (unit : Option String) (level : Nat) :
    (ts : List Term) → {ss : List String} →
      (textsWithin unit level ts = .ok ss ↔
        (Room unit level (itemLevels ts) ∧ ∀ s ∈ texts unit level ts, Text.Fits s) ∧
          ss = texts unit level ts)
  | [], ss => by
    rw [textsWithin, itemLevels, texts, and_iff_right ⟨room_zero, List.forall_mem_nil _⟩]
    exact ⟨fun h => (Except.ok.inj h).symm, fun h => congrArg _ h.symm⟩
  | t :: rest, ss => by
    rw [textsWithin, itemLevels, room_max_iff, texts, List.forall_mem_cons, and_and_and_comm]
    exact Except.both_eq_ok_iff (textWithin_eq_ok_iff unit level t)
      (textsWithin_eq_ok_iff unit level rest) rfl

/-- The arguments of a call can be written exactly if there is room for the levels that they open
and for their texts. -/
theorem argTextsWithin_eq_ok_iff (unit : Option String) (level : Nat) :
    (args : List (Option String × Term)) → {ss : List String} →
      (argTextsWithin unit level args = .ok ss ↔
        (Room unit level (argLevels args) ∧ ∀ s ∈ argTexts unit level args, Text.Fits s) ∧
          ss = argTexts unit level args)
  | [], ss => by
    rw [argTextsWithin, argLevels, argTexts, and_iff_right ⟨room_zero, List.forall_mem_nil _⟩]
    exact ⟨fun h => (Except.ok.inj h).symm, fun h => congrArg _ h.symm⟩
  | (label, t) :: rest, ss => by
    -- with its label a value is longer
    have hvalue : Text.Fits (labelled label (text unit level t)) →
        Text.Fits (text unit level t) := by
      intro h
      cases label with
      | none => exact h
      | some name =>
        rw [Text.Fits, labelled, String.utf8ByteSize_append] at h
        rw [Text.Fits]
        omega
    rw [argTextsWithin, argLevels, room_max_iff, argTexts, List.forall_mem_cons,
      Except.bind_eq_ok_iff_of (textWithin_eq_ok_iff unit level t),
      Except.bind_eq_ok_iff_of Text.fit_eq_ok_iff,
      Except.bind_eq_ok_iff_of (argTextsWithin_eq_ok_iff unit level rest)]
    constructor
    · rintro ⟨⟨hroom, -⟩, hfits, ⟨hrooms, hrest⟩, h⟩
      exact ⟨⟨⟨hroom, hrooms⟩, hfits, hrest⟩, (Except.ok.inj h).symm⟩
    · rintro ⟨⟨⟨hroom, hrooms⟩, hfits, hrest⟩, rfl⟩
      exact ⟨⟨hroom, hvalue hfits⟩, hfits, ⟨hrooms, hrest⟩, rfl⟩

end

end Term

end SyntaxDump
