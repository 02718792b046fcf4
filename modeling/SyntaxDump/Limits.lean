import SyntaxDump.Proofs.Result
import SyntaxDump.Text.Times
import SyntaxDump.Width

/-!
# The limits of a machine

Words have 64 bits, and a text takes less than `2 ^ 63` bytes. What dumps are to look like is said
without these limits (`Term.text`, `Node.render`, `Tree.dump`, `Format.serialize`). What is run
(`Term.textWithin`, `Node.renderWithin`, `Tree.dumpWithin`, `Format.serializeWithin`) measures every
text that it writes, and where a word or a text cannot be as large there is no dump.

A text is taken to need as many bytes as it has. How much more a buffer takes while it grows, and
how much memory there is, is left out.
-/

namespace SyntaxDump

/-- Why there is no dump. -/
inductive Overflow where
  /-- A sum is beyond what a word holds. -/
  | sum
  /-- A text would take more bytes than a text can. -/
  | capacity
deriving DecidableEq, Repr

/-- The wording of an overflow. -/
def Overflow.message : Overflow → String
  | .sum => "attempt to add with overflow"
  | .capacity => "capacity overflow"

/-! ## Words -/

/-- What becomes of a sum that is beyond what a word holds. -/
inductive Sums where
  /-- What a word can hold of it is kept. -/
  | wrapping
  /-- It is an overflow. -/
  | checked
deriving DecidableEq, Repr

/-- The level below another. -/
def Sums.next (sums : Sums) (level : UInt64) : Except Overflow UInt64 :=
  match sums with
  | .wrapping => .ok (level + 1)
  | .checked => if level.toNat + 1 < UInt64.size then .ok (level + 1) else .error .sum

/-- The next level is there unless it is beyond what a word holds and this matters. -/
theorem Sums.next_eq_ok_iff {sums : Sums} {level next : UInt64} :
    sums.next level = .ok next ↔
      (sums = .checked → level.toNat + 1 < UInt64.size) ∧ next = level + 1 := by
  cases sums with
  | wrapping => simp [Sums.next, eq_comm]
  | checked =>
    rw [Sums.next]
    split
    · next h => simp [h, eq_comm]
    · next h => simp [h]

/-! ## Texts -/

namespace Text

/-- The number of bytes that no text exceeds. -/
def maxBytes : Nat := Width.values 63 - 1

/-- A text can be as long as this one. -/
def Fits (t : String) : Prop := t.utf8ByteSize ≤ maxBytes

instance (t : String) : Decidable (Fits t) := Nat.decLe _ _

/-- A text that has been written. -/
def fit (t : String) : Except Overflow String := if Fits t then .ok t else .error .capacity

theorem fit_eq_ok_iff {t s : String} : fit t = .ok s ↔ Fits t ∧ s = t := by
  rw [fit]
  split
  · next h => simp [h, eq_comm]
  · next h => simp [h]

/-- A text written a number of times. -/
def timesWithin (t : String) (n : Nat) : Except Overflow String :=
  if t.utf8ByteSize * n ≤ maxBytes then .ok (times t n) else .error .capacity

theorem timesWithin_eq_ok_iff {t s : String} {n : Nat} :
    timesWithin t n = .ok s ↔ t.utf8ByteSize * n ≤ maxBytes ∧ s = times t n := by
  rw [timesWithin]
  split
  · next h => simp [h, eq_comm]
  · next h => simp [h]

/-- Texts with a separator between them, and what stands around them. The texts are joined
first. -/
def enclosedWithin (before separator : String) (texts : List String) (after : String) :
    Except Overflow String := do
  let joined ← fit (separator.intercalate texts)
  fit (before ++ joined ++ after)

theorem enclosedWithin_eq_ok_iff {before separator after s : String} {texts : List String} :
    enclosedWithin before separator texts after = .ok s ↔
      Fits (before ++ separator.intercalate texts ++ after) ∧
        s = before ++ separator.intercalate texts ++ after := by
  rw [enclosedWithin, Except.bind_eq_ok_iff]
  constructor
  · rintro ⟨joined, hjoined, h⟩
    obtain ⟨-, rfl⟩ := fit_eq_ok_iff.mp hjoined
    exact fit_eq_ok_iff.mp h
  · intro h
    -- the joined texts are a part of the whole
    have hjoined : Fits (separator.intercalate texts) := by
      refine Nat.le_trans ?_ h.1
      rw [String.utf8ByteSize_append, String.utf8ByteSize_append]
      omega
    exact ⟨_, fit_eq_ok_iff.mpr ⟨hjoined, rfl⟩, fit_eq_ok_iff.mpr h⟩

end Text

end SyntaxDump
