import SyntaxDump.Text.Times

/-!
# Joined and repeated texts

Which characters these consist of, and how many bytes they take.
-/

namespace SyntaxDump.Text

/-- In a joined text every text but the first follows a separator. -/
theorem toList_intercalate_cons (separator t : String) (ts : List String) :
    (separator.intercalate (t :: ts)).toList =
      t.toList ++ ts.flatMap fun s => separator.toList ++ s.toList := by
  induction ts generalizing t with
  | nil => rw [String.intercalate_singleton, List.flatMap_nil, List.append_nil]
  | cons s ts ih =>
    rw [String.intercalate_cons_cons, String.toList_append, String.toList_append, ih s,
      List.flatMap_cons, List.append_assoc, List.append_assoc]

/-- A joined text begins with the first text. What follows it, if anything, begins with the
separator. -/
theorem exists_intercalate_cons (separator t : String) (ts : List String) :
    ∃ rest, separator.intercalate (t :: ts) = t ++ rest ∧
      (rest = "" ∨ ∃ more, rest = separator ++ more) := by
  cases ts with
  | nil => exact ⟨"", by rw [String.intercalate_singleton, String.append_empty], .inl rfl⟩
  | cons s ts =>
    refine ⟨separator ++ separator.intercalate (s :: ts), ?_, .inr ⟨_, rfl⟩⟩
    rw [String.intercalate_cons_cons, String.append_assoc]

/-- A joined text consists of the characters of the texts and of the separator. -/
theorem mem_of_mem_intercalate {separator : String} {ts : List String} {c : Char}
    (h : c ∈ (separator.intercalate ts).toList) :
    c ∈ separator.toList ∨ ∃ t ∈ ts, c ∈ t.toList := by
  cases ts with
  | nil =>
    rw [String.intercalate_nil] at h
    cases h
  | cons t ts =>
    rw [toList_intercalate_cons, List.mem_append, List.mem_flatMap] at h
    rcases h with h | ⟨s, hs, h⟩
    · exact .inr ⟨t, List.mem_cons_self, h⟩
    · exact (List.mem_append.mp h).imp_right fun h => ⟨s, List.mem_cons_of_mem _ hs, h⟩

/-- Each of the texts stands in the joined text. -/
theorem infix_intercalate_of_mem (separator : String) {t : String} {ts : List String}
    (h : t ∈ ts) : t.toList <:+: (separator.intercalate ts).toList := by
  cases ts with
  | nil => cases h
  | cons s ts =>
    rw [toList_intercalate_cons]
    rcases List.mem_cons.mp h with rfl | h
    · exact (List.prefix_append _ _).isInfix
    · obtain ⟨before, after, rfl⟩ := List.append_of_mem h
      refine ⟨s.toList ++ before.flatMap (fun s => separator.toList ++ s.toList) ++
        separator.toList, after.flatMap fun s => separator.toList ++ s.toList, ?_⟩
      simp [List.flatMap_append]

/-- A joined text is at least as long as each of the texts. -/
theorem utf8ByteSize_le_of_mem (separator : String) {t : String} {ts : List String} (h : t ∈ ts) :
    t.utf8ByteSize ≤ (separator.intercalate ts).utf8ByteSize := by
  induction ts with
  | nil => cases h
  | cons s ts ih =>
    cases ts with
    | nil =>
      obtain rfl := List.mem_singleton.mp h
      exact Nat.le_of_eq (congrArg _ String.intercalate_singleton.symm)
    | cons s' ts =>
      rw [String.intercalate_cons_cons, String.utf8ByteSize_append, String.utf8ByteSize_append]
      rcases List.mem_cons.mp h with rfl | h
      · omega
      · exact Nat.le_trans (ih h) (Nat.le_add_left _ _)

/-- A repeated text has the bytes of the text as many times. -/
theorem utf8ByteSize_times (t : String) (n : Nat) :
    (times t n).utf8ByteSize = t.utf8ByteSize * n := by
  induction n with
  | zero => rfl
  | succ n ih => rw [times, String.utf8ByteSize_append, ih, Nat.mul_succ, Nat.add_comm]

/-- A repeated text consists of the characters of the text. -/
theorem mem_of_mem_times {t : String} {n : Nat} {c : Char} (h : c ∈ (times t n).toList) :
    c ∈ t.toList := by
  induction n with
  | zero => cases h
  | succ n ih =>
    rw [times, String.toList_append, List.mem_append] at h
    exact h.elim id ih

end SyntaxDump.Text
