
/-!
# Texts without their line breaks

A text over several lines is put on one line by taking out every line break together with the blanks
after it, the margin; a line break after a comma leaves a space.

## Main statements

- `Text.unbreaks_of_solid`: a piece without line breaks stays as it is;
- `Text.unbreaks_comma_break` and `Text.unbreaks_break`: a line break with its margin goes.
-/

namespace SyntaxDump.Text

/-- Spaces and tabs. -/
def isBlank (c : Char) : Bool := c == ' ' || c == '\t'

/-- What comes before a character of a text. -/
inductive Before where
  /-- A comma. -/
  | comma
  /-- A line break, or blanks after one. -/
  | margin
  /-- Something else. -/
  | other
deriving DecidableEq

/-- The characters of a text without line breaks and margins, where something comes before them. -/
def unbreakFrom : Before → List Char → List Char
  | _, [] => []
  | before, c :: cs =>
    if c = '\n' then
      (if before = .comma then [' '] else []) ++ unbreakFrom .margin cs
    else if before = .margin ∧ isBlank c then unbreakFrom .margin cs
    else c :: unbreakFrom (if c = ',' then .comma else .other) cs

/-- A text with every line break and the blanks after it replaced, by one space after a comma and by
nothing elsewhere. -/
def unbreak (text : String) : String := String.ofList (unbreakFrom .other text.toList)

example : unbreak "f(\n  'a, b',\n  [\n\t 1],\n\n x y)" = "f('a, b', [1], x y)" := by decide

/-! ## Solid pieces -/

/-- A piece of text that stays as it is: it has no line breaks and does not begin with a blank that
could be taken for a part of the margin. -/
structure Solid (cs : List Char) : Prop where
  head : ∀ c ∈ cs.head?, isBlank c = false
  newline : '\n' ∉ cs

instance (cs : List Char) : Decidable (Solid cs) :=
  decidable_of_iff (cs.head?.all (isBlank · == false) = true ∧ '\n' ∉ cs)
    ⟨fun ⟨h, h'⟩ => ⟨by simpa [Option.all_eq_true] using h, h'⟩,
      fun ⟨h, h'⟩ => ⟨by simpa [Option.all_eq_true] using h, h'⟩⟩

/-- One text becomes another when its line breaks go, whatever comes before and after it. -/
def Unbreaks (broken line : List Char) : Prop :=
  ∀ before, ∃ after, ∀ rest, unbreakFrom before (broken ++ rest) = line ++ unbreakFrom after rest

/-- Pieces of a text are put on one line one after another. -/
theorem Unbreaks.append {a a' b b' : List Char} (ha : Unbreaks a a') (hb : Unbreaks b b') :
    Unbreaks (a ++ b) (a' ++ b') := by
  intro before
  -- the second piece begins where the first one ends
  obtain ⟨between, ha⟩ := ha before
  obtain ⟨after, hb⟩ := hb between
  refine ⟨after, fun rest => ?_⟩
  rw [List.append_assoc, ha, hb, List.append_assoc]

/-- The whole of a text. -/
theorem Unbreaks.eq {broken line : List Char} (h : Unbreaks broken line) (before : Before) :
    unbreakFrom before broken = line := by
  obtain ⟨after, h⟩ := h before
  have hrest := h []
  rwa [List.append_nil, unbreakFrom, List.append_nil] at hrest

/-- Inside a line, characters other than line breaks stay. -/
private theorem exists_unbreakFrom_append {cs : List Char} (h : '\n' ∉ cs) {before : Before}
    (hbefore : before ≠ .margin) :
    ∃ after, ∀ rest, unbreakFrom before (cs ++ rest) = cs ++ unbreakFrom after rest := by
  induction cs generalizing before with
  | nil => exact ⟨before, fun _ => rfl⟩
  | cons c cs ih =>
    obtain ⟨hc, hcs⟩ := not_or.mp fun hmem => h (List.mem_cons.mpr hmem)
    have hinside : (if c = ',' then Before.comma else .other) ≠ .margin := by split <;> decide
    obtain ⟨after, hrest⟩ := ih hcs hinside
    refine ⟨after, fun rest => ?_⟩
    have hblank : ¬ (before = .margin ∧ isBlank c) := fun hblank => hbefore hblank.1
    rw [List.cons_append, unbreakFrom, if_neg (Ne.symm hc), if_neg hblank, hrest, List.cons_append]

/-- A solid piece stays as it is. -/
theorem unbreaks_of_solid {cs : List Char} (h : Solid cs) : Unbreaks cs cs := by
  intro before
  cases cs with
  | nil => exact ⟨before, fun _ => rfl⟩
  | cons c cs =>
    -- the first character ends the margin, if there is one
    obtain ⟨hc, hcs⟩ := not_or.mp fun hmem => h.newline (List.mem_cons.mpr hmem)
    have hinside : (if c = ',' then Before.comma else .other) ≠ .margin := by split <;> decide
    obtain ⟨after, hrest⟩ := exists_unbreakFrom_append hcs hinside
    refine ⟨after, fun rest => ?_⟩
    have hblank : ¬ (before = .margin ∧ isBlank c) := by simp [h.head c rfl]
    rw [List.cons_append, unbreakFrom, if_neg (Ne.symm hc), if_neg hblank, hrest, List.cons_append]

/-! ## Line breaks -/

/-- Blanks in the margin go. -/
private theorem unbreakFrom_margin {margin : List Char} (h : ∀ c ∈ margin, isBlank c)
    (rest : List Char) : unbreakFrom .margin (margin ++ rest) = unbreakFrom .margin rest := by
  induction margin with
  | nil => rfl
  | cons c cs ih =>
    obtain ⟨hc, hcs⟩ := List.forall_mem_cons.mp h
    have hnewline : ¬ c = '\n' := by
      rintro rfl
      exact absurd hc (by decide)
    rw [List.cons_append, unbreakFrom, if_neg hnewline, if_pos ⟨rfl, hc⟩, ih hcs]

/-- A line break after a comma leaves a space. -/
theorem unbreaks_comma_break {margin : List Char} (h : ∀ c ∈ margin, isBlank c) :
    Unbreaks (',' :: '\n' :: margin) [',', ' '] := by
  intro before
  -- the comma stays whatever is before it, the line break after it becomes a space
  refine ⟨.margin, fun rest => ?_⟩
  have hblank : ¬ (before = .margin ∧ isBlank ',') := by simp [isBlank]
  rw [List.cons_append, unbreakFrom, if_neg (by decide), if_neg hblank, if_pos rfl,
    List.cons_append, unbreakFrom, if_pos rfl, if_pos rfl, unbreakFrom_margin h]
  rfl

/-- A line break after another character leaves nothing. -/
theorem unbreaks_break {c : Char} (hsolid : Solid [c]) (hcomma : c ≠ ',') {margin : List Char}
    (h : ∀ c ∈ margin, isBlank c) : Unbreaks (c :: '\n' :: margin) [c] := by
  intro before
  -- the character stays, and since it is no comma the line break leaves nothing
  refine ⟨.margin, fun rest => ?_⟩
  have hnewline : ¬ c = '\n' := fun heq => hsolid.newline (heq ▸ List.mem_cons_self)
  have hblank : ¬ (before = .margin ∧ isBlank c) := by simp [hsolid.head c rfl]
  rw [List.cons_append, unbreakFrom, if_neg hnewline, if_neg hblank, if_neg hcomma,
    List.cons_append, unbreakFrom, if_pos rfl, if_neg (by decide), unbreakFrom_margin h]
  rfl

end SyntaxDump.Text
