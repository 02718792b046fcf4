import SyntaxDump.Proofs.Literal.Quoted
import SyntaxDump.Proofs.Term.Lexical
import SyntaxDump.Proofs.Text.Join
import SyntaxDump.Proofs.Text.Unbreak

/-!
# Terms on one line

`Term.line` is the text of a term on one line, by recursion over the term and without a notion of
levels. The text under any layout consists of the same pieces in the same order, with layout between
some of them. What can be said of the text piece by piece is therefore said of the whole, once for
all layouts (`Term.text_rel_line`).

## Main statements

- `Term.text_rel_line`: a relation that holds of the pieces and is kept by concatenation relates
  the text of a term with its line;
- `Term.toList_text_none`: without an indentation the text is the line.
-/

namespace SyntaxDump.Term

open Text (Solid)

/-- The characters of a label with the sign after it. -/
def labelChars (label : Option String) : List Char :=
  match label with
  | none => []
  | some name => name.toList ++ ['=']

mutual

/-- The text of a term on one line. -/
def line : Term → List Char
  | .atom text => text.toList
  | .list items => ['['] ++ lineItems items ++ [']']
  | .call name args => name.toList ++ ['('] ++ lineArgs args ++ [')']

/-- The items of a list. -/
def lineItems : List Term → List Char
  | [] => []
  | t :: rest => line t ++ moreItems rest

/-- The items of a list after the first one. -/
def moreItems : List Term → List Char
  | [] => []
  | t :: rest => [',', ' '] ++ line t ++ moreItems rest

/-- The arguments of a call. -/
def lineArgs : List (Option String × Term) → List Char
  | [] => []
  | (label, t) :: rest => labelChars label ++ line t ++ moreArgs rest

/-- The arguments of a call after the first one. -/
def moreArgs : List (Option String × Term) → List Char
  | [] => []
  | (label, t) :: rest => [',', ' '] ++ (labelChars label ++ line t) ++ moreArgs rest

end

theorem moreItems_eq (items : List Term) :
    moreItems items = items.flatMap fun t => [',', ' '] ++ line t := by
  induction items with
  | nil => rfl
  | cons t rest ih => rw [moreItems, ih, List.flatMap_cons]

/-! ## Pieces -/

/-- Names and numbers are solid. -/
theorem solid_of_isWord {text : String} (h : IsWord text) : Solid text.toList where
  head c hc := by
    have hword := h.chars c (List.mem_of_mem_head? hc)
    rw [Bool.eq_false_iff]
    intro hblank
    have hc : c = ' ' ∨ c = '\t' := by simpa [Text.isBlank] using hblank
    rcases hc with rfl | rfl <;> exact absurd hword (by decide)
  newline hmem := absurd (h.chars '\n' hmem) (by decide)

/-- String literals are solid. -/
private theorem solid_quoted (unprintable : Char → Bool) (cs : List Char) :
    Solid (Literal.quoted unprintable cs) where
  head c hc := by
    obtain rfl := Option.some.inj hc
    rcases Literal.isQuote_delimiter (cs.contains Literal.singleQuote)
      (cs.contains Literal.doubleQuote) with h | h <;> rw [h] <;> decide
  newline := Literal.newline_not_mem_quoted unprintable cs

/-- Atoms are solid. -/
theorem solid_of_isAtom {text : String} (h : IsAtom text) : Solid text.toList := by
  cases h with
  | word h => exact solid_of_isWord h
  | string s =>
    rw [Literal.toList_string]
    exact solid_quoted ..
  | bytes bs =>
    rw [Literal.toList_bytes, Literal.quotedBytes_eq]
    refine ⟨fun c hc => ?_, fun hmem => ?_⟩
    · obtain rfl := Option.some.inj hc
      rfl
    · exact (solid_quoted ..).newline (List.mem_of_ne_of_mem (by decide) hmem)

/-! ## Texts piece by piece -/

section Layout

variable (unit : Option String) (level : Nat)

/-- A list with items opens a level, and its items are separated as on that level. -/
theorem toList_text_list_cons (item : Term) (items : List Term) :
    (text unit level (.list (item :: items))).toList =
      ('[' :: (opening unit (level + 1)).toList) ++ (text unit (level + 1) item).toList ++
        (texts unit (level + 1) items).flatMap
          (fun s => (separator unit (level + 1)).toList ++ s.toList) ++ [']'] := by
  simp [text, texts, Text.toList_intercalate_cons, -String.toList_intercalate]

/-- A call without arguments. -/
theorem toList_text_call_nil (name : String) :
    (text unit level (.call name [])).toList = name.toList ++ ['('] ++ [')'] := by
  simp [text, argTexts, staysInline, String.intercalate_nil]

variable {label : Option String} {t : Term} {args : List (Option String × Term)}

/-- The arguments of a call that stays on its line are separated as on one line. -/
theorem toList_text_call_of_inline (name : String) (h : staysInline ((label, t) :: args)) :
    (text unit level (.call name ((label, t) :: args))).toList =
      name.toList ++ ['('] ++ (labelled label (text unit (level + 1) t)).toList ++
        (argTexts unit (level + 1) args).flatMap (fun s => [',', ' '] ++ s.toList) ++ [')'] := by
  rw [text, if_pos h]
  simp [argTexts, Text.toList_intercalate_cons, -String.toList_intercalate]

/-- The arguments of another call are separated as on the level that it opens. -/
theorem toList_text_call_of_not_inline (name : String) (h : ¬ staysInline ((label, t) :: args)) :
    (text unit level (.call name ((label, t) :: args))).toList =
      name.toList ++ ('(' :: (opening unit (level + 1)).toList) ++
        (labelled label (text unit (level + 1) t)).toList ++
        (argTexts unit (level + 1) args).flatMap
          (fun s => (separator unit (level + 1)).toList ++ s.toList) ++ [')'] := by
  rw [text, if_neg h]
  simp [argTexts, Text.toList_intercalate_cons, -String.toList_intercalate]

end Layout

/-- A relation between texts under a layout and texts on one line that can be shown piece by
piece. -/
structure Pieces (unit : Option String) (R : List Char → List Char → Prop) : Prop where
  append {a a' b b' : List Char} : R a a' → R b b' → R (a ++ b) (a' ++ b')
  solid {cs : List Char} : Solid cs → R cs cs
  separator (level : Nat) : R (separator unit level).toList [',', ' ']
  opening (bracket : Char) (level : Nat) (h : bracket ∈ ['[', '(']) :
    R (bracket :: (opening unit level).toList) [bracket]

section Pieces

variable {unit : Option String} {R : List Char → List Char → Prop} (h : Pieces unit R)

include h

/-- A label is solid, and so is the sign after it. -/
private theorem Pieces.label {label : Option String} (hlabel : ∀ name ∈ label, IsWord name)
    {t : String} {line : List Char} (ht : R t.toList line) :
    R (labelled label t).toList (labelChars label ++ line) := by
  cases label with
  | none => exact ht
  | some name =>
    have hname := h.solid (solid_of_isWord (hlabel name rfl))
    have hsign : R ['='] ['='] := h.solid (by decide)
    rw [labelled, String.toList_append, String.toList_append, labelChars]
    exact h.append (h.append hname hsign) ht

mutual

/-- A relation that holds of the pieces of a text and is kept by concatenation relates the text of
a term with its line. -/
theorem text_rel_line : (t : Term) → t.Lexical → (level : Nat) →
    R (text unit level t).toList t.line
  | .atom t, hlex, level => by
    rw [text, line]
    exact h.solid (solid_of_isAtom hlex)
  | .list [], _, level => by
    rw [text, line, lineItems]
    exact h.solid (by decide)
  | .list (item :: items), hlex, level => by
    -- the layout is attached to the brackets and separators of the line
    have hopen := h.opening '[' (level + 1) (by decide)
    have hclose : R [']'] [']'] := h.solid (by decide)
    have hitem := text_rel_line item hlex.1 (level + 1)
    have hitems := texts_rel_moreItems items hlex.2 (h.separator (level + 1)) (level + 1)
    rw [toList_text_list_cons, line, lineItems, ← List.append_assoc]
    exact h.append (h.append (h.append hopen hitem) hitems) hclose
  | .call name [], hlex, level => by
    have hname := h.solid (solid_of_isWord hlex.1)
    have hopen : R ['('] ['('] := h.solid (by decide)
    have hclose : R [')'] [')'] := h.solid (by decide)
    rw [toList_text_call_nil, line, lineArgs, List.append_nil]
    exact h.append (h.append hname hopen) hclose
  | .call name ((label, t) :: args), hlex, level => by
    obtain ⟨hname, hlabel, ht, hargs⟩ := hlex
    have hname := h.solid (solid_of_isWord hname)
    have hclose : R [')'] [')'] := h.solid (by decide)
    have hfirst := Pieces.label h hlabel (text_rel_line t ht (level + 1))
    rw [line, lineArgs, ← List.append_assoc]
    -- the arguments of a call that stays on its line are separated as on one line
    by_cases hinline : staysInline ((label, t) :: args)
    · have hopen : R ['('] ['('] := h.solid (by decide)
      have hargs := argTexts_rel_moreArgs args hargs (h.solid (by decide)) (level + 1)
      rw [toList_text_call_of_inline unit level name hinline]
      exact h.append (h.append (h.append (h.append hname hopen) hfirst) hargs) hclose
    · have hopen := h.opening '(' (level + 1) (by decide)
      have hargs := argTexts_rel_moreArgs args hargs (h.separator (level + 1)) (level + 1)
      rw [toList_text_call_of_not_inline unit level name hinline]
      exact h.append (h.append (h.append (h.append hname hopen) hfirst) hargs) hclose

/-- The same for the items of a list after the first one. -/
theorem texts_rel_moreItems : (items : List Term) → LexicalItems items →
    {separator : List Char} → R separator [',', ' '] → (level : Nat) →
    R ((texts unit level items).flatMap fun s => separator ++ s.toList) (moreItems items)
  | [], _, _, _, _ => h.solid ⟨nofun, List.not_mem_nil⟩
  | t :: rest, hlex, _, hseparator, level => by
    have hitem := text_rel_line t hlex.1 level
    rw [texts, List.flatMap_cons, moreItems]
    exact h.append (h.append hseparator hitem) (texts_rel_moreItems rest hlex.2 hseparator level)

/-- The same for the arguments of a call after the first one. -/
theorem argTexts_rel_moreArgs : (args : List (Option String × Term)) → LexicalArgs args →
    {separator : List Char} → R separator [',', ' '] → (level : Nat) →
    R ((argTexts unit level args).flatMap fun s => separator ++ s.toList) (moreArgs args)
  | [], _, _, _, _ => h.solid ⟨nofun, List.not_mem_nil⟩
  | (label, t) :: rest, hlex, _, hseparator, level => by
    have harg := Pieces.label h hlex.1 (text_rel_line t hlex.2.1 level)
    rw [argTexts, List.flatMap_cons, moreArgs]
    exact h.append (h.append hseparator harg)
      (argTexts_rel_moreArgs rest hlex.2.2 hseparator level)

end

end Pieces

/-- Without an indentation every piece of a text stands as it is. -/
private theorem pieces_none : Pieces none Eq where
  append := fun ha hb => by rw [ha, hb]
  solid := fun _ => rfl
  separator level := by simp [separator]
  opening _ _ _ := rfl

/-- Without an indentation the text of a term is its line. -/
theorem toList_text_none {t : Term} (h : t.Lexical) (level : Nat) :
    (text none level t).toList = t.line :=
  text_rel_line pieces_none t h level

end SyntaxDump.Term
