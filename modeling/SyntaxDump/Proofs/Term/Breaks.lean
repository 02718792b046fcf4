import SyntaxDump.Proofs.Term.Line

/-!
# Terms on one line and over several

Under an indentation there are line breaks in the text of a list with items, and in that of a call
with more than three arguments or with an argument that is such a list or a call with arguments.
Every other term stands on one line. What decides is the term itself and not the level at which it
stands, and the same holds of each term inside it.

## Main statements

- `Term.newline_mem_text_iff`: which texts have line breaks in them;
- `Term.infix_of_mem_parts`: the texts of the terms inside a term are parts of its text.
-/

namespace SyntaxDump.Term

/-! ## Line breaks -/

/-- Terms that an indentation spreads over several lines. -/
def isSpread : Term → Bool
  | .atom _ => false
  | .list items => !items.isEmpty
  | .call _ args => !staysInline args

theorem argTexts_eq_map (unit : Option String) (level : Nat)
    (args : List (Option String × Term)) :
    argTexts unit level args = args.map fun a => labelled a.1 (text unit level a.2) := by
  induction args with
  | nil => rfl
  | cons a rest ih => rw [argTexts, ih, List.map_cons]

/-- A term that is never spread has no line break in its text. -/
private theorem newline_not_mem_of_isSimple {t : Term} (hlex : t.Lexical) (h : t.isSimple)
    (unit : Option String) (level : Nat) : '\n' ∉ (text unit level t).toList := by
  cases t with
  | atom text => exact (solid_of_isAtom hlex).newline
  | list items =>
    obtain rfl := List.isEmpty_iff.mp h
    rw [text]
    decide
  | call name args =>
    obtain rfl := List.isEmpty_iff.mp h
    have hname := (solid_of_isWord hlex.1).newline
    rw [toList_text_call_nil]
    simp [hname]

/-- A label brings no line break with it. -/
private theorem newline_not_mem_labelled {label : Option String}
    (hlabel : ∀ name ∈ label, IsWord name) {t : String} (h : '\n' ∉ t.toList) :
    '\n' ∉ (labelled label t).toList := by
  cases label with
  | none => exact h
  | some name =>
    have hname := (solid_of_isWord (hlabel name rfl)).newline
    simp [labelled, hname, h]

/-- There is a line break where a level is opened. -/
private theorem newline_mem_opening (unit : String) (level : Nat) :
    '\n' ∈ (opening (some unit) level).toList := by
  simp [opening]

/-- Under an indentation a text has a line break exactly if the term is spread, at whatever level it
stands. -/
theorem newline_mem_text_iff {t : Term} (hlex : t.Lexical) (unit : String) (level : Nat) :
    '\n' ∈ (text (some unit) level t).toList ↔ t.isSpread := by
  cases t with
  | atom text => exact iff_of_false (solid_of_isAtom hlex).newline nofun
  | list items =>
    cases items with
    | nil => exact iff_of_false (newline_not_mem_of_isSimple hlex rfl _ _) nofun
    | cons item items =>
      have hopening := newline_mem_opening unit (level + 1)
      rw [toList_text_list_cons]
      simp [isSpread, hopening]
  | call name args =>
    by_cases hinline : staysInline args
    · -- the arguments are simple, so no line break comes from them
      have hsimple := (Bool.and_eq_true_iff.mp hinline).2
      rw [List.all_eq_true] at hsimple
      have hargs := lexicalArgs_iff.mp hlex.2
      have harg : ∀ s ∈ argTexts (some unit) (level + 1) args, '\n' ∉ s.toList := by
        rw [argTexts_eq_map, List.forall_mem_map]
        intro a ha
        exact newline_not_mem_labelled (hargs a ha).1
          (newline_not_mem_of_isSimple (hargs a ha).2 (hsimple a ha) _ _)
      have hjoin :
          '\n' ∉ (", ".intercalate (argTexts (some unit) (level + 1) args)).toList := by
        intro hmem
        rcases Text.mem_of_mem_intercalate hmem with hseparator | ⟨s, hs, hmem⟩
        · exact absurd hseparator (by decide)
        · exact harg s hs hmem
      have hname := (solid_of_isWord hlex.1).newline
      rw [text, if_pos hinline]
      simp [isSpread, hinline, hname, hjoin, -String.toList_intercalate]
    · have hopening := newline_mem_opening unit (level + 1)
      rw [text, if_neg hinline]
      simp [isSpread, hinline, hopening]

/-! ## The terms inside a term -/

mutual

/-- The term and all terms inside it, each with the level at which it stands. -/
def parts (level : Nat) : Term → List (Nat × Term)
  | .atom text => [(level, .atom text)]
  | .list items => (level, .list items) :: itemParts (level + 1) items
  | .call name args => (level, .call name args) :: argParts (level + 1) args

/-- The items of a list and all terms inside them. -/
def itemParts (level : Nat) : List Term → List (Nat × Term)
  | [] => []
  | t :: rest => parts level t ++ itemParts level rest

/-- The arguments of a call and all terms inside them. -/
def argParts (level : Nat) : List (Option String × Term) → List (Nat × Term)
  | [] => []
  | (_, t) :: rest => parts level t ++ argParts level rest

end

theorem argParts_append (level : Nat) (args more : List (Option String × Term)) :
    argParts level (args ++ more) = argParts level args ++ argParts level more := by
  induction args with
  | nil => rfl
  | cons a rest ih => rw [List.cons_append, argParts, argParts, ih, List.append_assoc]

/-- A term is one of its parts. -/
theorem mem_parts_self (level : Nat) (t : Term) : (level, t) ∈ t.parts level := by
  cases t <;> exact List.mem_cons_self

variable {unit : Option String} {p : Nat × Term}

/-- The items stand in the text of a list. -/
private theorem infix_list {level : Nat} {items : List Term} {s : String}
    (h : s ∈ texts unit (level + 1) items) :
    s.toList <:+: (text unit level (.list items)).toList := by
  cases items with
  | nil => cases h
  | cons item items =>
    have hjoin := Text.infix_intercalate_of_mem (separator unit (level + 1)) h
    refine hjoin.trans ⟨'[' :: (opening unit (level + 1)).toList, [']'], ?_⟩
    simp [text]

/-- The arguments stand in the text of a call. -/
private theorem infix_call {level : Nat} {name : String} {args : List (Option String × Term)}
    {s : String} (h : s ∈ argTexts unit (level + 1) args) :
    s.toList <:+: (text unit level (.call name args)).toList := by
  by_cases hinline : staysInline args
  · refine (Text.infix_intercalate_of_mem ", " h).trans ⟨name.toList ++ ['('], [')'], ?_⟩
    simp [text, hinline]
  · refine (Text.infix_intercalate_of_mem (separator unit (level + 1)) h).trans
      ⟨name.toList ++ '(' :: (opening unit (level + 1)).toList, [')'], ?_⟩
    simp [text, hinline]

/-- A text stands behind its label. -/
private theorem infix_labelled (label : Option String) (t : String) :
    t.toList <:+: (labelled label t).toList := by
  cases label with
  | none => exact List.infix_rfl
  | some name => exact ⟨(name ++ "=").toList, [], by simp [labelled]⟩

mutual

/-- The text of each part of a term stands in the text of the term. -/
theorem infix_of_mem_parts : (t : Term) → {level : Nat} → p ∈ t.parts level →
    (text unit p.1 p.2).toList <:+: (text unit level t).toList
  | .atom _, _, h => by
    obtain rfl := List.mem_singleton.mp h
    exact List.infix_rfl
  | .list items, level, h => by
    rcases List.mem_cons.mp h with rfl | h
    · exact List.infix_rfl
    · obtain ⟨s, hs, hinfix⟩ := exists_infix_of_mem_itemParts items h
      exact hinfix.trans (infix_list hs)
  | .call name args, level, h => by
    rcases List.mem_cons.mp h with rfl | h
    · exact List.infix_rfl
    · obtain ⟨s, hs, hinfix⟩ := exists_infix_of_mem_argParts args h
      exact hinfix.trans (infix_call hs)

/-- The same for the items of a list. -/
theorem exists_infix_of_mem_itemParts : (items : List Term) → {level : Nat} →
    p ∈ itemParts level items →
    ∃ s ∈ texts unit level items, (text unit p.1 p.2).toList <:+: s.toList
  | t :: rest, level, h => by
    rw [texts]
    rcases List.mem_append.mp h with h | h
    · exact ⟨_, List.mem_cons_self, infix_of_mem_parts t h⟩
    · obtain ⟨s, hs, hinfix⟩ := exists_infix_of_mem_itemParts rest h
      exact ⟨s, List.mem_cons_of_mem _ hs, hinfix⟩

/-- The same for the arguments of a call. -/
theorem exists_infix_of_mem_argParts : (args : List (Option String × Term)) → {level : Nat} →
    p ∈ argParts level args →
    ∃ s ∈ argTexts unit level args, (text unit p.1 p.2).toList <:+: s.toList
  | (label, t) :: rest, level, h => by
    rw [argTexts]
    rcases List.mem_append.mp h with h | h
    · exact ⟨_, List.mem_cons_self, (infix_of_mem_parts t h).trans (infix_labelled label _)⟩
    · obtain ⟨s, hs, hinfix⟩ := exists_infix_of_mem_argParts rest h
      exact ⟨s, List.mem_cons_of_mem _ hs, hinfix⟩

end

end SyntaxDump.Term
