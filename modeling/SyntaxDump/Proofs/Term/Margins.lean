import SyntaxDump.Proofs.Term.Line

/-!
# Margins and brackets

How deep a line of a text is nested can be seen without parsing the text: by the brackets that have
been opened before it and not yet closed, those in literals not counted (`Term.Nesting`). In the
text of a term over several lines the margin of each line has this depth. A call that stays on its
line opens a bracket without a line break, so the depth is not the number of line breaks before, and
a literal may contain brackets, quotes and commas in any order.

## Main statements

- `Term.after_quoted`: a literal leaves the open brackets as they are, whatever it contains;
- `Term.margins_text`: the margins in the text of a term, with what follows it.
-/

namespace SyntaxDump.Term

/-! ## Open brackets -/

/-- What has been read of a text: the brackets that are open, the innermost first, and the literal
that has been begun, if there is one. -/
inductive Nesting where
  | outside (brackets : List Char)
  /-- In a literal between quotes of this kind. -/
  | inside (quote : Char) (brackets : List Char)
  /-- In such a literal, after a backslash. -/
  | escaped (quote : Char) (brackets : List Char)
deriving DecidableEq

/-- The bracket that a closing bracket belongs to. -/
def opener? : Char → Option Char
  | ')' => some '('
  | ']' => some '['
  | _ => none

namespace Nesting

/-- Reads a character. A closing bracket closes the innermost open one if they belong together. -/
def next : Nesting → Char → Nesting
  | .outside brackets, c =>
    if Literal.IsQuote c then .inside c brackets
    else if c = '(' ∨ c = '[' then .outside (c :: brackets)
    else match opener? c, brackets with
      | some bracket, innermost :: others =>
        if innermost = bracket then .outside others else .outside brackets
      | _, _ => .outside brackets
  | .inside quote brackets, c =>
    if c = '\\' then .escaped quote brackets
    else if c = quote then .outside brackets
    else .inside quote brackets
  | .escaped quote brackets, _ => .inside quote brackets

/-- Reads some characters. -/
def after (s : Nesting) (cs : List Char) : Nesting := cs.foldl next s

@[simp]
theorem after_nil (s : Nesting) : s.after [] = s := rfl

@[simp]
theorem after_cons (s : Nesting) (c : Char) (cs : List Char) :
    s.after (c :: cs) = (s.next c).after cs := rfl

@[simp]
theorem after_append (s : Nesting) (cs ds : List Char) :
    s.after (cs ++ ds) = (s.after cs).after ds := List.foldl_append

end Nesting

example : (Nesting.outside []).after "F(a=['(', b'\\'[')], G(".toList = .outside ['(', '('] := by
  decide

open Nesting (after_cons after_append)

/-- A word leaves the open brackets as they are. -/
private theorem after_word {w : List Char} (h : ∀ c ∈ w, isWordChar c) (brackets : List Char) :
    (Nesting.outside brackets).after w = .outside brackets := by
  induction w with
  | nil => rfl
  | cons c w ih =>
    obtain ⟨hc, hw⟩ := List.forall_mem_cons.mp h
    -- a character of a word is no quote and no bracket
    have hne {d : Char} (hd : isWordChar d = false) : c ≠ d := by
      rintro rfl
      rw [hc] at hd
      cases hd
    have hquote : ¬ Literal.IsQuote c := not_or.mpr ⟨hne (by decide), hne (by decide)⟩
    have hopen : ¬ (c = '(' ∨ c = '[') := not_or.mpr ⟨hne (by decide), hne (by decide)⟩
    have hclose : opener? c = none := by
      rw [opener?.eq_def]
      split
      · exact absurd rfl (hne (d := ')') (by decide))
      · exact absurd rfl (hne (d := ']') (by decide))
      · rfl
    have hnext : (Nesting.outside brackets).next c = .outside brackets := by
      simp only [Nesting.next, if_neg hquote, if_neg hopen, hclose]
    rw [after_cons, hnext, ih hw]

/-- Characters that neither end a literal nor escape anything. -/
private theorem after_inside {quote : Char} {ds : List Char} (h : ∀ d ∈ ds, d ≠ '\\' ∧ d ≠ quote)
    (brackets : List Char) : (Nesting.inside quote brackets).after ds = .inside quote brackets := by
  induction ds with
  | nil => rfl
  | cons d ds ih =>
    obtain ⟨⟨hslash, hquote⟩, hds⟩ := List.forall_mem_cons.mp h
    rw [after_cons, Nesting.next, if_neg hslash, if_neg hquote, ih hds]

/-- A literal leaves the open brackets as they are, whatever it contains. -/
theorem after_quoted (unprintable : Char → Bool) (content brackets : List Char) :
    (Nesting.outside brackets).after (Literal.quoted unprintable content) = .outside brackets := by
  have hitem {quote : Char} (hquote : Literal.IsQuote quote) (c : Char) :
      (Nesting.inside quote brackets).after (Literal.escapeChar unprintable quote c) =
        .inside quote brackets := by
    rcases Literal.escapeChar_forms unprintable hquote c with
      ⟨hitem, hslash, hne⟩ | ⟨letter, digits, hitem, hdigits⟩
    · rw [hitem]
      exact after_inside (List.forall_mem_singleton.mpr ⟨hslash, hne⟩) brackets
    · rw [hitem]
      exact after_inside hdigits brackets
  have hcontent {quote : Char} (hquote : Literal.IsQuote quote) :
      (Nesting.inside quote brackets).after
        (content.flatMap (Literal.escapeChar unprintable quote)) = .inside quote brackets := by
    induction content with
    | nil => rfl
    | cons c content ih => rw [List.flatMap_cons, after_append, hitem hquote, ih]
  have hends {quote : Char} (hquote : Literal.IsQuote quote) :
      (Nesting.outside brackets).next quote = .inside quote brackets ∧
        (Nesting.inside quote brackets).next quote = .outside brackets := by
    rcases hquote with rfl | rfl <;> exact ⟨rfl, rfl⟩
  have hquote := Literal.isQuote_delimiter (content.contains Literal.singleQuote)
    (content.contains Literal.doubleQuote)
  rw [Literal.quoted, after_cons, (hends hquote).1, after_append, hcontent hquote, after_cons,
    (hends hquote).2]
  rfl

/-- An atom leaves the open brackets as they are. -/
private theorem after_atom {text : String} (h : IsAtom text) (brackets : List Char) :
    (Nesting.outside brackets).after text.toList = .outside brackets := by
  cases h with
  | word h => exact after_word h.chars brackets
  | string s =>
    rw [Literal.toList_string]
    exact after_quoted ..
  | bytes bs =>
    rw [Literal.toList_bytes, Literal.quotedBytes_eq, after_cons]
    exact after_quoted ..

/-! ## Margins -/

/-- Every line break of a text comes right after an opening bracket or a comma outside of literals,
and the line after it begins with `n` spaces for each bracket that is open there. -/
def Margins (n : Nat) (s : Nesting) (cs : List Char) : Prop :=
  ∀ before after, cs = before ++ '\n' :: after →
    ∃ front mark brackets, before = front ++ [mark] ∧ mark ∈ ['(', '[', ','] ∧
      (∃ others, s.after front = .outside others) ∧ s.after before = .outside brackets ∧
      (after.takeWhile (· == ' ')).length = n * brackets.length

namespace Margins

variable {n : Nat} {s : Nesting} {cs : List Char}

theorem nil : Margins n s [] := by
  intro before after h
  simp at h

/-- A character that is no line break. -/
theorem cons {c : Char} (hc : c ≠ '\n') (h : Margins n (s.next c) cs) : Margins n s (c :: cs) := by
  intro before after heq
  cases before with
  | nil => exact absurd (List.cons.inj heq).1 hc
  | cons d before =>
    obtain ⟨rfl, htail⟩ := List.cons.inj heq
    obtain ⟨front, mark, brackets, rfl, hmark, hfront, hbefore, hmargin⟩ := h before after htail
    exact ⟨c :: front, mark, brackets, rfl, hmark, hfront, hbefore, hmargin⟩

/-- Characters none of which is a line break. -/
theorem append {ds : List Char} (hds : '\n' ∉ ds) (h : Margins n (s.after ds) cs) :
    Margins n s (ds ++ cs) := by
  induction ds generalizing s with
  | nil => exact h
  | cons d ds ih =>
    obtain ⟨hd, hds⟩ := not_or.mp fun hmem => hds (List.mem_cons.mpr hmem)
    exact cons (Ne.symm hd) (ih hds h)

/-- A line break after a bracket or a comma, with its margin. -/
theorem newline {mark : Char} {others : List Char} (brackets : List Char)
    (hmark : mark ∈ ['(', '[', ','])
    (hnext : (Nesting.outside others).next mark = .outside brackets)
    (hcs : cs.head? ≠ some ' ') (h : Margins n (.outside brackets) cs) :
    Margins n (.outside others)
      (mark :: '\n' :: (List.replicate (n * brackets.length) ' ' ++ cs)) := by
  have hblank : '\n' ∉ List.replicate (n * brackets.length) ' ' := fun hmem =>
    absurd (List.eq_of_mem_replicate hmem) (by decide)
  -- spaces leave the open brackets as they are
  have hspaces (k : Nat) : (Nesting.outside brackets).after (List.replicate k ' ') =
      .outside brackets := by
    induction k with
    | zero => rfl
    | succ k ih => exact ih
  have hmore : Margins n ((Nesting.outside brackets).next '\n')
      (List.replicate (n * brackets.length) ' ' ++ cs) :=
    append hblank ((hspaces _).symm ▸ h)
  intro before after heq
  match before with
  | [] =>
    obtain ⟨rfl, -⟩ := List.cons.inj heq
    exact absurd hmark (by decide)
  | [d] =>
    -- this is the line break itself, and the spaces end with the margin
    obtain ⟨rfl, htail⟩ := List.cons.inj heq
    obtain ⟨-, rfl⟩ := List.cons.inj htail
    refine ⟨[], mark, brackets, rfl, hmark, ⟨others, rfl⟩, hnext, ?_⟩
    have hend : cs.takeWhile (· == ' ') = [] := by
      cases cs with
      | nil => rfl
      | cons c cs =>
        have hc : (c == ' ') = false := by simpa using hcs
        rw [List.takeWhile_cons, hc]
        rfl
    rw [List.takeWhile_append_of_pos (by simp), hend, List.append_nil, List.length_replicate]
  | d :: e :: before =>
    obtain ⟨rfl, htail⟩ := List.cons.inj heq
    obtain ⟨rfl, htail'⟩ := List.cons.inj htail
    obtain ⟨front, mark', brackets', rfl, hmark', hfront, hbefore, hmargin⟩ :=
      hmore before after htail'
    refine ⟨mark :: '\n' :: front, mark', brackets', rfl, hmark', ?_, ?_, hmargin⟩
    · rwa [after_cons, hnext]
    · rwa [after_cons, hnext]

end Margins

/-! ## Terms -/

/-- The text of a term does not begin with a space. -/
private theorem head_text {unit : Option String} {level : Nat} {t : Term} (h : t.Lexical)
    (x : List Char) : ((text unit level t).toList ++ x).head? ≠ some ' ' := by
  have hcons {c : Char} (hc : c ≠ ' ') (cs : List Char) : (c :: cs).head? ≠ some ' ' :=
    fun hhead => hc (Option.some.inj hhead)
  have hword {w : String} (hw : IsWord w) (y : List Char) : (w.toList ++ y).head? ≠ some ' ' := by
    cases hchars : w.toList with
    | nil => exact absurd hchars hw.nonempty
    | cons c cs =>
      have hc := hw.chars c (hchars ▸ List.mem_cons_self)
      refine hcons ?_ _
      rintro rfl
      exact absurd hc (by decide)
  cases t with
  | atom text =>
    rw [Term.text]
    cases h with
    | word h => exact hword h x
    | string s =>
      rw [Literal.toList_string, Literal.quoted]
      rcases Literal.isQuote_delimiter (s.toList.contains Literal.singleQuote)
        (s.toList.contains Literal.doubleQuote) with h | h <;> rw [h] <;> exact hcons (by decide) _
    | bytes bs =>
      rw [Literal.toList_bytes, Literal.quotedBytes_eq]
      exact hcons (by decide) _
  | list items =>
    cases items with
    | nil =>
      rw [text]
      exact hcons (by decide) _
    | cons item items =>
      rw [toList_text_list_cons]
      exact hcons (by decide) _
  | call name args =>
    obtain ⟨rest, hrest⟩ : ∃ rest, (text unit level (.call name args)).toList =
        name.toList ++ rest := by
      rw [text]
      split <;> simp only [String.toList_append, List.append_assoc] <;> exact ⟨_, rfl⟩
    rw [hrest, List.append_assoc]
    exact hword h.1 _

/-- A line begins with a margin for its level. -/
private theorem toList_margin (n level : Nat) :
    (Text.times (Text.times " " n) level).toList = List.replicate (n * level) ' ' := by
  have hspaces (n : Nat) : (Text.times " " n).toList = List.replicate n ' ' := by
    induction n with
    | zero => rfl
    | succ n ih => rw [Text.times, String.toList_append, ih]; rfl
  induction level with
  | zero => rfl
  | succ level ih =>
    rw [Text.times, String.toList_append, ih, hspaces, List.replicate_append_replicate,
      Nat.mul_succ, Nat.add_comm]

section Text

variable {n : Nat} {brackets x : List Char}

/-- What can stand between the arguments of a call or the items of a list. -/
private def Separates (n : Nat) (brackets separator : List Char) : Prop :=
  ∀ cs, cs.head? ≠ some ' ' → Margins n (.outside brackets) cs →
    Margins n (.outside brackets) (separator ++ cs)

private theorem separates_comma_space : Separates n brackets [',', ' '] := fun _ _ h =>
  .cons (by decide) (.cons (by decide) h)

private theorem separates_separator :
    Separates n brackets (separator (some (Text.times " " n)) brackets.length).toList := by
  intro cs hcs h
  rw [separator, String.toList_append, toList_margin]
  exact .newline brackets (by decide) rfl hcs h

/-- An opening bracket with a line break after it. -/
private theorem margins_opening {bracket : Char} (h : bracket ∈ ['(', '['])
    (hx : x.head? ≠ some ' ') (hmargins : Margins n (.outside (bracket :: brackets)) x) :
    Margins n (.outside brackets)
      (bracket :: (opening (some (Text.times " " n)) (brackets.length + 1)).toList ++ x) := by
  rw [opening, String.toList_append, toList_margin]
  refine .newline (bracket :: brackets) ?_ ?_ hx hmargins
  · exact (by decide : ['(', '['] ⊆ ['(', '[', ',']) h
  · simp only [List.mem_cons, List.not_mem_nil, or_false] at h
    rcases h with rfl | rfl <;> rfl

/-- A label and the sign after it. -/
private theorem margins_labelled {label : Option String} (hlabel : ∀ name ∈ label, IsWord name)
    {t : String} (h : Margins n (.outside brackets) (t.toList ++ x)) :
    Margins n (.outside brackets) ((labelled label t).toList ++ x) := by
  cases label with
  | none => exact h
  | some name =>
    have hname := hlabel name rfl
    have hsign : Margins n (.outside brackets) ('=' :: (t.toList ++ x)) := .cons (by decide) h
    rw [labelled, String.toList_append, String.toList_append, List.append_assoc, List.append_assoc]
    exact .append (solid_of_isWord hname).newline ((after_word hname.chars _).symm ▸ hsign)

/-- A labelled text does not begin with a space. -/
private theorem head_labelled {label : Option String} (hlabel : ∀ name ∈ label, IsWord name)
    {unit : Option String} {level : Nat} {t : Term} (h : t.Lexical) (x : List Char) :
    ((labelled label (text unit level t)).toList ++ x).head? ≠ some ' ' := by
  cases label with
  | none => exact head_text h x
  | some name =>
    -- a label is a word like an atom
    have hword : (Term.atom name).Lexical := IsAtom.word (hlabel name rfl)
    have hname (y : List Char) : ((text unit level (.atom name)).toList ++ y).head? ≠ some ' ' :=
      head_text hword y
    rw [text] at hname
    rw [labelled, String.toList_append, String.toList_append, List.append_assoc, List.append_assoc]
    exact hname _

mutual

/-- The margins in the text of a term, where brackets are open according to its level. -/
theorem margins_text : (t : Term) → t.Lexical → (brackets : List Char) → {x : List Char} →
    Margins n (.outside brackets) x →
    Margins n (.outside brackets)
      ((text (some (Text.times " " n)) brackets.length t).toList ++ x)
  | .atom t, hlex, brackets, x, hx => by
    rw [text]
    exact .append (solid_of_isAtom hlex).newline ((after_atom hlex brackets).symm ▸ hx)
  | .list [], _, brackets, x, hx => by
    rw [text]
    exact .cons (by decide) (.cons (by decide) hx)
  | .list (item :: items), hlex, brackets, x, hx => by
    rw [toList_text_list_cons]
    simp only [List.append_assoc]
    refine margins_opening (by decide) (head_text hlex.1 _) ?_
    -- from here to the closing bracket one more bracket is open
    refine margins_text item hlex.1 ('[' :: brackets) ?_
    exact margins_texts items hlex.2 _ separates_separator (.cons (by decide) hx)
  | .call name [], hlex, brackets, x, hx => by
    rw [toList_text_call_nil]
    simp only [List.append_assoc]
    refine .append (solid_of_isWord hlex.1).newline ?_
    rw [after_word hlex.1.chars]
    exact .cons (by decide) (.cons (by decide) hx)
  | .call name ((label, t) :: args), hlex, brackets, x, hx => by
    obtain ⟨hname, hlabel, ht, hargs⟩ := hlex
    have hclose : Margins n (.outside ('(' :: brackets)) (')' :: x) := .cons (by decide) hx
    by_cases hinline : staysInline ((label, t) :: args)
    · rw [toList_text_call_of_inline _ _ name hinline]
      simp only [List.append_assoc]
      refine .append (solid_of_isWord hname).newline ?_
      rw [after_word hname.chars]
      -- the bracket is open, although no line begins here
      refine .cons (by decide) (margins_labelled hlabel ?_)
      refine margins_text t ht ('(' :: brackets) ?_
      exact margins_argTexts args hargs _ separates_comma_space hclose
    · rw [toList_text_call_of_not_inline _ _ name hinline]
      simp only [List.append_assoc]
      refine .append (solid_of_isWord hname).newline ?_
      rw [after_word hname.chars]
      refine margins_opening (by decide) (head_labelled hlabel ht _) (margins_labelled hlabel ?_)
      refine margins_text t ht ('(' :: brackets) ?_
      exact margins_argTexts args hargs _ separates_separator hclose

/-- The same for the items of a list after the first one. -/
theorem margins_texts : (items : List Term) → LexicalItems items → (brackets : List Char) →
    {x separator : List Char} → Separates n brackets separator →
    Margins n (.outside brackets) x →
    Margins n (.outside brackets)
      ((texts (some (Text.times " " n)) brackets.length items).flatMap
        (fun s => separator ++ s.toList) ++ x)
  | [], _, _, _, _, _, hx => hx
  | t :: rest, hlex, brackets, _, _, hseparator, hx => by
    rw [texts, List.flatMap_cons]
    simp only [List.append_assoc]
    refine hseparator _ (head_text hlex.1 _) (margins_text t hlex.1 brackets ?_)
    exact margins_texts rest hlex.2 brackets hseparator hx

/-- The same for the arguments of a call after the first one. -/
theorem margins_argTexts : (args : List (Option String × Term)) → LexicalArgs args →
    (brackets : List Char) → {x separator : List Char} → Separates n brackets separator →
    Margins n (.outside brackets) x →
    Margins n (.outside brackets)
      ((argTexts (some (Text.times " " n)) brackets.length args).flatMap
        (fun s => separator ++ s.toList) ++ x)
  | [], _, _, _, _, _, hx => hx
  | (label, t) :: rest, hlex, brackets, _, _, hseparator, hx => by
    obtain ⟨hlabel, ht, hrest⟩ := hlex
    rw [argTexts, List.flatMap_cons]
    simp only [List.append_assoc]
    refine hseparator _ (head_labelled hlabel ht _) (margins_labelled hlabel ?_)
    refine margins_text t ht brackets ?_
    exact margins_argTexts rest hrest brackets hseparator hx

end

end Text

end SyntaxDump.Term
