import SyntaxDump.Proofs.Literal.Reading
import SyntaxDump.Proofs.Term.Line

/-!
# Lines determine terms

The language of terms on one line is unambiguous: a line can be told apart from what follows it, if
that is nothing, a comma or a closing bracket, and it determines its term. What a literal contains
does not matter to this, since literals are told apart from whatever follows them. Which form a term
has is seen from its first word and the character after it (`Shape.of`).

## Main statements

- `Term.shape_mem_shapes`: the form of a term is seen from its line;
- `Term.line_append_inj`: the line of a term is told apart from what follows it.
-/

namespace SyntaxDump.Term

/-! ## First words -/

/-- A text that begins with a character of no word does not go on with a word. -/
theorem isWordChar_head {c : Char} (hc : isWordChar c = false) (cs : List Char) :
    ∀ d ∈ (c :: cs).head?, isWordChar d = false := by
  rintro d hd
  exact Option.some.inj hd ▸ hc

/-- The characters after the word that a text begins with. -/
private theorem dropWhile_append {w z : List Char} (hw : ∀ c ∈ w, isWordChar c)
    (hz : ∀ c ∈ z.head?, isWordChar c = false) : (w ++ z).dropWhile isWordChar = z := by
  induction w with
  | nil =>
    cases z with
    | nil => rfl
    | cons c z => rw [List.nil_append, List.dropWhile_cons, hz c rfl]; rfl
  | cons c w ih =>
    obtain ⟨hc, hw⟩ := List.forall_mem_cons.mp hw
    rw [List.cons_append, List.dropWhile_cons, if_pos hc, ih hw]

/-- A word is told apart from what follows it, if that does not go on with the word. -/
theorem word_append_inj {w w' z z' : List Char} (hw : ∀ c ∈ w, isWordChar c)
    (hw' : ∀ c ∈ w', isWordChar c) (hz : ∀ c ∈ z.head?, isWordChar c = false)
    (hz' : ∀ c ∈ z'.head?, isWordChar c = false) (h : w ++ z = w' ++ z') : w = w' ∧ z = z' := by
  -- what follows the word is found without knowing the word
  have hrest : z = z' := by rw [← dropWhile_append hw hz, h, dropWhile_append hw' hz']
  subst hrest
  exact ⟨List.append_cancel_right h, rfl⟩

/-! ## Shapes -/

/-- What a text begins with. -/
inductive Shape where
  | word
  | string
  | bytes
  | list
  | call
  | label
  /-- Nothing that is a part of a term. -/
  | stop
deriving DecidableEq

/-- What a text begins with, from whether it begins with a word and from the character after
that. -/
def Shape.of (cs : List Char) : Shape :=
  let isWord := cs.head?.any isWordChar
  match (cs.dropWhile isWordChar).head? with
  | some '(' => .call
  | some '=' => .label
  | some '[' => .list
  | some '\x27' => if isWord then .bytes else .string
  | some '\x22' => if isWord then .bytes else .string
  | _ => if isWord then .word else .stop

/-- What may follow a term. -/
def Stops (cs : List Char) : Prop := ∀ c ∈ cs.head?, c ∈ [',', ')', ']']

/-- The shapes that the line of a term can have. -/
def shapes : Term → List Shape
  | .atom _ => [.word, .string, .bytes]
  | .list _ => [.list]
  | .call _ _ => [.call]

/-- What stops a term is no part of a word. -/
private theorem Stops.isWordChar_eq_false {x : List Char} (hx : Stops x) :
    ∀ c ∈ x.head?, isWordChar c = false := by
  intro c hc
  have hmark := hx c hc
  simp only [List.mem_cons, List.not_mem_nil, or_false] at hmark
  rcases hmark with rfl | rfl | rfl <;> rfl

/-- The shape of a text that begins with a word is told by the character after it. -/
private theorem shape_word_append {name : String} (hname : IsWord name) {z : List Char}
    (hz : ∀ c ∈ z.head?, isWordChar c = false) :
    Shape.of (name.toList ++ z) = match z.head? with
      | some '(' => .call
      | some '=' => .label
      | some '[' => .list
      | some '\x27' => .bytes
      | some '\x22' => .bytes
      | _ => .word := by
  -- a word is not empty, so the text begins with a character of a word
  have hword : (name.toList ++ z).head?.any isWordChar = true := by
    cases hchars : name.toList with
    | nil => exact absurd hchars hname.nonempty
    | cons c cs => exact hname.chars c (hchars ▸ List.mem_cons_self)
  rw [Shape.of, dropWhile_append hname.chars hz, hword]
  rfl

/-- A text that may follow a term is not the beginning of one. -/
private theorem shape_stops {x : List Char} (hx : Stops x) : Shape.of x = .stop := by
  cases x with
  | nil => rfl
  | cons c x =>
    have hc := hx c rfl
    simp only [List.mem_cons, List.not_mem_nil, or_false] at hc
    rcases hc with rfl | rfl | rfl <;> rfl

/-- A string literal begins with a quote. -/
private theorem shape_quoted (unprintable : Char → Bool) (cs x : List Char) :
    Shape.of (Literal.quoted unprintable cs ++ x) = .string := by
  rw [Literal.quoted]
  rcases Literal.isQuote_delimiter (cs.contains Literal.singleQuote)
    (cs.contains Literal.doubleQuote) with h | h <;> rw [h] <;> rfl

/-- What begins with a word and does not go on with a bracket, a sign or a quote. -/
theorem shape_word {text : String} (h : IsWord text) {x : List Char} (hx : Stops x) :
    Shape.of (text.toList ++ x) = .word := by
  rw [shape_word_append h hx.isWordChar_eq_false]
  cases x with
  | nil => rfl
  | cons c x =>
    have hc := hx c rfl
    simp only [List.mem_cons, List.not_mem_nil, or_false] at hc
    rcases hc with rfl | rfl | rfl <;> rfl

/-- What begins with a string literal. -/
theorem shape_string (s : String) (x : List Char) :
    Shape.of ((Literal.string s).toList ++ x) = .string := by
  rw [Literal.toList_string]
  exact shape_quoted ..

/-- What begins with a bytes literal. -/
theorem shape_bytes (bs : List UInt8) (x : List Char) :
    Shape.of ((Literal.bytes bs).toList ++ x) = .bytes := by
  rw [Literal.toList_bytes, Literal.quotedBytes_eq, Literal.quoted]
  rcases Literal.isQuote_delimiter ((bs.map Literal.byteChar).contains Literal.singleQuote)
    ((bs.map Literal.byteChar).contains Literal.doubleQuote) with h | h <;> rw [h] <;> rfl

/-- The form of a term is seen from its line. -/
theorem shape_mem_shapes {t : Term} (h : t.Lexical) {x : List Char} (hx : Stops x) :
    Shape.of (t.line ++ x) ∈ t.shapes := by
  cases t with
  | atom text =>
    rw [line, shapes]
    cases h with
    | word h => rw [shape_word h hx]; decide
    | string s => rw [shape_string]; decide
    | bytes bs => rw [shape_bytes]; decide
  | list items =>
    rw [shapes, List.mem_singleton]
    rfl
  | call name args =>
    rw [shapes, List.mem_singleton, line, List.append_assoc, List.append_assoc, List.append_assoc]
    exact shape_word_append h.1 (isWordChar_head (by decide) _)

/-- Terms with the same text have the same shapes. -/
private theorem shapes_inter {s t : Term} (hs : s.Lexical) (ht : t.Lexical) {x y : List Char}
    (hx : Stops x) (hy : Stops y) (h : s.line ++ x = t.line ++ y) :
    ∃ shape, shape ∈ s.shapes ∧ shape ∈ t.shapes :=
  ⟨_, shape_mem_shapes hs hx, h ▸ shape_mem_shapes ht hy⟩

/-! ## Atoms and labels -/

/-- Atoms are told apart from what follows them. -/
private theorem atom_append_inj {s t : String} (hs : IsAtom s) (ht : IsAtom t) {x y : List Char}
    (hx : Stops x) (hy : Stops y) (h : s.toList ++ x = t.toList ++ y) : s = t ∧ x = y := by
  -- the shape tells words, strings and bytes apart
  have hshape := congrArg Shape.of h
  cases hs with
  | word hs =>
    rw [shape_word hs hx] at hshape
    cases ht with
    | word ht =>
      obtain ⟨htext, hrest⟩ := word_append_inj hs.chars ht.chars hx.isWordChar_eq_false
        hy.isWordChar_eq_false h
      exact ⟨String.toList_inj.mp htext, hrest⟩
    | string t => rw [shape_string] at hshape; cases hshape
    | bytes bs => rw [shape_bytes] at hshape; cases hshape
  | string s =>
    rw [shape_string] at hshape
    cases ht with
    | word ht => rw [shape_word ht hy] at hshape; cases hshape
    | string t =>
      obtain ⟨rfl, hrest⟩ := Literal.string_append_inj h
      exact ⟨rfl, hrest⟩
    | bytes bs => rw [shape_bytes] at hshape; cases hshape
  | bytes as =>
    rw [shape_bytes] at hshape
    cases ht with
    | word ht => rw [shape_word ht hy] at hshape; cases hshape
    | string t => rw [shape_string] at hshape; cases hshape
    | bytes bs =>
      obtain ⟨rfl, hrest⟩ := Literal.bytes_append_inj h
      exact ⟨rfl, hrest⟩

/-- A label is seen from the sign after it. -/
private theorem shape_label {name : String} (h : IsWord name) (z : List Char) :
    Shape.of (labelChars (some name) ++ z) = .label := by
  rw [labelChars, List.append_assoc]
  exact shape_word_append h (isWordChar_head (by decide) z)

/-- A label is told apart from the argument that follows it, and from an argument without one. -/
private theorem label_append_inj {a b : Option String} (ha : ∀ name ∈ a, IsWord name)
    (hb : ∀ name ∈ b, IsWord name) {s t : Term} (hs : s.Lexical) (ht : t.Lexical)
    {x y : List Char} (hx : Stops x) (hy : Stops y)
    (h : labelChars a ++ (s.line ++ x) = labelChars b ++ (t.line ++ y)) :
    a = b ∧ s.line ++ x = t.line ++ y := by
  have hterm {t : Term} (ht : t.Lexical) {x : List Char} (hx : Stops x) :
      Shape.of (t.line ++ x) ≠ .label := by
    have hmem := shape_mem_shapes ht hx
    intro heq
    rw [heq] at hmem
    cases t <;> simp [shapes] at hmem
  -- a word with the sign after it is the beginning of no term
  have hshape := congrArg Shape.of h
  cases a with
  | none =>
    cases b with
    | none => exact ⟨rfl, h⟩
    | some name =>
      rw [shape_label (hb name rfl)] at hshape
      exact absurd hshape (hterm hs hx)
  | some name =>
    rw [shape_label (ha name rfl)] at hshape
    cases b with
    | none => exact absurd hshape.symm (hterm ht hy)
    | some name' =>
      simp only [labelChars, List.append_assoc, List.singleton_append] at h
      have hsign := isWordChar_head (by decide : isWordChar '=' = false)
      obtain ⟨hname, hrest⟩ := word_append_inj (ha name rfl).chars (hb name' rfl).chars (hsign _)
        (hsign _) h
      exact ⟨congrArg some (String.toList_inj.mp hname), (List.cons.inj hrest).2⟩

/-- The name of a call is told apart from its arguments. -/
private theorem name_append_inj {a b : String} (ha : IsWord a) (hb : IsWord b) {x y : List Char}
    (h : a.toList ++ (['('] ++ x) = b.toList ++ (['('] ++ y)) : a = b ∧ x = y := by
  have hopen := isWordChar_head (by decide : isWordChar '(' = false)
  obtain ⟨hname, hrest⟩ := word_append_inj ha.chars hb.chars (hopen _) (hopen _) h
  exact ⟨String.toList_inj.mp hname, (List.cons.inj hrest).2⟩

/-! ## Terms -/

/-- What follows an item of a list stops it. -/
theorem stops_moreItems (items : List Term) (x : List Char) :
    Stops (moreItems items ++ ']' :: x) := by
  cases items <;> exact fun c hc => Option.some.inj hc ▸ by decide

/-- What follows an argument of a call stops it. -/
theorem stops_moreArgs (args : List (Option String × Term)) (x : List Char) :
    Stops (moreArgs args ++ ')' :: x) := by
  cases args <;> exact fun c hc => Option.some.inj hc ▸ by decide

/-- A term does not begin with what may follow one. -/
private theorem line_append_ne {t : Term} (ht : t.Lexical) {x y : List Char} (hx : Stops x)
    (hy : Stops y) : t.line ++ x ≠ y := by
  intro h
  have hmem := shape_mem_shapes ht hx
  rw [h, shape_stops hy] at hmem
  cases t <;> simp [shapes] at hmem

/-- Neither does an argument with a label or without. -/
private theorem label_line_append_ne {label : Option String} (hlabel : ∀ name ∈ label, IsWord name)
    {t : Term} (ht : t.Lexical) {x y : List Char} (hx : Stops x) (hy : Stops y) :
    labelChars label ++ (t.line ++ x) ≠ y := by
  cases label with
  | none => exact line_append_ne ht hx hy
  | some name =>
    intro h
    have hshape := shape_stops hy
    rw [← h, shape_label (hlabel name rfl)] at hshape
    cases hshape

mutual

/-- The line of a term is told apart from what follows it, and determines the term. -/
theorem line_append_inj : (s t : Term) → s.Lexical → t.Lexical → {x y : List Char} → Stops x →
    Stops y → s.line ++ x = t.line ++ y → s = t ∧ x = y
  | .atom a, .atom b, hs, ht, x, y, hx, hy, h => by
    rw [line, line] at h
    obtain ⟨rfl, hrest⟩ := atom_append_inj hs ht hx hy h
    exact ⟨rfl, hrest⟩
  | .list ss, .list ts, hs, ht, x, y, _, _, h => by
    simp only [line, List.append_assoc] at h
    obtain ⟨rfl, hrest⟩ := lineItems_append_inj ss ts hs ht (List.append_cancel_left h)
    exact ⟨rfl, hrest⟩
  | .call a ss, .call b ts, hs, ht, x, y, _, _, h => by
    simp only [line, List.append_assoc] at h
    obtain ⟨rfl, hargs⟩ := name_append_inj hs.1 ht.1 h
    obtain ⟨rfl, hrest⟩ := lineArgs_append_inj ss ts hs.2 ht.2 hargs
    exact ⟨rfl, hrest⟩
  -- terms of different forms have different shapes
  | .atom _, .list _, hs, ht, _, _, hx, hy, h
  | .atom _, .call _ _, hs, ht, _, _, hx, hy, h
  | .list _, .atom _, hs, ht, _, _, hx, hy, h
  | .list _, .call _ _, hs, ht, _, _, hx, hy, h
  | .call _ _, .atom _, hs, ht, _, _, hx, hy, h
  | .call _ _, .list _, hs, ht, _, _, hx, hy, h => by
    have hshapes := shapes_inter hs ht hx hy h
    simp [shapes] at hshapes

/-- The items of a list and the closing bracket. -/
theorem lineItems_append_inj : (ss ts : List Term) → LexicalItems ss → LexicalItems ts →
    {x y : List Char} → lineItems ss ++ ([']'] ++ x) = lineItems ts ++ ([']'] ++ y) →
    ss = ts ∧ x = y
  | [], [], _, _, _, _, h => ⟨rfl, List.append_cancel_left h⟩
  | [], t :: ts, _, ht, x, y, h => by
    rw [lineItems.eq_2, List.append_assoc] at h
    exact absurd h.symm (line_append_ne ht.1 (stops_moreItems ts y)
      (stops_moreItems [] x))
  | s :: ss, [], hs, _, x, y, h => by
    rw [lineItems.eq_2, List.append_assoc] at h
    exact absurd h (line_append_ne hs.1 (stops_moreItems ss x)
      (stops_moreItems [] y))
  | s :: ss, t :: ts, hs, ht, x, y, h => by
    rw [lineItems, lineItems, List.append_assoc, List.append_assoc] at h
    obtain ⟨rfl, hmore⟩ := line_append_inj s t hs.1 ht.1 (stops_moreItems ss x)
      (stops_moreItems ts y) h
    obtain ⟨rfl, hrest⟩ := moreItems_append_inj ss ts hs.2 ht.2 hmore
    exact ⟨rfl, hrest⟩

/-- The items of a list after the first one and the closing bracket. -/
theorem moreItems_append_inj : (ss ts : List Term) → LexicalItems ss → LexicalItems ts →
    {x y : List Char} → moreItems ss ++ ([']'] ++ x) = moreItems ts ++ ([']'] ++ y) →
    ss = ts ∧ x = y
  | [], [], _, _, _, _, h => ⟨rfl, List.append_cancel_left h⟩
  | [], t :: ts, _, _, _, _, h => absurd (List.cons.inj h).1 (by decide)
  | s :: ss, [], _, _, _, _, h => absurd (List.cons.inj h).1 (by decide)
  | s :: ss, t :: ts, hs, ht, x, y, h => by
    simp only [moreItems, List.append_assoc] at h
    obtain ⟨rfl, hmore⟩ := line_append_inj s t hs.1 ht.1 (stops_moreItems ss x)
      (stops_moreItems ts y) (List.append_cancel_left h)
    obtain ⟨rfl, hrest⟩ := moreItems_append_inj ss ts hs.2 ht.2 hmore
    exact ⟨rfl, hrest⟩

/-- The arguments of a call and the closing bracket. -/
theorem lineArgs_append_inj : (ss ts : List (Option String × Term)) → LexicalArgs ss →
    LexicalArgs ts → {x y : List Char} → lineArgs ss ++ ([')'] ++ x) = lineArgs ts ++ ([')'] ++ y) →
    ss = ts ∧ x = y
  | [], [], _, _, _, _, h => ⟨rfl, List.append_cancel_left h⟩
  | [], (label, t) :: ts, _, ht, x, y, h => by
    rw [lineArgs.eq_2, List.append_assoc, List.append_assoc] at h
    exact absurd h.symm (label_line_append_ne ht.1 ht.2.1 (stops_moreArgs ts y)
      (stops_moreArgs [] x))
  | (label, s) :: ss, [], hs, _, x, y, h => by
    rw [lineArgs.eq_2, List.append_assoc, List.append_assoc] at h
    exact absurd h (label_line_append_ne hs.1 hs.2.1 (stops_moreArgs ss x)
      (stops_moreArgs [] y))
  | (label, s) :: ss, (label', t) :: ts, hs, ht, x, y, h => by
    simp only [lineArgs, List.append_assoc] at h
    obtain ⟨hlabel, hs, hss⟩ := hs
    obtain ⟨hlabel', ht, hts⟩ := ht
    obtain ⟨rfl, hfirst⟩ := label_append_inj hlabel hlabel' hs ht (stops_moreArgs ss x)
      (stops_moreArgs ts y) h
    obtain ⟨rfl, hmore⟩ := line_append_inj s t hs ht (stops_moreArgs ss x) (stops_moreArgs ts y)
      hfirst
    obtain ⟨rfl, hrest⟩ := moreArgs_append_inj ss ts hss hts hmore
    exact ⟨rfl, hrest⟩

/-- The arguments of a call after the first one and the closing bracket. -/
theorem moreArgs_append_inj : (ss ts : List (Option String × Term)) → LexicalArgs ss →
    LexicalArgs ts → {x y : List Char} → moreArgs ss ++ ([')'] ++ x) = moreArgs ts ++ ([')'] ++ y) →
    ss = ts ∧ x = y
  | [], [], _, _, _, _, h => ⟨rfl, List.append_cancel_left h⟩
  | [], t :: ts, _, _, _, _, h => absurd (List.cons.inj h).1 (by decide)
  | s :: ss, [], _, _, _, _, h => absurd (List.cons.inj h).1 (by decide)
  | (label, s) :: ss, (label', t) :: ts, hs, ht, x, y, h => by
    simp only [moreArgs, List.append_assoc] at h
    obtain ⟨hlabel, hs, hss⟩ := hs
    obtain ⟨hlabel', ht, hts⟩ := ht
    obtain ⟨rfl, hfirst⟩ := label_append_inj hlabel hlabel' hs ht (stops_moreArgs ss x)
      (stops_moreArgs ts y) (List.append_cancel_left h)
    obtain ⟨rfl, hmore⟩ := line_append_inj s t hs ht (stops_moreArgs ss x) (stops_moreArgs ts y)
      hfirst
    obtain ⟨rfl, hrest⟩ := moreArgs_append_inj ss ts hss hts hmore
    exact ⟨rfl, hrest⟩

end

/-- The line of a term determines the term. -/
theorem line_injective {s t : Term} (hs : s.Lexical) (ht : t.Lexical) (h : s.line = t.line) :
    s = t := by
  refine (line_append_inj s t hs ht (x := []) (y := []) nofun nofun ?_).1
  rw [List.append_nil, List.append_nil, h]

end SyntaxDump.Term
