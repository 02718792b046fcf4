import SyntaxDump.Proofs.Term.Unambiguous

/-!
# The calls in a line

The names of the calls in a line are found without parsing it: a name is a run of letters with a
bracket right after it, and literals between quotes are skipped. An atom that is a word shows no
name, since no bracket follows it, and neither does a label, since a sign does. A literal shows none
whatever it contains, since every quote and backslash in it is escaped.

## Main statements

- `Term.scan_quoted`: a literal is skipped;
- `Term.scan_line`: the names that are found in the line of a term are those of its calls.
-/

namespace SyntaxDump.Term

/-- What a scan of a line has come across. -/
inductive Scan where
  /-- The letters right before, outside of literals. -/
  | outside (run : List Char)
  /-- A literal between quotes of this kind. -/
  | inside (quote : Char)
  /-- A backslash in such a literal. -/
  | escaped (quote : Char)

/-- The maximal runs of letters outside of literals that have an opening bracket right after
them. -/
def scan : Scan → List Char → List String
  | _, [] => []
  | .outside run, c :: cs =>
    if c.isAlpha then scan (.outside (run ++ [c])) cs
    else if Literal.IsQuote c then scan (.inside c) cs
    else if c = '(' ∧ run ≠ [] then String.ofList run :: scan (.outside []) cs
    else scan (.outside []) cs
  | .inside quote, c :: cs =>
    if c = '\\' then scan (.escaped quote) cs
    else if c = quote then scan (.outside []) cs
    else scan (.inside quote) cs
  | .escaped quote, _ :: cs => scan (.inside quote) cs

example :
    scan (.outside []) "F(a=G(), b='H(\\'I(', c=b\"J()\", d=[K1(2)])".toList = ["F", "G"] := by
  decide

mutual

/-- The names of the calls in a term, from left to right. -/
def calls : Term → List String
  | .atom _ => []
  | .list items => itemCalls items
  | .call name args => name :: argCalls args

/-- The names of the calls in the items of a list. -/
def itemCalls : List Term → List String
  | [] => []
  | t :: rest => t.calls ++ itemCalls rest

/-- The names of the calls in the arguments of a call. -/
def argCalls : List (Option String × Term) → List String
  | [] => []
  | (_, t) :: rest => t.calls ++ argCalls rest

end

theorem itemCalls_eq (items : List Term) : itemCalls items = items.flatMap calls := by
  induction items with
  | nil => rfl
  | cons t rest ih => rw [itemCalls, ih, List.flatMap_cons]

theorem argCalls_eq (args : List (Option String × Term)) :
    argCalls args = args.flatMap fun a => a.2.calls := by
  induction args with
  | nil => rfl
  | cons a rest ih => rw [argCalls, ih, List.flatMap_cons]

/-! ## Words -/

/-- A text at whose beginning a run of letters ends without being a name. -/
def EndsRun (cs : List Char) : Prop :=
  ∀ c ∈ cs.head?, c.isAlpha = false ∧ ¬ Literal.IsQuote c ∧ c ≠ '('

/-- Characters that the scan passes over outside of literals. -/
private theorem scan_outside_cons {c : Char} {cs : List Char} (h : EndsRun (c :: cs))
    (run : List Char) : scan (.outside run) (c :: cs) = scan (.outside []) cs := by
  obtain ⟨halpha, hquote, hopen⟩ := h c rfl
  simp [scan, halpha, hquote, hopen]

/-- A word with nothing after it that goes on with it shows no name. -/
private theorem scan_word_append {w x : List Char} (hw : ∀ c ∈ w, isWordChar c) (hx : EndsRun x)
    (run : List Char) : scan (.outside run) (w ++ x) = scan (.outside []) x := by
  induction w generalizing run with
  | nil =>
    cases x with
    | nil => rfl
    | cons c x => rw [List.nil_append, scan_outside_cons hx, scan_outside_cons hx]
  | cons d w ih =>
    obtain ⟨hd, hw⟩ := List.forall_mem_cons.mp hw
    rw [List.cons_append]
    by_cases hletter : d.isAlpha
    · rw [scan, if_pos hletter, ih hw]
    · -- a character of a word is no quote and no bracket
      have hne {c : Char} (h : isWordChar c = false) : d ≠ c := by
        rintro rfl
        exact absurd hd (by simp [h])
      have hends : EndsRun (d :: (w ++ x)) := fun c hc => by
        obtain rfl := Option.some.inj hc
        exact ⟨by simpa using hletter, not_or.mpr ⟨hne (by decide), hne (by decide)⟩,
          hne (by decide)⟩
      rw [scan_outside_cons hends, ih hw]

/-- The name of a call is found. -/
private theorem scan_name_append {w : List Char} (hw : ∀ c ∈ w, c.isAlpha) {run : List Char}
    (hne : run ++ w ≠ []) (cs : List Char) :
    scan (.outside run) (w ++ '(' :: cs) = String.ofList (run ++ w) :: scan (.outside []) cs := by
  induction w generalizing run with
  | nil =>
    rw [List.append_nil] at hne
    have hquote : ¬ Literal.IsQuote '(' := by decide
    simp [scan, hne, hquote]
  | cons c w ih =>
    obtain ⟨hc, hw⟩ := List.forall_mem_cons.mp hw
    rw [List.cons_append, scan, if_pos hc, ih hw (by simp), List.append_assoc]
    rfl

/-! ## Literals -/

/-- Characters that neither end a literal nor escape anything. -/
private theorem scan_inside_append {quote : Char} {ds : List Char}
    (h : ∀ d ∈ ds, d ≠ '\\' ∧ d ≠ quote) (cs : List Char) :
    scan (.inside quote) (ds ++ cs) = scan (.inside quote) cs := by
  induction ds with
  | nil => rfl
  | cons d ds ih =>
    obtain ⟨⟨hslash, hquote⟩, hds⟩ := List.forall_mem_cons.mp h
    rw [List.cons_append, scan, if_neg hslash, if_neg hquote, ih hds]

/-- A character in a literal is skipped, however it is written. -/
private theorem scan_escapeChar (unprintable : Char → Bool) {quote : Char}
    (hquote : Literal.IsQuote quote) (c : Char) (cs : List Char) :
    scan (.inside quote) (Literal.escapeChar unprintable quote c ++ cs) =
      scan (.inside quote) cs := by
  rcases Literal.escapeChar_forms unprintable hquote c with
    ⟨hitem, hslash, hne⟩ | ⟨letter, digits, hitem, hdigits⟩
  · rw [hitem]
    exact scan_inside_append (List.forall_mem_singleton.mpr ⟨hslash, hne⟩) cs
  · -- the letter after the backslash is skipped whatever it is
    rw [hitem]
    exact scan_inside_append hdigits cs

/-- The characters of a literal are skipped. -/
private theorem scan_content (unprintable : Char → Bool) {quote : Char}
    (hquote : Literal.IsQuote quote) (content cs : List Char) :
    scan (.inside quote) (content.flatMap (Literal.escapeChar unprintable quote) ++ cs) =
      scan (.inside quote) cs := by
  induction content with
  | nil => rfl
  | cons c content ih =>
    rw [List.flatMap_cons, List.append_assoc, scan_escapeChar unprintable hquote, ih]

/-- A literal between quotes is skipped, and a run of letters before it is no name. -/
theorem scan_quoted (unprintable : Char → Bool) (content run cs : List Char) :
    scan (.outside run) (Literal.quoted unprintable content ++ cs) = scan (.outside []) cs := by
  have hquote := Literal.isQuote_delimiter (content.contains Literal.singleQuote)
    (content.contains Literal.doubleQuote)
  have hopening {quote : Char} (h : Literal.IsQuote quote) (z : List Char) :
      scan (.outside run) (quote :: z) = scan (.inside quote) z := by
    rcases h with rfl | rfl <;> rfl
  have hclosing {quote : Char} (h : Literal.IsQuote quote) :
      scan (.inside quote) (quote :: cs) = scan (.outside []) cs := by
    rcases h with rfl | rfl <;> rfl
  rw [Literal.quoted, List.cons_append, List.append_assoc, hopening hquote,
    scan_content unprintable hquote]
  exact hclosing hquote

/-! ## Terms -/

/-- What stops a term ends every run of letters. -/
private theorem Stops.endsRun {x : List Char} (hx : Stops x) : EndsRun x := by
  intro c hc
  have hmark := hx c hc
  simp only [List.mem_cons, List.not_mem_nil, or_false] at hmark
  rcases hmark with rfl | rfl | rfl <;> exact ⟨rfl, by decide, by decide⟩

/-- An atom shows no name. -/
private theorem scan_atom {text : String} (h : IsAtom text) {x : List Char} (hx : Stops x) :
    scan (.outside []) (text.toList ++ x) = scan (.outside []) x := by
  cases h with
  | word h => exact scan_word_append h.chars hx.endsRun []
  | string s =>
    rw [Literal.toList_string]
    exact scan_quoted ..
  | bytes bs =>
    -- the letter before the quote is a run of its own
    rw [Literal.toList_bytes, Literal.quotedBytes_eq]
    exact scan_quoted _ _ ['b'] x

/-- A label shows no name. -/
private theorem scan_label {label : Option String} (h : ∀ name ∈ label, IsWord name)
    (cs : List Char) : scan (.outside []) (labelChars label ++ cs) = scan (.outside []) cs := by
  cases label with
  | none => rfl
  | some name =>
    have hsign : EndsRun ('=' :: cs) := fun c hc => Option.some.inj hc ▸ by decide
    rw [labelChars, List.append_assoc, List.singleton_append,
      scan_word_append (h name rfl).chars hsign, scan_outside_cons hsign]

/-- The letters of a call name. -/
def IsName (name : String) : Prop := name.toList ≠ [] ∧ ∀ c ∈ name.toList, c.isAlpha

mutual

/-- The names that are found in the line of a term are those of its calls, if they are made of
letters. -/
theorem scan_line : (t : Term) → t.Lexical → (∀ name ∈ t.calls, IsName name) → {x : List Char} →
    Stops x → scan (.outside []) (t.line ++ x) = t.calls ++ scan (.outside []) x
  | .atom text, hlex, _, x, hx => by
    rw [line, calls, scan_atom hlex hx]
    rfl
  | .list items, hlex, hnames, x, hx => by
    have hopen : scan (.outside []) ('[' :: (lineItems items ++ ']' :: x)) =
        scan (.outside []) (lineItems items ++ ']' :: x) := rfl
    simp only [line, List.append_assoc, List.cons_append, List.nil_append]
    rw [hopen, scan_lineItems items hlex hnames]
    rfl
  | .call name args, hlex, hnames, x, hx => by
    obtain ⟨hname, hargs⟩ := List.forall_mem_cons.mp hnames
    simp only [line, List.append_assoc, List.cons_append, List.nil_append]
    rw [scan_name_append hname.2 hname.1, scan_lineArgs args hlex.2 hargs, List.nil_append,
      String.ofList_toList]
    rfl

/-- The same for the items of a list. -/
theorem scan_lineItems : (items : List Term) → LexicalItems items →
    (∀ name ∈ itemCalls items, IsName name) → {x : List Char} →
    scan (.outside []) (lineItems items ++ ']' :: x) =
      itemCalls items ++ scan (.outside []) (']' :: x)
  | [], _, _, _ => rfl
  | t :: rest, hlex, hnames, x => by
    obtain ⟨ht, hrest⟩ := List.forall_mem_append.mp hnames
    rw [lineItems, List.append_assoc, scan_line t hlex.1 ht (stops_moreItems rest x),
      scan_moreItems rest hlex.2 hrest, itemCalls, List.append_assoc]

/-- The same for the items of a list after the first one. -/
theorem scan_moreItems : (items : List Term) → LexicalItems items →
    (∀ name ∈ itemCalls items, IsName name) → {x : List Char} →
    scan (.outside []) (moreItems items ++ ']' :: x) =
      itemCalls items ++ scan (.outside []) (']' :: x)
  | [], _, _, _ => rfl
  | t :: rest, hlex, hnames, x => by
    obtain ⟨ht, hrest⟩ := List.forall_mem_append.mp hnames
    have hcomma (z : List Char) : scan (.outside []) ([',', ' '] ++ z) = scan (.outside []) z := rfl
    rw [moreItems, List.append_assoc, List.append_assoc, hcomma,
      scan_line t hlex.1 ht (stops_moreItems rest x), scan_moreItems rest hlex.2 hrest, itemCalls,
      List.append_assoc]

/-- The same for the arguments of a call. -/
theorem scan_lineArgs : (args : List (Option String × Term)) → LexicalArgs args →
    (∀ name ∈ argCalls args, IsName name) → {x : List Char} →
    scan (.outside []) (lineArgs args ++ ')' :: x) = argCalls args ++ scan (.outside []) (')' :: x)
  | [], _, _, _ => rfl
  | (label, t) :: rest, hlex, hnames, x => by
    obtain ⟨ht, hrest⟩ := List.forall_mem_append.mp hnames
    rw [lineArgs, List.append_assoc, List.append_assoc, scan_label hlex.1,
      scan_line t hlex.2.1 ht (stops_moreArgs rest x), scan_moreArgs rest hlex.2.2 hrest, argCalls,
      List.append_assoc]

/-- The same for the arguments of a call after the first one. -/
theorem scan_moreArgs : (args : List (Option String × Term)) → LexicalArgs args →
    (∀ name ∈ argCalls args, IsName name) → {x : List Char} →
    scan (.outside []) (moreArgs args ++ ')' :: x) = argCalls args ++ scan (.outside []) (')' :: x)
  | [], _, _, _ => rfl
  | (label, t) :: rest, hlex, hnames, x => by
    obtain ⟨ht, hrest⟩ := List.forall_mem_append.mp hnames
    have hcomma (z : List Char) : scan (.outside []) ([',', ' '] ++ z) = scan (.outside []) z := rfl
    rw [moreArgs, List.append_assoc, List.append_assoc, hcomma, List.append_assoc,
      scan_label hlex.1, scan_line t hlex.2.1 ht (stops_moreArgs rest x),
      scan_moreArgs rest hlex.2.2 hrest, argCalls, List.append_assoc]

end

end SyntaxDump.Term
