import SyntaxDump.Proofs.Json.Text
import SyntaxDump.Proofs.Literal.Number

/-!
# The words in JSON text

Whatever is written without quotes and brackets is a word: numbers, `null`, `true` and `false`. The
words that stand under a key are found in a text without parsing it: strings are skipped, except
that the key with a colon right after it makes the next word count. A string shows no word and hides
no key whatever it contains, since every quote and backslash in it is escaped.

## Main statements

- `Json.scan_writeString`: a string is skipped, unless it is the key;
- `Json.scan_write`, `Json.scanWords_pretty`: the words that are found in the text of a value are
  those of its members with the key, in order.
-/

namespace SyntaxDump.Json

/-- What a scan of a text has come across. -/
inductive Scan where
  /-- Nothing that matters. -/
  | outside
  /-- A string, of which these characters have been passed as they are written. -/
  | inside (run : List Char)
  /-- A backslash in such a string. -/
  | escaped (run : List Char)
  /-- The key, and no value after it yet. -/
  | named
  /-- These characters of a word after the key. -/
  | word (run : List Char)

/-- The words that follow a key and a colon, from left to right. -/
def scan (key : String) : Scan → List Char → List String
  | .word run, [] => [String.ofList run]
  | _, [] => []
  | .outside, c :: cs => if c = '\x22' then scan key (.inside []) cs else scan key .outside cs
  | .inside run, c :: cs =>
    if c = '\\' then scan key (.escaped (run ++ [c])) cs
    else if c = '\x22' then
      -- nothing comes between a key and its colon, and no colon comes after any other string
      if run = key.toList.flatMap escapeChar ∧ cs.head? = some ':' then scan key .named cs
      else scan key .outside cs
    else scan key (.inside (run ++ [c])) cs
  | .escaped run, c :: cs => scan key (.inside (run ++ [c])) cs
  | .named, c :: cs =>
    if c = ':' ∨ isBlank c then scan key .named cs
    else if c = '\x22' then scan key (.inside []) cs
    else if isWordChar c then scan key (.word [c]) cs
    else scan key .outside cs
  | .word run, c :: cs =>
    if isWordChar c then scan key (.word (run ++ [c])) cs
    else String.ofList run :: scan key .outside cs

/-- The words that stand under a key in a text. -/
def scanWords (key text : String) : List String := scan key .outside text.toList

example :
    scanWords "n" "\x7b\"n\": \x7b\"m\": 1, \"n\": -2\x7d, \"n\":[3], \"n\":\"\\\"n\\\":4\"\x7d" =
      ["-2"] := by
  decide

/-- The text of a value that is written as a word. -/
def word? : Json → Option String
  | .str _ => none
  | .arr _ => none
  | .obj _ => none
  | j => some j.compact

mutual

/-- The words of the members with the key, at any depth of a value. -/
def wordsUnder (key : String) : Json → List String
  | .arr items => wordsUnderItems key items
  | .obj members => wordsUnderMembers key members
  | _ => []

/-- The words of the members with the key in the items of an array. -/
def wordsUnderItems (key : String) : List Json → List String
  | [] => []
  | j :: rest => wordsUnder key j ++ wordsUnderItems key rest

/-- The words of the members with the key in the members of an object, and among them. -/
def wordsUnderMembers (key : String) : List (String × Json) → List String
  | [] => []
  | (k, j) :: rest =>
    (if k = key then j.word?.toList else []) ++ wordsUnder key j ++ wordsUnderMembers key rest

end

variable (key : String)

theorem wordsUnderItems_eq (items : List Json) :
    wordsUnderItems key items = items.flatMap (wordsUnder key) := by
  induction items with
  | nil => rfl
  | cons j rest ih => rw [wordsUnderItems, ih, List.flatMap_cons]

theorem wordsUnderMembers_append (front back : List (String × Json)) :
    wordsUnderMembers key (front ++ back) =
      wordsUnderMembers key front ++ wordsUnderMembers key back := by
  induction front with
  | nil => rfl
  | cons m rest ih => simp [wordsUnderMembers, ih]

/-! ## What is skipped -/

/-- Outside of strings everything is skipped but a quote. -/
private theorem scan_outside_cons {c : Char} (hc : c ≠ '\x22') (cs : List Char) :
    scan key .outside (c :: cs) = scan key .outside cs := by
  rw [scan, if_neg hc]

private theorem scan_outside_append {cs : List Char} (h : ∀ c ∈ cs, c ≠ '\x22') (x : List Char) :
    scan key .outside (cs ++ x) = scan key .outside x := by
  induction cs with
  | nil => rfl
  | cons c cs ih =>
    obtain ⟨hc, hcs⟩ := List.forall_mem_cons.mp h
    rw [List.cons_append, scan_outside_cons key hc, ih hcs]

/-- Blanks are no quotes. -/
private theorem ne_quote_of_isBlank {c : Char} (h : isBlank c) : c ≠ '\x22' := by
  rintro rfl
  exact absurd h (by decide)

/-- Neither are the characters of words, and they are not skipped after a key. -/
private theorem not_skipped_of_isWordChar {c : Char} (h : isWordChar c) :
    ¬ (c = ':' ∨ isBlank c) ∧ c ≠ '\x22' := by
  have hne {d : Char} (hd : isWordChar d = false) : c ≠ d := by
    rintro rfl
    exact absurd h (by simp [hd])
  refine ⟨?_, hne (by decide)⟩
  simp only [isBlank, Bool.or_eq_true, beq_iff_eq, not_or]
  exact ⟨hne (by decide), ⟨⟨hne (by decide), hne (by decide)⟩, hne (by decide)⟩, hne (by decide)⟩

/-- Blanks after a key are skipped. -/
private theorem scan_named_append {blanks : List Char} (h : ∀ c ∈ blanks, isBlank c)
    (x : List Char) : scan key .named (blanks ++ x) = scan key .named x := by
  induction blanks with
  | nil => rfl
  | cons c blanks ih =>
    obtain ⟨hc, hblanks⟩ := List.forall_mem_cons.mp h
    rw [List.cons_append, scan, if_pos (.inr hc), ih hblanks]

/-- A value that begins with no character of a word is looked into as anywhere else. -/
private theorem scan_named_cons {c : Char} (hskip : ¬ (c = ':' ∨ isBlank c))
    (hword : isWordChar c = false) (x : List Char) :
    scan key .named (c :: x) = scan key .outside (c :: x) := by
  rw [scan, scan, if_neg hskip, hword]
  rfl

/-! ## Words -/

/-- A text at whose beginning a value ends: no word goes on, no string begins, and the last one was
no key. -/
def EndsValue (x : List Char) : Prop :=
  ∀ c ∈ x.head?, isWordChar c = false ∧ c ≠ '\x22' ∧ c ≠ ':'

private theorem endsValue_nil : EndsValue [] := fun _ hc => absurd hc (Option.not_mem_none _)

private theorem endsValue_cons {c : Char} (h : isWordChar c = false ∧ c ≠ '\x22' ∧ c ≠ ':')
    (x : List Char) : EndsValue (c :: x) := fun _ hc => Option.some.inj hc ▸ h

/-- A blank ends a value. -/
private theorem EndsValue.append {blanks x : List Char} (hblanks : ∀ c ∈ blanks, isBlank c)
    (h : EndsValue x) : EndsValue (blanks ++ x) := by
  cases blanks with
  | nil => exact h
  | cons c blanks =>
    refine endsValue_cons ⟨?_, ne_quote_of_isBlank (hblanks c List.mem_cons_self), ?_⟩ _
    all_goals
      have hc := hblanks c List.mem_cons_self
      simp only [isBlank, Bool.or_eq_true, beq_iff_eq] at hc
      rcases hc with ((rfl | rfl) | rfl) | rfl <;> decide

/-- A word is taken as far as it goes. -/
private theorem scan_word_append {w x : List Char} (hw : ∀ c ∈ w, isWordChar c) (hx : EndsValue x)
    (run : List Char) :
    scan key (.word run) (w ++ x) = String.ofList (run ++ w) :: scan key .outside x := by
  induction w generalizing run with
  | nil =>
    rw [List.append_nil, List.nil_append]
    cases x with
    | nil => rfl
    | cons c x =>
      obtain ⟨hword, hquote, -⟩ := hx c rfl
      rw [scan, scan, if_neg hquote, hword]
      rfl
  | cons c w ih =>
    obtain ⟨hc, hw⟩ := List.forall_mem_cons.mp hw
    rw [List.cons_append, scan, if_pos hc, ih hw, List.append_assoc, List.singleton_append]

/-- A word after a key is found. -/
private theorem scan_named_word {w : String} (hw : IsWord w) {x : List Char} (hx : EndsValue x) :
    scan key .named (w.toList ++ x) = w :: scan key .outside x := by
  obtain ⟨hne, hchars⟩ := hw
  obtain ⟨c, cs, hcs⟩ := List.exists_cons_of_ne_nil hne
  rw [hcs] at hchars
  obtain ⟨hc, hchars⟩ := List.forall_mem_cons.mp hchars
  obtain ⟨hskip, hquote⟩ := not_skipped_of_isWordChar hc
  rw [hcs, List.cons_append, scan, if_neg hskip, if_neg hquote, if_pos hc,
    scan_word_append key hchars hx, List.singleton_append, ← hcs, String.ofList_toList]

/-- Anywhere else it is skipped. -/
private theorem scan_outside_word {w : String} (hw : IsWord w) (x : List Char) :
    scan key .outside (w.toList ++ x) = scan key .outside x :=
  scan_outside_append key (fun c hc => (not_skipped_of_isWordChar (hw.chars c hc)).2) x

/-! ## Strings -/

/-- A character of a string stands for itself if it is neither a quote nor a backslash. Otherwise it
is written as a backslash with a letter, and there is neither of the two after them. -/
private theorem escapeChar_forms (c : Char) :
    (escapeChar c = [c] ∧ c ≠ '\\' ∧ c ≠ '\x22') ∨
      ∃ letter digits, escapeChar c = '\\' :: letter :: digits ∧
        ∀ d ∈ digits, d ≠ '\\' ∧ d ≠ '\x22' := by
  rw [escapeChar]
  split_ifs with hquote hslash
  -- seven characters have an escape of one letter
  any_goals exact .inr ⟨_, [], rfl, List.forall_mem_nil _⟩
  · refine .inr ⟨_, _, rfl, fun d hd => ?_⟩
    -- neither of the two is a digit
    have hvalue := Text.isSome_hexValue?_of_mem hd
    constructor <;> rintro rfl <;> exact absurd hvalue (by decide)
  · exact .inl ⟨rfl, hslash, hquote⟩

private theorem scan_inside_append {ds : List Char} (h : ∀ d ∈ ds, d ≠ '\\' ∧ d ≠ '\x22')
    (run x : List Char) :
    scan key (.inside run) (ds ++ x) = scan key (.inside (run ++ ds)) x := by
  induction ds generalizing run with
  | nil => rw [List.nil_append, List.append_nil]
  | cons d ds ih =>
    obtain ⟨⟨hslash, hquote⟩, hds⟩ := List.forall_mem_cons.mp h
    rw [List.cons_append, scan, if_neg hslash, if_neg hquote, ih hds, List.append_assoc,
      List.singleton_append]

/-- A character is passed as it is written. -/
private theorem scan_escapeChar (c : Char) (run x : List Char) :
    scan key (.inside run) (escapeChar c ++ x) = scan key (.inside (run ++ escapeChar c)) x := by
  rcases escapeChar_forms c with ⟨hitem, hslash, hquote⟩ | ⟨letter, digits, hitem, hdigits⟩
  · rw [hitem]
    exact scan_inside_append key (List.forall_mem_singleton.mpr ⟨hslash, hquote⟩) run x
  · -- the letter after the backslash is passed whatever it is
    rw [hitem, List.cons_append, List.cons_append, scan, if_pos rfl, scan,
      scan_inside_append key hdigits]
    simp

private theorem scan_content (content run x : List Char) :
    scan key (.inside run) (content.flatMap escapeChar ++ x) =
      scan key (.inside (run ++ content.flatMap escapeChar)) x := by
  induction content generalizing run with
  | nil => rw [List.flatMap_nil, List.nil_append, List.append_nil]
  | cons c content ih =>
    rw [List.flatMap_cons, List.append_assoc, scan_escapeChar, ih, List.append_assoc]

/-- Strings that are written alike are the same. -/
private theorem flatMap_escapeChar_inj {s t : String} :
    s.toList.flatMap escapeChar = t.toList.flatMap escapeChar ↔ s = t := by
  constructor
  · intro h
    have hs := readCharacters_writeString s []
    rw [h, readCharacters_writeString] at hs
    exact (congrArg Prod.fst (Except.ok.inj hs)).symm
  · rintro rfl
    rfl

/-- A string is skipped, unless it is the key and a colon comes after it. -/
theorem scan_writeString (s : String) (x : List Char) :
    scan key .outside (writeString s ++ x) =
      if s = key ∧ x.head? = some ':' then scan key .named x else scan key .outside x := by
  rw [writeString, List.cons_append, List.append_assoc, scan, if_pos rfl, scan_content,
    List.singleton_append, List.nil_append, scan, if_neg (by decide), if_pos rfl]
  simp only [flatMap_escapeChar_inj]

/-! ## Values -/

/-- An integer is written in documents as it is shown in dumps. -/
theorem toList_toString_int (n : ℤ) : (toString n).toList = writeInt n := by
  have hdigits (m : Nat) : (toString m).toList = Decimal.digits m := by
    rw [Nat.toString_eq_repr, Nat.toList_repr, Decimal.digits]
  cases n with
  | ofNat n => exact hdigits n
  | negSucc n =>
    rw [toList_toString_negSucc, hdigits, writeInt, if_pos (Int.negSucc_lt_zero n)]
    rfl

theorem compact_int (n : ℤ) : (Json.int n).compact = toString n := by
  rw [compact, write, ← toList_toString_int, String.ofList_toList]

theorem compact_float (x : Binary64) :
    (Json.float x).compact = if x.isFinite then x.text floatStyle else "null" := by
  rw [compact, write, writeFloat, apply_ite String.ofList]
  rfl

/-- What is no string, array or object is written as a word. -/
private theorem isWord_of_word? {j : Json} {w : String} (h : j.word? = some w) : IsWord w := by
  cases j with
  | str | arr | obj => cases h
  | null =>
    obtain rfl := Option.some.inj h
    decide
  | bool b =>
    obtain rfl := Option.some.inj h
    cases b <;> decide
  | int n =>
    obtain rfl := Option.some.inj h
    rw [compact_int]
    exact isWord_toString_int n
  | float x =>
    obtain rfl := Option.some.inj h
    rw [compact_float]
    split
    · exact x.isWord_text floatStyle
    · decide

/-- The layout is of no account to it. -/
private theorem write_of_word? {j : Json} {w : String} (h : j.word? = some w) (layout : Layout)
    (level : Nat) : write layout level j = w.toList := by
  cases j with
  | str | arr | obj => cases h
  | bool b =>
    obtain rfl := Option.some.inj h
    cases b <;> rw [compact, write, write, String.toList_ofList]
  | _ =>
    obtain rfl := Option.some.inj h
    rw [compact, write, write, String.toList_ofList]

/-- A word holds no members. -/
theorem wordsUnder_of_word? {j : Json} {w : String} (h : j.word? = some w) :
    j.wordsUnder key = [] := by
  cases j with
  | str | arr | obj => cases h
  | _ => rfl

/-- A word is passed over where no key stands before it. -/
private theorem scan_outside_write {j : Json} {w : String} (h : j.word? = some w) (layout : Layout)
    (level : Nat) (x : List Char) :
    scan key .outside (write layout level j ++ x) = j.wordsUnder key ++ scan key .outside x := by
  rw [write_of_word? h, scan_outside_word key (isWord_of_word? h), wordsUnder_of_word? key h]
  rfl

/-- Strings, arrays and objects begin with a mark. -/
private theorem write_of_word?_eq_none {j : Json} (h : j.word? = none) (layout : Layout)
    (level : Nat) :
    ∃ c cs, write layout level j = c :: cs ∧ ¬ (c = ':' ∨ isBlank c) ∧ isWordChar c = false := by
  cases j with
  | str s => exact ⟨'\x22', _, by rw [write, writeString], by decide, by decide⟩
  | arr items => cases items <;> exact ⟨'[', _, by rw [write], by decide, by decide⟩
  | obj members =>
    rcases members with - | ⟨⟨key, j⟩, rest⟩ <;>
      exact ⟨'\x7b', _, by rw [write], by decide, by decide⟩
  | _ => cases h

/-- Behind the key the word that is there is found before all that is found anywhere. -/
private theorem scan_named_write {layout : Layout} {level : Nat} {j : Json} {x : List Char}
    (hx : EndsValue x)
    (hj : scan key .outside (write layout level j ++ x) = j.wordsUnder key ++ scan key .outside x) :
    scan key .named (write layout level j ++ x) =
      j.word?.toList ++ j.wordsUnder key ++ scan key .outside x := by
  cases hword : j.word? with
  | some w =>
    rw [write_of_word? hword, scan_named_word key (isWord_of_word? hword) hx,
      wordsUnder_of_word? key hword]
    rfl
  | none =>
    obtain ⟨c, cs, hwrite, hskip, hc⟩ := write_of_word?_eq_none hword layout level
    rw [hwrite, List.cons_append, scan_named_cons key hskip hc, ← List.cons_append, ← hwrite, hj]
    rfl

/-- After an item comes the next one or the end. -/
private theorem endsValue_writeItems (layout : Layout) (level : Nat) (items : List Json)
    {x : List Char} (hx : EndsValue x) : EndsValue (writeItems layout level items ++ x) := by
  cases items with
  | nil => exact hx
  | cons j rest => exact endsValue_cons (by decide) _

private theorem endsValue_writeMembers (layout : Layout) (level : Nat)
    (members : List (String × Json)) {x : List Char} (hx : EndsValue x) :
    EndsValue (writeMembers layout level members ++ x) := by
  rcases members with - | ⟨⟨k, j⟩, rest⟩
  · exact hx
  · exact endsValue_cons (by decide) _

section Write

variable {layout : Layout} (hlayout : layout.Blank)

include hlayout in
/-- A member of an object shows its word if it has the key. -/
private theorem scan_member {level : Nat} {k : String} {j : Json} {x : List Char} (hx : EndsValue x)
    (hj : scan key .outside (write layout level j ++ x) = j.wordsUnder key ++ scan key .outside x) :
    scan key .outside (writeString k ++ ':' :: (layout.afterColon ++ (write layout level j ++ x))) =
      (if k = key then j.word?.toList else []) ++ j.wordsUnder key ++ scan key .outside x := by
  have hblanks := hlayout.afterColon
  rw [scan_writeString]
  by_cases hkey : k = key
  · -- the colon and the blanks after it lead to the value
    rw [if_pos ⟨hkey, rfl⟩, if_pos hkey, scan, if_pos (.inl rfl), scan_named_append key hblanks,
      scan_named_write key hx hj]
  · -- under another key the value is looked into, but its own word does not count
    have hquotes : ∀ c ∈ ':' :: layout.afterColon, c ≠ '\x22' :=
      List.forall_mem_cons.mpr ⟨by decide, fun c hc => ne_quote_of_isBlank (hblanks c hc)⟩
    rw [if_neg fun h => hkey h.1, if_neg hkey, ← List.cons_append, scan_outside_append key hquotes,
      hj, List.nil_append]

include hlayout in
/-- Blanks between values are skipped. -/
private theorem scan_gap (level : Nat) (x : List Char) :
    scan key .outside (layout.gap level ++ x) = scan key .outside x :=
  scan_outside_append key (fun c hc => ne_quote_of_isBlank (hlayout.gap level c hc)) x

include hlayout

mutual

/-- The words that are found in the text of a value are those that stand under the key in it,
whatever comes after the value. -/
theorem scan_write (level : Nat) : (j : Json) → {x : List Char} → EndsValue x →
    scan key .outside (write layout level j ++ x) = j.wordsUnder key ++ scan key .outside x
  | .null, _, _ | .bool _, _, _ | .int _, _, _ | .float _, _, _ => scan_outside_write key rfl ..
  | .str s, x, hx => by
    rw [write, scan_writeString, if_neg fun h => (hx ':' h.2).2.2 rfl]
    rfl
  | .arr [], x, _ => by
    rw [write]
    rfl
  | .arr (j :: items), x, hx => by
    -- an item ends where the next one begins, and the last one at the blanks before the bracket
    have hend : EndsValue (layout.gap level ++ ']' :: x) :=
      (endsValue_cons (by decide) x).append (hlayout.gap level)
    rw [write_arr_cons, scan_outside_cons key (by decide), scan_gap key hlayout,
      scan_write (level + 1) j (endsValue_writeItems layout (level + 1) items hend),
      scan_writeItems (level + 1) items hend, scan_gap key hlayout,
      scan_outside_cons key (by decide), wordsUnder, wordsUnderItems, List.append_assoc]
  | .obj [], x, _ => by
    rw [write]
    rfl
  | .obj ((k, j) :: members), x, hx => by
    have hend : EndsValue (layout.gap level ++ '\x7d' :: x) :=
      (endsValue_cons (by decide) x).append (hlayout.gap level)
    have hmore := endsValue_writeMembers layout (level + 1) members hend
    rw [write_obj_cons, scan_outside_cons key (by decide), scan_gap key hlayout,
      scan_member key hlayout hmore (scan_write (level + 1) j hmore),
      scan_writeMembers (level + 1) members hend, scan_gap key hlayout,
      scan_outside_cons key (by decide), wordsUnder, wordsUnderMembers]
    simp only [List.append_assoc]

/-- The same for the items of an array after the first. -/
theorem scan_writeItems (level : Nat) : (items : List Json) → {x : List Char} → EndsValue x →
    scan key .outside (writeItems layout level items ++ x) =
      wordsUnderItems key items ++ scan key .outside x
  | [], _, _ => rfl
  | j :: rest, x, hx => by
    rw [writeItems, List.cons_append, List.append_assoc, List.append_assoc,
      scan_outside_cons key (by decide), scan_gap key hlayout,
      scan_write level j (endsValue_writeItems layout level rest hx), scan_writeItems level rest hx,
      wordsUnderItems, List.append_assoc]

/-- The same for the members of an object after the first. -/
theorem scan_writeMembers (level : Nat) : (members : List (String × Json)) → {x : List Char} →
    EndsValue x →
    scan key .outside (writeMembers layout level members ++ x) =
      wordsUnderMembers key members ++ scan key .outside x
  | [], _, _ => rfl
  | (k, j) :: rest, x, hx => by
    have hmore := endsValue_writeMembers layout level rest hx
    have hmember := scan_member key hlayout (k := k) hmore (scan_write level j hmore)
    have htext : writeMembers layout level ((k, j) :: rest) ++ x =
        ',' :: (layout.gap level ++ (writeString k ++ ':' :: (layout.afterColon ++
          (write layout level j ++ (writeMembers layout level rest ++ x))))) := by
      simp [writeMembers]
    rw [htext, scan_outside_cons key (by decide), scan_gap key hlayout, hmember,
      scan_writeMembers level rest hx, wordsUnderMembers]
    simp only [List.append_assoc]

end

end Write

/-- The words that are found in the text of a value on lines of its own. -/
theorem scanWords_pretty (j : Json) : scanWords key j.pretty = j.wordsUnder key := by
  have hscan := scan_write key Layout.blank_pretty 0 j endsValue_nil
  rw [List.append_nil] at hscan
  rw [scanWords, pretty, String.toList_ofList, hscan]
  exact List.append_nil _

end SyntaxDump.Json
