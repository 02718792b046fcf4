import Mathlib.Tactic.Ring
import SyntaxDump.Proofs.Literal.Quoted

/-!
# Reading string and bytes literals

A literal is read character by character up to its closing delimiter. A backslash begins an escape:
of one letter, or of a letter and a code with a fixed number of digits. Nothing else may follow a
backslash, and no line break may stand in a literal. Strings and bytes are read alike; they differ
in what a character or a code denotes and in which letters introduce a code (`Literal.Alphabet`).

The reader resumes after every escape where the next item begins, whatever that is, so the content
of a literal is read back and the literal is told apart from what follows it.

## Main statements

- `Literal.readContent_escapeChar`: an item is read back as what its character denotes;
- `Literal.string_append_inj` and `Literal.bytes_append_inj`: a literal is told apart from what
  follows it;
- `Literal.string_and_bytes_readable`: literals are readable and consist of visible characters.
-/

namespace SyntaxDump.Literal

/-! ## The reader -/

/-- What literals of one kind can hold. -/
structure Alphabet (α : Type) where
  /-- What a character denotes that stands for itself. -/
  ofChar? : Char → Option α
  /-- What a code denotes. -/
  ofCode? : Nat → Option α
  /-- The number of digits of the code that a letter introduces. -/
  width? : Char → Option Nat

/-- Strings hold characters, which may be given by codes of two, four or eight digits. -/
def Alphabet.text : Alphabet Char where
  ofChar? := some
  ofCode? n := if n.isValidChar then some (Char.ofNat n) else none
  width?
    | 'x' => some 2
    | 'u' => some 4
    | 'U' => some 8
    | _ => none

/-- Bytes are given by codes of two digits or as characters of ASCII. -/
def Alphabet.byte : Alphabet UInt8 where
  ofChar? c := if c.toNat < 128 then some (UInt8.ofNat c.toNat) else none
  ofCode? n := if n < 256 then some (UInt8.ofNat n) else none
  width?
    | 'x' => some 2
    | _ => none

/-- How much of an item has been read. -/
inductive Progress where
  | nothing
  | backslash
  /-- The letter before a code and some digits, which spell `value`; others are missing. -/
  | code (missing value : Nat)

section Reader

variable {α : Type}

/-- Puts what an item denotes before the content that follows it. -/
def prepend (item : Option α) (content : Option (List α × List Char)) :
    Option (List α × List Char) :=
  match item, content with
  | some a, some (as, rest) => some (a :: as, rest)
  | _, _ => none

/-- The content of a literal up to its closing delimiter, and what follows that. -/
def readContent (k : Alphabet α) (quote : Char) :
    Progress → List Char → Option (List α × List Char)
  | _, [] => none
  | .nothing, c :: cs =>
    if c = quote then some ([], cs)
    else if c = '\\' then readContent k quote .backslash cs
    else if c = '\n' ∨ c = '\r' then none
    else prepend (k.ofChar? c) (readContent k quote .nothing cs)
  | .backslash, c :: cs =>
    match simpleEscape? c, k.width? c with
    | some d, _ => prepend (k.ofChar? d) (readContent k quote .nothing cs)
    | none, some width => readContent k quote (.code width 0) cs
    | none, none => none
  | .code missing value, c :: cs =>
    match Text.hexValue? c with
    | some d =>
      if missing ≤ 1 then prepend (k.ofCode? (16 * value + d)) (readContent k quote .nothing cs)
      else readContent k quote (.code (missing - 1) (16 * value + d)) cs
    | none => none

/-- The content of the literal that a text begins with, and what follows the literal. -/
def readLiteral (k : Alphabet α) : List Char → Option (List α × List Char)
  | [] => none
  | quote :: cs => if IsQuote quote then readContent k quote .nothing cs else none

end Reader

/-- The string literal that a text begins with. -/
def readString : List Char → Option (List Char × List Char) := readLiteral .text

/-- The bytes literal that a text begins with. -/
def readBytes : List Char → Option (List UInt8 × List Char)
  | 'b' :: cs => readLiteral .byte cs
  | _ => none

example : readString "'\\x41\\'\\u00e9f'+1".toList =
    some (['A', '\x27', 'é', 'f'], ['+', '1']) := by
  decide

example : readString "'\\q'".toList = none ∧ readString "'\\x4'".toList = none ∧
    readBytes "b'\\u0041'".toList = none := by
  decide

/-! ## Reading items -/

/-- A character denotes `a`, in whichever form it is written. -/
structure Alphabet.Denotes {α : Type} (k : Alphabet α) (unprintable : Char → Bool) (c : Char)
    (a : α) : Prop where
  char : c.toNat < 128 ∨ isPrintable unprintable c → k.ofChar? c = some a
  code : k.ofCode? c.toNat = some a
  width : k.width? (codeForm c).1 = some (codeForm c).2

/-- In a string every character denotes itself. -/
theorem Alphabet.denotes_text (unprintable : Char → Bool) (c : Char) :
    text.Denotes unprintable c c where
  char _ := rfl
  code := by
    have hvalid : c.toNat.isValidChar := c.valid
    rw [text]
    simp only [hvalid, if_true, Char.ofNat_toNat]
  width := by
    rw [codeForm]
    split
    · rfl
    · split <;> rfl

/-- In a bytes literal the character with the code of a byte denotes the byte. -/
theorem Alphabet.denotes_byte (b : UInt8) : byte.Denotes (fun _ => true) (byteChar b) b where
  char h := by
    -- characters beyond ASCII do not stand for themselves
    have hascii : (byteChar b).toNat < 128 := by
      refine h.elim id fun hprintable => ?_
      rw [isPrintable] at hprintable
      split at hprintable
      · assumption
      · cases hprintable
    rw [toNat_byteChar] at hascii
    simp only [byte, toNat_byteChar, hascii, if_true, UInt8.ofNat_toNat]
  code := by
    simp only [byte, toNat_byteChar, b.toNat_lt, if_true, UInt8.ofNat_toNat]
  width := by
    have hshort : (byteChar b).toNat < 0x100 := toNat_byteChar b ▸ b.toNat_lt
    rw [codeForm, if_pos hshort]
    rfl

section Items

variable {α : Type} {k : Alphabet α} {quote : Char}

/-- The digits of a code are read as the code. -/
private theorem readContent_hexDigits (width value n : Nat) (rest : List Char) :
    readContent k quote (.code (width + 1) value) (Text.hexDigits (width + 1) n ++ rest) =
      prepend (k.ofCode? (value * 16 ^ (width + 1) + n % 16 ^ (width + 1)))
        (readContent k quote .nothing rest) := by
  have hdigit := Text.hexValue?_hexDigit (n / 16 ^ width % 16) (Nat.mod_lt _ (by decide))
  induction width generalizing value with
  | zero =>
    rw [Text.hexDigits_succ, List.cons_append, readContent, hdigit]
    simp [Text.hexDigits, Nat.mul_comm]
  | succ width ih =>
    -- with the first digit, the digits so far stand for more
    have hnext := ih (16 * value + n / 16 ^ (width + 1) % 16)
      (Text.hexValue?_hexDigit _ (Nat.mod_lt _ (by decide)))
    have hsum : (16 * value + n / 16 ^ (width + 1) % 16) * 16 ^ (width + 1) +
        n % 16 ^ (width + 1) = value * 16 ^ (width + 1 + 1) + n % 16 ^ (width + 1 + 1) := by
      rw [Nat.pow_succ 16 (width + 1), Nat.mod_mul]
      ring
    rw [Text.hexDigits_succ, List.cons_append, readContent, hdigit]
    simp only [Nat.add_sub_cancel]
    rw [if_neg (by omega), hnext, hsum]

/-- An item is read back as what its character denotes, whatever follows it. -/
theorem readContent_escapeChar {unprintable : Char → Bool} (hquote : IsQuote quote) {c : Char}
    {a : α} (h : k.Denotes unprintable c a) (rest : List Char) :
    readContent k quote .nothing (escapeChar unprintable quote c ++ rest) =
      prepend (some a) (readContent k quote .nothing rest) := by
  have hbackslash (cs : List Char) : readContent k quote .nothing ('\\' :: cs) =
      readContent k quote .backslash cs := by
    rcases hquote with rfl | rfl <;> rfl
  have hitem := item_escapeChar unprintable hquote c
  generalize escapeChar unprintable quote c = item at hitem ⊢
  cases hitem with
  | plain hslash hne hprintable =>
    -- line breaks are not printable
    have hline : ¬ (c = '\n' ∨ c = '\r') := by
      rintro (rfl | rfl) <;> cases hprintable
    rw [List.singleton_append, readContent, if_neg hne, if_neg hslash, if_neg hline,
      h.char (.inr hprintable)]
  | @simple letter hletter =>
    have hascii : c.toNat < 128 := by
      rw [simpleEscape?.eq_def] at hletter
      split at hletter <;> first | (cases hletter; decide) | cases hletter
    rw [List.cons_append, List.singleton_append, hbackslash, readContent, hletter]
    simp only
    rw [h.char (.inl hascii)]
  | code =>
    -- the letter before a code is that of no other escape
    have hletter : simpleEscape? (codeForm c).1 = none := by
      rw [codeForm]
      split
      · rfl
      · split <;> rfl
    obtain ⟨width, hwidth⟩ : ∃ width, (codeForm c).2 = width + 1 := by
      rw [codeForm]
      split
      · exact ⟨1, rfl⟩
      · split
        · exact ⟨3, rfl⟩
        · exact ⟨7, rfl⟩
    have hcode := toNat_lt_codeForm c
    rw [hwidth] at hcode
    rw [List.cons_append, List.cons_append, hbackslash, readContent, hletter, h.width]
    simp only
    rw [hwidth, readContent_hexDigits, Nat.zero_mul, Nat.zero_add, Nat.mod_eq_of_lt hcode, h.code]

/-- The characters between quotes are read back, whatever follows the literal. -/
theorem readLiteral_quoted {unprintable : Char → Bool} {char : α → Char}
    (h : ∀ a, k.Denotes unprintable (char a) a) (as : List α) (rest : List Char) :
    readLiteral k (quoted unprintable (as.map char) ++ rest) = some (as, rest) := by
  have hcontent {quote : Char} (hquote : IsQuote quote) :
      readContent k quote .nothing
        ((as.map char).flatMap (escapeChar unprintable quote) ++ quote :: rest) =
          some (as, rest) := by
    induction as with
    | nil => rw [List.map_nil, List.flatMap_nil, List.nil_append, readContent, if_pos rfl]
    | cons a as ih =>
      rw [List.map_cons, List.flatMap_cons, List.append_assoc,
        readContent_escapeChar hquote (h a), ih]
      rfl
  have hquote := isQuote_delimiter ((as.map char).contains singleQuote)
    ((as.map char).contains doubleQuote)
  rw [quoted, List.cons_append, List.append_assoc, List.singleton_append, readLiteral,
    if_pos hquote, hcontent hquote]

end Items

/-! ## Literals and what follows them -/

/-- A string literal is read back, whatever follows it. -/
theorem readString_stringWith (unprintable : Char → Bool) (s : String) (rest : List Char) :
    readString ((stringWith unprintable s).toList ++ rest) = some (s.toList, rest) := by
  have hread := readLiteral_quoted (Alphabet.denotes_text unprintable) s.toList rest
  rw [List.map_id'] at hread
  rwa [stringWith, String.toList_ofList]

/-- A bytes literal is read back, whatever follows it. -/
theorem readBytes_bytes (bs : List UInt8) (rest : List Char) :
    readBytes ((bytes bs).toList ++ rest) = some (bs, rest) := by
  rw [toList_bytes, quotedBytes_eq, List.cons_append, readBytes]
  exact readLiteral_quoted Alphabet.denotes_byte bs rest

/-- A string literal is told apart from what follows it. -/
theorem string_append_inj {s t : String} {x y : List Char}
    (h : (string s).toList ++ x = (string t).toList ++ y) : s = t ∧ x = y := by
  have hread := readString_stringWith Unicode.unprintable.contains s x
  rw [← string, h, string, readString_stringWith] at hread
  obtain ⟨htext, hrest⟩ := Prod.mk.inj (Option.some.inj hread)
  exact ⟨(String.toList_inj.mp htext).symm, hrest.symm⟩

/-- Different texts have different literals. -/
theorem string_injective {s t : String} (h : string s = string t) : s = t := by
  have happend : (string s).toList ++ [] = (string t).toList ++ [] := by rw [h]
  exact (string_append_inj happend).1

/-- A bytes literal is told apart from what follows it. -/
theorem bytes_append_inj {as bs : List UInt8} {x y : List Char}
    (h : (bytes as).toList ++ x = (bytes bs).toList ++ y) : as = bs ∧ x = y := by
  have hread := readBytes_bytes as x
  rw [h, readBytes_bytes] at hread
  obtain ⟨hbytes, hrest⟩ := Prod.mk.inj (Option.some.inj hread)
  exact ⟨hbytes.symm, hrest.symm⟩

/-- Different byte strings have different literals. -/
theorem bytes_injective {as bs : List UInt8} (h : bytes as = bytes bs) : as = bs := by
  have happend : (bytes as).toList ++ [] = (bytes bs).toList ++ [] := by rw [h]
  exact (bytes_append_inj happend).1

/-! ## Visible literals -/

/-- The characters of a text that no backslash escapes. -/
def unescaped : List Char → List Char
  | [] => []
  | ['\\'] => ['\\']
  | '\\' :: _ :: cs => unescaped cs
  | c :: cs => c :: unescaped cs

/-- A character other than a backslash escapes nothing. -/
private theorem unescaped_cons {c : Char} (h : c ≠ '\\') (cs : List Char) :
    unescaped (c :: cs) = c :: unescaped cs := by
  rw [unescaped]
  · exact fun hslash _ => h hslash
  · exact fun _ _ hslash _ => h hslash

private theorem unescaped_append {ds : List Char} (h : ∀ d ∈ ds, d ≠ '\\') (cs : List Char) :
    unescaped (ds ++ cs) = ds ++ unescaped cs := by
  induction ds with
  | nil => rfl
  | cons d ds ih =>
    obtain ⟨hd, hds⟩ := List.forall_mem_cons.mp h
    rw [List.cons_append, unescaped_cons hd, ih hds, List.cons_append]

/-- Inside a literal the delimiter is always escaped. -/
private theorem delimiter_not_mem_unescaped (unprintable : Char → Bool) {quote : Char}
    (hquote : IsQuote quote) (cs : List Char) :
    quote ∉ unescaped (cs.flatMap (escapeChar unprintable quote)) := by
  induction cs with
  | nil => exact List.not_mem_nil
  | cons c cs ih =>
    rw [List.flatMap_cons]
    rcases escapeChar_forms unprintable hquote c with
      ⟨hitem, hslash, hne⟩ | ⟨letter, digits, hitem, hdigits⟩
    · rw [hitem, List.singleton_append, unescaped_cons hslash, List.mem_cons, not_or]
      exact ⟨hne.symm, ih⟩
    · -- the letter is escaped, and the digits are no delimiters
      rw [hitem, List.cons_append, List.cons_append, unescaped,
        unescaped_append fun d hd => (hdigits d hd).1, List.mem_append, not_or]
      exact ⟨fun hmem => (hdigits quote hmem).2 rfl, ih⟩

/-- A bytes literal consists of printable characters of ASCII. -/
private theorem visible_of_mem_bytes (bs : List UInt8) :
    ∀ c ∈ (bytes bs).toList, ' ' ≤ c ∧ c ≤ '~' := by
  rw [toList_bytes, quotedBytes_eq]
  refine List.forall_mem_cons.mpr ⟨by decide, fun c hc => ?_⟩
  -- where no other character is printable, the table decides nothing
  have hprintable := isPrintable_of_mem_quoted (fun _ => true) (bs.map byteChar) c hc
  rw [isPrintable] at hprintable
  split at hprintable
  · simpa using hprintable
  · cases hprintable

/-- Literals are readable, whichever characters beyond ASCII are taken to have no visible form. A
string literal is read back as its content and nothing of it is left, the delimiter inside it is
always escaped, and all its characters are printable. A bytes literal begins with its prefix, is
read back in the same way, and all its characters are printable ones of ASCII. -/
theorem string_and_bytes_readable (unprintable : Char → Bool) :
    (∀ s : String,
      readString (stringWith unprintable s).toList = some (s.toList, []) ∧
      (∃ quote content, (stringWith unprintable s).toList = quote :: (content ++ [quote]) ∧
        quote ∉ unescaped content) ∧
      (stringWith unprintable s).toList.all (isPrintable unprintable)) ∧
    ∀ bs : List UInt8,
      (bytes bs).toList.head? = some 'b' ∧
      readBytes (bytes bs).toList = some (bs, []) ∧
      (bytes bs).toList.all fun c => ' ' ≤ c && c ≤ '~' := by
  refine ⟨fun s => ⟨?_, ?_, ?_⟩, fun bs => ⟨?_, ?_, ?_⟩⟩
  · have hread := readString_stringWith unprintable s []
    rwa [List.append_nil] at hread
  · rw [stringWith, String.toList_ofList]
    exact ⟨_, _, rfl, delimiter_not_mem_unescaped unprintable (isQuote_delimiter ..) s.toList⟩
  · rw [stringWith, String.toList_ofList]
    exact List.all_eq_true.mpr (isPrintable_of_mem_quoted unprintable s.toList)
  · rw [toList_bytes, quotedBytes]
    rfl
  · have hread := readBytes_bytes bs []
    rwa [List.append_nil] at hread
  · refine List.all_eq_true.mpr fun c hc => ?_
    simpa using visible_of_mem_bytes bs c hc

end SyntaxDump.Literal
