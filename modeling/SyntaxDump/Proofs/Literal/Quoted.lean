import SyntaxDump.Literal.Quoted
import SyntaxDump.Proofs.Text.Hex

/-!
# The form of string and bytes literals

Between the delimiters of a literal stands one item for each character. An item is the character
itself or begins with a backslash, which stands before a letter, a quote, another backslash or the
digits of a code. A bytes literal is written like the string literal of the characters with the
codes of the bytes.

## Main statements

- `Literal.item_escapeChar`, `Literal.escapeChar_forms`: the forms of an item;
- `Literal.isPrintable_of_mem_quoted`: a literal consists of printable characters, so it stays on
  its line (`Literal.newline_not_mem_quoted`);
- `Literal.quotedBytes_eq`: a bytes literal as a string literal.
-/

namespace SyntaxDump.Literal

/-- The characters that can delimit a literal. -/
def IsQuote (c : Char) : Prop := c = singleQuote ∨ c = doubleQuote

instance (c : Char) : Decidable (IsQuote c) :=
  inferInstanceAs (Decidable (c = singleQuote ∨ c = doubleQuote))

/-- A literal is delimited by quotes. -/
theorem isQuote_delimiter (hasSingle hasDouble : Bool) :
    IsQuote (delimiter hasSingle hasDouble) := by
  rw [delimiter]
  split
  · exact .inr rfl
  · exact .inl rfl

/-! ## Items -/

/-- The character that an escape of one letter stands for. -/
def simpleEscape? : Char → Option Char
  | 'n' => some '\n'
  | 'r' => some '\r'
  | 't' => some '\t'
  | '\\' => some '\\'
  | '\x27' => some '\x27'
  | '\x22' => some '\x22'
  | _ => none

/-- The letter before the code of a character and the number of its digits. -/
def codeForm (c : Char) : Char × Nat :=
  if c.toNat < 0x100 then ('x', 2) else if c.toNat < 0x10000 then ('u', 4) else ('U', 8)

/-- The digits are enough for the code. -/
theorem toNat_lt_codeForm (c : Char) : c.toNat < 16 ^ (codeForm c).2 := by
  -- no character has a code beyond `0x10ffff`
  have hvalid : c.toNat < 0x110000 := by
    have hvalid := c.valid
    simp only [UInt32.isValidChar, Nat.isValidChar, UInt32.toNat] at hvalid
    simp only [Char.toNat, UInt32.toNat]
    omega
  rw [codeForm]
  split
  · assumption
  split
  · assumption
  · exact Nat.lt_trans hvalid (by decide)

/-- A code is written as a letter and digits after a backslash. -/
private theorem codeEscape_eq (c : Char) :
    codeEscape c = '\\' :: (codeForm c).1 :: Text.hexDigits (codeForm c).2 c.toNat := by
  rw [codeEscape, codeForm]
  split
  · rfl
  · split <;> rfl

/-- Digits are printable. -/
private theorem isPrintable_of_isSome_hexValue? {unprintable : Char → Bool} {c : Char}
    (h : (Text.hexValue? c).isSome) : isPrintable unprintable c := by
  have hcode : 0x30 ≤ c.toNat ∧ c.toNat ≤ 0x39 ∨ 0x61 ≤ c.toNat ∧ c.toNat ≤ 0x66 ∨
      0x41 ≤ c.toNat ∧ c.toNat ≤ 0x46 := by
    rw [Text.hexValue?] at h
    split at h
    · exact .inl ‹_›
    split at h
    · exact .inr (.inl ‹_›)
    split at h
    · exact .inr (.inr ‹_›)
    · cases h
  have hascii : c.toNat < 128 := by omega
  have hlow : ' ' ≤ c := show (32 : Nat) ≤ c.toNat by omega
  have hhigh : c ≤ '~' := show c.toNat ≤ (126 : Nat) by omega
  simp [isPrintable, hascii, hlow, hhigh]

/-- The forms in which a character can stand between delimiters: for itself, as an escape of one
letter, or by its code. -/
inductive Item (unprintable : Char → Bool) (quote c : Char) : List Char → Prop
  | plain (hslash : c ≠ '\\') (hquote : c ≠ quote) (h : isPrintable unprintable c) :
    Item unprintable quote c [c]
  | simple {letter : Char} (h : simpleEscape? letter = some c) :
    Item unprintable quote c ['\\', letter]
  | code : Item unprintable quote c
      ('\\' :: (codeForm c).1 :: Text.hexDigits (codeForm c).2 c.toNat)

section Item

variable (unprintable : Char → Bool) {quote : Char} (hquote : IsQuote quote) (c : Char)

include hquote

/-- Every character is written in one of the forms. -/
theorem item_escapeChar : Item unprintable quote c (escapeChar unprintable quote c) := by
  rw [escapeChar]
  split
  · next h => exact .simple (by rw [h]; rfl)
  next hslash =>
  split
  · next h => exact .simple (by rw [h]; rfl)
  split
  · next h => exact .simple (by rw [h]; rfl)
  split
  · next h => exact .simple (by rw [h]; rfl)
  -- what is left is the quote, a character for itself, or one written by its code
  split
  · next h =>
    rw [h]
    rcases hquote with rfl | rfl <;> exact .simple rfl
  next hne =>
  split
  · next h => exact .plain hslash hne h
  · rw [codeEscape_eq]
    exact .code

/-- A character stands for itself if it is neither a backslash nor the delimiter. Otherwise a
backslash begins the item, and after the letter that follows it there is neither of the two. -/
theorem escapeChar_forms :
    (escapeChar unprintable quote c = [c] ∧ c ≠ '\\' ∧ c ≠ quote) ∨
      ∃ letter digits, escapeChar unprintable quote c = '\\' :: letter :: digits ∧
        ∀ d ∈ digits, d ≠ '\\' ∧ d ≠ quote := by
  have hitem := item_escapeChar unprintable hquote c
  generalize escapeChar unprintable quote c = item at hitem ⊢
  cases hitem with
  | plain hslash hne _ => exact .inl ⟨rfl, hslash, hne⟩
  | simple h => exact .inr ⟨_, [], rfl, List.forall_mem_nil _⟩
  | code =>
    refine .inr ⟨_, _, rfl, fun d hd => ?_⟩
    -- neither of the two is a digit
    have hvalue := Text.isSome_hexValue?_of_mem hd
    constructor
    · rintro rfl
      exact absurd hvalue (by decide)
    · rintro rfl
      rcases hquote with rfl | rfl <;> exact absurd hvalue (by decide)

/-- Only printable characters are used to write a character. -/
private theorem isPrintable_of_mem_escapeChar :
    ∀ d ∈ escapeChar unprintable quote c, isPrintable unprintable d := by
  have hitem := item_escapeChar unprintable hquote c
  generalize escapeChar unprintable quote c = item at hitem ⊢
  cases hitem with
  | plain _ _ h => exact List.forall_mem_singleton.mpr h
  | @simple letter h =>
    refine List.forall_mem_cons.mpr ⟨rfl, List.forall_mem_singleton.mpr ?_⟩
    rw [simpleEscape?.eq_def] at h
    split at h <;> first | rfl | cases h
  | code =>
    refine List.forall_mem_cons.mpr ⟨rfl, List.forall_mem_cons.mpr ⟨?_, fun d hd => ?_⟩⟩
    · rw [codeForm]
      split
      · rfl
      · split <;> rfl
    · exact isPrintable_of_isSome_hexValue? (Text.isSome_hexValue?_of_mem hd)

end Item

/-! ## String literals -/

/-- The characters of a string literal. -/
theorem toList_string (s : String) :
    (string s).toList = quoted Unicode.unprintable.contains s.toList := by
  rw [string, stringWith, String.toList_ofList]

/-- A string literal consists of printable characters. -/
theorem isPrintable_of_mem_quoted (unprintable : Char → Bool) (cs : List Char) :
    ∀ d ∈ quoted unprintable cs, isPrintable unprintable d := by
  have hquote := isQuote_delimiter (cs.contains singleQuote) (cs.contains doubleQuote)
  have hdelimiter {quote : Char} (h : IsQuote quote) : isPrintable unprintable quote := by
    rcases h with rfl | rfl <;> rfl
  refine List.forall_mem_cons.mpr ⟨hdelimiter hquote, List.forall_mem_append.mpr
    ⟨fun d hd => ?_, List.forall_mem_singleton.mpr (hdelimiter hquote)⟩⟩
  obtain ⟨c, -, hd⟩ := List.mem_flatMap.mp hd
  exact isPrintable_of_mem_escapeChar unprintable hquote c d hd

/-- A string literal stays on its line. -/
theorem newline_not_mem_quoted (unprintable : Char → Bool) (cs : List Char) :
    '\n' ∉ quoted unprintable cs := fun hmem =>
  absurd (isPrintable_of_mem_quoted unprintable cs '\n' hmem) Bool.false_ne_true

/-! ## Bytes literals -/

/-- The character with the code of a byte. -/
def byteChar (b : UInt8) : Char := Char.ofNat b.toNat

theorem toNat_byteChar (b : UInt8) : (byteChar b).toNat = b.toNat := by
  have hvalid : b.toNat.isValidChar := .inl (Nat.lt_trans b.toNat_lt (by decide))
  rw [byteChar, Char.ofNat, dif_pos hvalid]
  rfl

private theorem byteChar_injective {a b : UInt8} (h : byteChar a = byteChar b) : a = b :=
  UInt8.toNat_inj.mp (toNat_byteChar a ▸ toNat_byteChar b ▸ congrArg Char.toNat h)

/-- A byte is written as the character with its code is written where no character beyond ASCII has
a visible form. -/
private theorem escapeByte_eq {quote : Char} (hquote : IsQuote quote) (b : UInt8) :
    escapeByte quote b = escapeChar (fun _ => true) quote (byteChar b) := by
  -- both are tables of 256 entries for either quote
  have htable : ∀ n < 256, escapeByte quote (UInt8.ofNat n) =
      escapeChar (fun _ => true) quote (byteChar (UInt8.ofNat n)) := by
    rcases hquote with rfl | rfl <;> decide +kernel
  have hb := htable b.toNat b.toNat_lt
  rwa [UInt8.ofNat_toNat] at hb

/-- A bytes literal is the string literal of the characters with the codes of the bytes, with a
prefix. -/
theorem quotedBytes_eq (bs : List UInt8) :
    quotedBytes bs = 'b' :: quoted (fun _ => true) (bs.map byteChar) := by
  -- the quote is chosen in the same way
  have hcontains (b : UInt8) : bs.contains b = (bs.map byteChar).contains (byteChar b) := by
    rw [Bool.eq_iff_iff, List.contains_iff_mem, List.contains_iff_mem, List.mem_map]
    constructor
    · exact fun hmem => ⟨b, hmem, rfl⟩
    · rintro ⟨b', hmem, heq⟩
      exact byteChar_injective heq ▸ hmem
  have hitems {quote : Char} (hquote : IsQuote quote) :
      bs.flatMap (escapeByte quote) =
        (bs.map byteChar).flatMap (escapeChar (fun _ => true) quote) := by
    rw [List.flatMap_map]
    exact congrArg (bs.flatMap ·) (funext (escapeByte_eq hquote))
  rw [quotedBytes, quoted, hcontains 0x27, hcontains 0x22]
  exact congrArg (fun items => 'b' :: _ :: (items ++ [_])) (hitems (isQuote_delimiter ..))

/-- The characters of a bytes literal. -/
theorem toList_bytes (bs : List UInt8) : (bytes bs).toList = quotedBytes bs := by
  rw [bytes, String.toList_ofList]

end SyntaxDump.Literal
