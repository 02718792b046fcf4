import Mathlib.Tactic.SplitIfs
import SyntaxDump.Json.Reader
import SyntaxDump.Json.Writer
import SyntaxDump.Proofs.Text.Hex

/-!
# Strings in JSON text

A string is written between quotes, with escapes for quotes, backslashes and control characters, and
everything else as it is. Every character of it, written either way, is read back as itself.

## Main statement

- `Json.readCharacters_writeString`: a string is read back, whatever follows its closing quote.
-/

namespace SyntaxDump.Json

/-- An escape of one letter is read as the character that it stands for. -/
private theorem readCharacters_simpleEscape {letter c : Char} (h : simpleEscape? letter = some c)
    (read rest : List Char) :
    readCharacters read ('\\' :: letter :: rest) = readCharacters (c :: read) rest := by
  -- the letter of escapes by code is not one of these
  have hcode : letter ≠ 'u' := by
    rintro rfl
    cases h
  rw [readCharacters]
  · simp only [h]
  · exact fun _ _ _ _ _ hletter => absurd hletter hcode
  · exact hcode

/-- An escape by code is read as the character with the code, as long as that is no part of a
pair. -/
private theorem readCharacters_codeEscape {c : Char} (h : c.toNat < 0x20) (read rest : List Char) :
    readCharacters read ('\\' :: 'u' :: (Text.hexDigits 4 c.toNat ++ rest)) =
      readCharacters (c :: read) rest := by
  -- four digits stand after the letter, and they spell the code
  obtain ⟨d₁, d₂, d₃, d₄, hdigits⟩ : ∃ d₁ d₂ d₃ d₄, Text.hexDigits 4 c.toNat = [d₁, d₂, d₃, d₄] :=
    ⟨_, _, _, _, rfl⟩
  have hunit : codeUnit? d₁ d₂ d₃ d₄ = some c.toNat := by
    rw [codeUnit?, ← hdigits, Text.ofHex?_hexDigits, Nat.mod_eq_of_lt (by omega)]
  have hlow : isLow c.toNat = false := by simp [isLow]; omega
  have hhigh : isHigh c.toNat = false := by simp [isHigh]; omega
  rw [hdigits]
  simp [readCharacters, hunit, hlow, hhigh]

/-- A character that needs no escape is read as itself. -/
private theorem readCharacters_plain {c : Char} (hquote : c ≠ '\x22') (hslash : c ≠ '\\')
    (hcontrol : ¬ c.toNat < 0x20) (read rest : List Char) :
    readCharacters read (c :: rest) = readCharacters (c :: read) rest := by
  rw [readCharacters, if_neg hcontrol]
  · exact hquote
  all_goals intros; exact hslash ‹_›

/-- A character of a string is read back as itself. -/
theorem readCharacters_escapeChar (c : Char) (read rest : List Char) :
    readCharacters read (escapeChar c ++ rest) = readCharacters (c :: read) rest := by
  rw [escapeChar]
  split_ifs with hquote hslash
  -- seven characters have an escape of one letter
  any_goals
    subst c
    exact readCharacters_simpleEscape rfl read rest
  · exact readCharacters_codeEscape ‹_› read rest
  · exact readCharacters_plain hquote hslash ‹_› read rest

/-- The characters of a string are read back one by one, up to the closing quote. -/
private theorem readCharacters_flatMap (cs read rest : List Char) :
    readCharacters read (cs.flatMap escapeChar ++ '\x22' :: rest) =
      .ok (String.ofList (read.reverse ++ cs), rest) := by
  induction cs generalizing read with
  | nil => simp [readCharacters]
  | cons c cs ih =>
    rw [List.flatMap_cons, List.append_assoc, readCharacters_escapeChar, ih, List.reverse_cons,
      List.append_assoc, List.singleton_append]

/-- A string is read back from its text, whatever follows it; its opening quote has been read. -/
theorem readCharacters_writeString (s : String) (rest : List Char) :
    readCharacters [] (s.toList.flatMap escapeChar ++ '\x22' :: rest) = .ok (s, rest) := by
  rw [readCharacters_flatMap, List.reverse_nil, List.nil_append, String.ofList_toList]

end SyntaxDump.Json
