import SyntaxDump.Proofs.Literal.Reading
import SyntaxDump.Proofs.Text.Utf8

/-!
# Literals of ASCII texts

How a character of ASCII is written does not depend on which other characters have a visible form.
So a text of ASCII and its bytes have the same literal up to the prefix. A character beyond ASCII
takes several bytes, which are written one by one.

## Main statements

- `Literal.quoted_congr`: literals of ASCII texts under different tables;
- `Literal.bytes_utf8_eq_iff`: which texts have the same literal as their bytes.
-/

namespace SyntaxDump.Literal

variable {unprintable unprintable' : Char → Bool} {cs ds : List Char}

/-- The table of characters without a visible form does not decide about ASCII. -/
theorem escapeChar_congr {c : Char} (h : c.toNat < 128) (quote : Char) :
    escapeChar unprintable quote c = escapeChar unprintable' quote c := by
  have hprintable : isPrintable unprintable c = isPrintable unprintable' c := by
    rw [isPrintable, isPrintable, if_pos h, if_pos h]
  rw [escapeChar, escapeChar, hprintable]

/-- A text of ASCII has the same literal whichever other characters have a visible form. -/
theorem quoted_congr (h : ∀ c ∈ cs, c.toNat < 128) :
    quoted unprintable cs = quoted unprintable' cs := by
  have hitems (quote : Char) : cs.flatMap (escapeChar unprintable quote) =
      cs.flatMap (escapeChar unprintable' quote) := by
    rw [List.flatMap_def, List.flatMap_def]
    exact congrArg List.flatten (List.map_congr_left fun c hc => escapeChar_congr (h c hc) quote)
  rw [quoted, quoted, hitems]

/-- Literals that are the same are so of the same text, also under different tables. -/
theorem eq_of_quoted_eq (h : quoted unprintable cs = quoted unprintable' ds) : cs = ds := by
  have hread (table : Char → Bool) (content : List Char) :
      readString (quoted table content) = some (content, []) := by
    have hread := readLiteral_quoted (Alphabet.denotes_text table) content []
    rwa [List.map_id', List.append_nil] at hread
  have hcontent := hread unprintable cs
  rw [h, hread] at hcontent
  exact (Prod.mk.inj (Option.some.inj hcontent)).1.symm

/-- The characters with the codes of the bytes of an ASCII text are those of the text. -/
private theorem map_byteChar_utf8 {s : String} (h : ∀ c ∈ s.toList, c.toNat < 128) :
    (Text.utf8 s).map byteChar = s.toList := by
  rw [Text.utf8_of_ascii h, List.map_map]
  refine (List.map_congr_left fun c hc => ?_).trans (List.map_id _)
  have hbyte : (UInt8.ofNat c.toNat).toNat = c.toNat :=
    UInt8.toNat_ofNat_of_lt' (Nat.lt_trans (h c hc) (by decide))
  rw [Function.comp_apply, byteChar, hbyte, Char.ofNat_toNat]
  rfl

/-- The literal of the bytes of a text is that of the text with the prefix in front exactly if the
text consists of ASCII. -/
theorem bytes_utf8_eq_iff (s : String) :
    bytes (Text.utf8 s) = "b" ++ string s ↔ ∀ c ∈ s.toList, c.toNat < 128 := by
  have hliterals : bytes (Text.utf8 s) = "b" ++ string s ↔
      quoted (fun _ => true) ((Text.utf8 s).map byteChar) =
        quoted Unicode.unprintable.contains s.toList := by
    rw [← String.toList_inj, toList_bytes, quotedBytes_eq, String.toList_append, toList_string]
    exact List.cons_inj_right 'b'
  rw [hliterals]
  constructor
  · intro h
    -- as many bytes as characters
    have hlength := congrArg List.length (eq_of_quoted_eq h)
    rw [List.length_map] at hlength
    exact (Text.length_utf8_eq_iff s).mp hlength
  · intro h
    rw [map_byteChar_utf8 h]
    exact quoted_congr h

example : bytes (Text.utf8 "it's\t\x7f") = "b\"it's\\t\\x7f\"" ∧
    string "it's\t\x7f" = "\"it's\\t\\x7f\"" := by
  decide +kernel

end SyntaxDump.Literal
