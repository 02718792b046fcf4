/-!
# Texts as bytes

In UTF-8 a character of ASCII is a single byte, its code, and every other character takes several.
The order of texts, character by character, is that of their bytes.

## Main statements

- `Text.utf8_of_ascii`, `Text.length_utf8_eq_iff`: the texts with one byte for each character;
- `Text.utf8_lt_utf8`: the order of texts and that of their bytes.
-/

namespace SyntaxDump.Text

/-- The bytes of a text in UTF-8. -/
def utf8 (s : String) : List UInt8 := s.toUTF8.data.toList

/-- A text is encoded character by character. -/
theorem utf8_eq (s : String) : utf8 s = s.toList.flatMap String.utf8EncodeChar := by
  rw [utf8, String.toUTF8, ← String.utf8Encode_toList, List.utf8Encode, List.data_toByteArray]

/-! ## ASCII -/

/-- A character of ASCII is its code. -/
private theorem utf8EncodeChar_of_ascii {c : Char} (h : c.toNat < 128) :
    String.utf8EncodeChar c = [UInt8.ofNat c.toNat] :=
  if_pos (Nat.le_of_lt_succ h)

/-- Other characters take more than one byte. -/
private theorem one_lt_length_utf8EncodeChar {c : Char} (h : ¬ c.toNat < 128) :
    1 < (String.utf8EncodeChar c).length := by
  have hcode : ¬ c.val.toNat ≤ 127 := fun hle => h (Nat.lt_succ_of_le hle)
  rw [String.utf8EncodeChar]
  simp only [if_neg hcode]
  split
  · exact Nat.lt_succ_self 1
  · split <;> simp

/-- The bytes of a text of ASCII are the codes of its characters. -/
theorem utf8_of_ascii {s : String} (h : ∀ c ∈ s.toList, c.toNat < 128) :
    utf8 s = s.toList.map fun c => UInt8.ofNat c.toNat := by
  rw [utf8_eq, List.map_eq_flatMap, List.flatMap_def, List.flatMap_def]
  exact congrArg List.flatten (List.map_congr_left fun c hc => utf8EncodeChar_of_ascii (h c hc))

/-- A text has as many bytes as characters exactly if it consists of ASCII. -/
theorem length_utf8_eq_iff (s : String) :
    (utf8 s).length = s.toList.length ↔ ∀ c ∈ s.toList, c.toNat < 128 := by
  constructor
  · intro h
    rw [utf8_eq] at h
    have hle (cs : List Char) : cs.length ≤ (cs.flatMap String.utf8EncodeChar).length := by
      induction cs with
      | nil => exact Nat.le_refl 0
      | cons c cs ih =>
        have hchar : 0 < (String.utf8EncodeChar c).length :=
          List.length_pos_iff.mpr String.utf8EncodeChar_ne_nil
        rw [List.flatMap_cons, List.length_append, List.length_cons]
        omega
    intro c hc
    -- the text with one character that takes several bytes has more bytes than characters
    obtain ⟨front, back, hsplit⟩ := List.append_of_mem hc
    refine Decidable.byContradiction fun hcode => ?_
    have hchar := one_lt_length_utf8EncodeChar hcode
    have hfront := hle front
    have hback := hle back
    rw [hsplit, List.flatMap_append, List.flatMap_cons] at h
    simp only [List.length_append, List.length_cons] at h
    omega
  · intro h
    rw [utf8_of_ascii h, List.length_map]

/-! ## Order -/

/-- What begins with a smaller byte, or with the same byte before something smaller, is smaller. -/
private theorem byte_cons_lt {a b : Nat} {x y : List UInt8} (hb : b < 256) (hle : a ≤ b)
    (h : a = b → x < y) : UInt8.ofNat a :: x < UInt8.ofNat b :: y := by
  have ha : a < 256 := Nat.lt_of_le_of_lt hle hb
  rw [List.cons_lt_cons_iff, UInt8.lt_iff_toNat_lt, UInt8.toNat_ofNat_of_lt' ha,
    UInt8.toNat_ofNat_of_lt' hb]
  exact (Nat.lt_or_eq_of_le hle).imp_right fun heq => ⟨congrArg UInt8.ofNat heq, h heq⟩

/-- The bytes of a smaller character are smaller, whatever follows them. -/
private theorem utf8EncodeChar_append_lt {c d : Char} (h : c < d) (x y : List UInt8) :
    String.utf8EncodeChar c ++ x < String.utf8EncodeChar d ++ y := by
  have hcd : c.val.toNat < d.val.toNat := h
  have hd : d.val.toNat < 0x110000 := by
    have hvalid := d.valid
    simp only [UInt32.isValidChar, Nat.isValidChar] at hvalid
    omega
  simp only [String.utf8EncodeChar]
  generalize c.val.toNat = m at hcd
  generalize d.val.toNat = n at hcd hd
  -- every byte after the first holds six binary digits
  have hm : m / 4096 = m / 64 / 64 ∧ m / 262144 = m / 64 / 64 / 64 := by omega
  have hn : n / 4096 = n / 64 / 64 ∧ n / 262144 = n / 64 / 64 / 64 := by omega
  -- if one takes more bytes than the other, the first bytes differ; otherwise some byte does
  repeat' split
  all_goals
    repeat refine byte_cons_lt (by omega) (by omega) fun _ => ?_
    omega

/-- A smaller text has smaller bytes. -/
theorem utf8_lt_utf8 {s t : String} (h : s < t) : utf8 s < utf8 t := by
  have hlt {cs ds : List Char} (h : cs < ds) :
      cs.flatMap String.utf8EncodeChar < ds.flatMap String.utf8EncodeChar := by
    induction h with
    | @nil d ds =>
      obtain ⟨b, bs, hbytes⟩ := List.exists_cons_of_ne_nil (String.utf8EncodeChar_ne_nil (c := d))
      rw [List.flatMap_nil, List.flatMap_cons, hbytes]
      exact List.nil_lt_cons b _
    | @cons c cs ds _ ih =>
      rw [List.flatMap_cons, List.flatMap_cons]
      exact List.append_left_lt ih
    | rel h =>
      rw [List.flatMap_cons, List.flatMap_cons]
      exact utf8EncodeChar_append_lt h _ _
  rw [utf8_eq, utf8_eq]
  exact hlt (String.lt_iff.mp h)

end SyntaxDump.Text
