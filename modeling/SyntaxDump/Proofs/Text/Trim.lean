import SyntaxDump.Text.Trim

/-!
# Texts that trimming leaves alone

Trimming takes away white space at the end and nothing else, so it leaves a text as it is that ends
in any other character.

## Main statements

- `Text.trimEnd_eq_self`: a text that ends in a character other than white space;
- `Text.trimEnd_append_newline`: such a text with a line break after it.
-/

namespace SyntaxDump.Text

/-- The last character is there and is no white space. -/
def EndsVisible (cs : List Char) : Prop := ∃ front c, cs = front ++ [c] ∧ isWhite c = false

namespace EndsVisible

/-- Only the end matters. -/
theorem append (front : List Char) {back : List Char} (h : EndsVisible back) :
    EndsVisible (front ++ back) := by
  obtain ⟨more, c, rfl, hc⟩ := h
  exact ⟨front ++ more, c, (List.append_assoc ..).symm, hc⟩

/-- A text that is closed by a character. -/
theorem concat (front : List Char) {c : Char} (h : isWhite c = false) :
    EndsVisible (front ++ [c]) :=
  ⟨front, c, rfl, h⟩

/-- A text without white space that is not empty. -/
theorem of_forall {cs : List Char} (hne : cs ≠ []) (h : ∀ c ∈ cs, isWhite c = false) :
    EndsVisible cs := by
  rw [← List.dropLast_concat_getLast hne]
  exact concat cs.dropLast (h _ (List.getLast_mem hne))

end EndsVisible

/-- Trimming leaves a text as it is that does not end in white space. -/
theorem trimEnd_eq_self {s : String} (h : EndsVisible s.toList) : trimEnd s = s := by
  obtain ⟨front, c, hs, hc⟩ := h
  have hdrop : s.toList.reverse.dropWhile isWhite = s.toList.reverse := by
    rw [hs, List.reverse_append, List.reverse_singleton, List.singleton_append,
      List.dropWhile_cons_of_neg (by simp [hc])]
  rw [trimEnd, hdrop, List.reverse_reverse, String.ofList_toList]

/-- Trimming takes away a line break after such a text. -/
theorem trimEnd_append_newline {s : String} (h : EndsVisible s.toList) :
    trimEnd (s ++ "\n") = s := by
  have hnewline : ("\n" : String).toList = ['\n'] := rfl
  have htrim : trimEnd (s ++ "\n") = trimEnd s := by
    rw [trimEnd, trimEnd, String.toList_append, hnewline, List.reverse_append,
      List.reverse_singleton, List.singleton_append, List.dropWhile_cons_of_pos (by decide)]
  rw [htrim, trimEnd_eq_self h]

end SyntaxDump.Text
