import SyntaxDump.Indent
import SyntaxDump.Proofs.Term.Line

/-!
# Terms over several lines

The layout of a term is nothing but line breaks and margins: taking them out of the text of a term
gives its line, whichever of its parts are spread over several lines.
-/

namespace SyntaxDump.Term

open Text (isBlank Unbreaks)

/-- Under an indentation made of blanks, the pieces of a text are those of the line with line breaks
and margins between them. -/
private theorem pieces_some {unit : String} (hunit : ∀ c ∈ unit.toList, isBlank c) :
    Pieces (some unit) Unbreaks where
  append := Unbreaks.append
  solid := Text.unbreaks_of_solid
  separator level := by
    have hmargin (c : Char) (hc : c ∈ (Text.times unit level).toList) : isBlank c :=
      hunit c (Text.mem_of_mem_times hc)
    -- the space after the comma of a line is where the line break was
    rw [separator, String.toList_append]
    exact Text.unbreaks_comma_break hmargin
  opening bracket level hbracket := by
    have hmargin (c : Char) (hc : c ∈ (Text.times unit level).toList) : isBlank c :=
      hunit c (Text.mem_of_mem_times hc)
    have hsolid : Text.Solid [bracket] ∧ bracket ≠ ',' := by
      simp only [List.mem_cons, List.not_mem_nil, or_false] at hbracket
      rcases hbracket with rfl | rfl <;> decide
    obtain ⟨hsolid, hcomma⟩ := hsolid
    rw [opening, String.toList_append]
    exact Text.unbreaks_break hsolid hcomma hmargin

/-- Without its line breaks and margins the text of a term is its line. -/
theorem unbreak_text {t : Term} (h : t.Lexical) {unit : String}
    (hunit : ∀ c ∈ unit.toList, isBlank c) (level : Nat) :
    Text.unbreak (text (some unit) level t) = String.ofList t.line := by
  rw [Text.unbreak, (text_rel_line (pieces_some hunit) t h level).eq]

end SyntaxDump.Term

namespace SyntaxDump.Indent

/-- An indentation by spaces and tabs only. -/
def IsBlank : Indent → Prop
  | .spaces _ => True
  | .text t => ∀ c ∈ t.toList, Text.isBlank c

instance : (i : Indent) → Decidable i.IsBlank
  | .spaces _ => .isTrue trivial
  | .text t => decidable_of_iff (t.toList.all Text.isBlank = true) List.all_eq_true

/-- The unit of an indentation by blanks is made of blanks. -/
theorem IsBlank.unit {i : Indent} (h : i.IsBlank) : ∀ c ∈ i.unit.toList, Text.isBlank c := by
  cases i with
  | spaces n =>
    intro c hc
    obtain rfl := List.mem_singleton.mp (Text.mem_of_mem_times hc)
    rfl
  | text t => exact h

end SyntaxDump.Indent
