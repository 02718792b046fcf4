import SyntaxDump.Build
import SyntaxDump.Proofs.Dump.Lexical
import SyntaxDump.Proofs.Term.Margins

/-!
# Margins of dumps

In a dump that is indented by spaces the margin of each line shows how deep the line is nested: it
is as wide as the open brackets before it ask for, and each line break comes where the brackets or a
comma let one expect it.

## Main statement

- `Node.margin_of_newline`: the margin after each line break of a dump.
-/

namespace SyntaxDump

open Term (Nesting)

/-- At each line break in a dump indented by `spaces` the number of spaces after it is `spaces`
times the number of brackets that have been opened before and not yet closed, outside of literals.
Right before it stands an opening bracket or a comma that is in no literal. -/
theorem Node.margin_of_newline {c : Category} (n : Node c) (o : DumpOptions) (spaces : UInt64)
    {before after : List Char}
    (h : (n.render (o.withIndent (some (.spaces spaces)))).toList = before ++ '\n' :: after) :
    (∃ brackets, (Nesting.outside []).after before = .outside brackets ∧
      (after.takeWhile (· == ' ')).length = spaces.toNat * brackets.length) ∧
    ∃ front mark others, before = front ++ [mark] ∧ mark ∈ ['(', '[', ','] ∧
      (Nesting.outside []).after front = .outside others := by
  -- a dump is the text of a term at the outermost level, with nothing after it
  have hmargins := Term.margins_text (n := spaces.toNat) _
    (n.lexical_term (o.withIndent (some (.spaces spaces)))) [] Term.Margins.nil
  rw [List.append_nil] at hmargins
  obtain ⟨front, mark, brackets, hbefore, hmark, ⟨others, hothers⟩, hafter, hmargin⟩ :=
    hmargins before after h
  exact ⟨⟨brackets, hafter, hmargin⟩, front, mark, others, hbefore, hmark, hothers⟩

/-- A call with a string that contains brackets and a line break. The line after it has the margin
of the call, although the string opens brackets. -/
theorem Node.margin_of_newline_call :
    let n : Expr := Expr.call (Expr.name "f") [Expr.constant (.str "([\n")]
    let before :=
      "Call(\n  func=Name(id='f', ctx=Load()),\n  args=[\n    Constant(value='([\\n')],".toList
    let after := "  keywords=[])".toList
    (n.render (DumpOptions.default.withIndent (some (.spaces 2)))).toList =
        before ++ '\n' :: after ∧
      (∃ brackets, (Nesting.outside []).after before = .outside brackets ∧
        (after.takeWhile (· == ' ')).length = 2 * brackets.length) ∧
      ∃ front mark others, before = front ++ [mark] ∧ mark ∈ ['(', '[', ','] ∧
        (Nesting.outside []).after front = .outside others := by
  intro n before after
  have htext : (n.render (DumpOptions.default.withIndent (some (.spaces 2)))).toList =
      before ++ '\n' :: after := by decide +kernel
  exact ⟨htext, Node.margin_of_newline n DumpOptions.default 2 htext⟩

end SyntaxDump
