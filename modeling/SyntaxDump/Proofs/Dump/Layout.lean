import SyntaxDump.Build
import SyntaxDump.Proofs.Dump.Lexical
import SyntaxDump.Proofs.Term.Layout

/-!
# Dumps over several lines

An indentation by blanks changes the layout of a dump and nothing else.

## Main statements

- `Node.render_none`: a dump without an indentation is the line of the term of the node;
- `Node.unbreak_render`: taking line breaks and margins out of any other dump gives the same.
-/

namespace SyntaxDump

/-- Without an indentation a node is dumped as the line of its term. -/
theorem Node.render_none {c : Category} (n : Node c) {o : DumpOptions} (h : o.indent = none) :
    n.render o = String.ofList (n.term o).line := by
  rw [Node.render, h, Option.map_none, ← String.toList_inj, String.toList_ofList]
  exact Term.toList_text_none (n.lexical_term o) 0

/-- Line breaks and margins out of the dump of a node leave the line of its term. -/
theorem Node.unbreak_render_some {c : Category} (n : Node c) {o : DumpOptions} {i : Indent}
    (h : o.indent = some i) (hi : i.IsBlank) :
    Text.unbreak (n.render o) = String.ofList (n.term o).line := by
  rw [Node.render, h]
  exact Term.unbreak_text (n.lexical_term o) hi.unit 0

/-- The dump of a node over several lines becomes the dump on one line when every line break is
taken out together with the blanks after it, with a space in its place after a comma. -/
theorem Node.unbreak_render {c : Category} (n : Node c) (o : DumpOptions) {i : Indent}
    (hi : i.IsBlank) :
    Text.unbreak (n.render (o.withIndent (some i))) = n.render (o.withIndent none) := by
  rw [Node.unbreak_render_some n rfl hi, Node.render_none n rfl, Node.term_withIndent,
    Node.term_withIndent]

/-- A call with a list that is spread over several lines, with its margins of a tab and a space,
and in it a string with line breaks and a comma before blanks. -/
theorem Node.unbreak_render_call :
    let n : Expr := Expr.call (Expr.name "f") [Expr.constant (.str "a,\n b"), Expr.name "x"]
    (Indent.text "\t ").IsBlank ∧
      Text.unbreak (n.render (DumpOptions.default.withIndent (some (.text "\t ")))) =
        n.render (DumpOptions.default.withIndent none) := by
  intro n
  have hblank : (Indent.text "\t ").IsBlank := by decide
  exact ⟨hblank, Node.unbreak_render n DumpOptions.default hblank⟩

end SyntaxDump
