import SyntaxDump.Format
import SyntaxDump.Proofs.Document.Description
import SyntaxDump.Proofs.Outline.Lexical
import SyntaxDump.Proofs.Text.Trim

/-!
# The ends of output

No format ends its text in white space, whatever texts a tree holds: dumps and documents end in a
closing bracket, and each line of a drawing in a name, a number, a quote or the points of a label
that is cut off. So trimming takes nothing away from a dump or a document, and from a drawing only
the last line break.

## Main statements

- `Tree.trimEnd_dump`, `Json.trimEnd_pretty`: dumps and documents are left as they are;
- `Tree.trimEnd_outline`: a drawing loses its last line break, which follows its last line.
-/

namespace SyntaxDump

open Text (EndsVisible)

/-! ## Atoms -/

/-- The codes of white space. -/
private def whiteCodes : List Nat :=
  [9, 10, 11, 12, 13, 0x20, 0x85, 0xa0, 0x1680, 0x2000, 0x2001, 0x2002, 0x2003, 0x2004, 0x2005,
    0x2006, 0x2007, 0x2008, 0x2009, 0x200a, 0x2028, 0x2029, 0x202f, 0x205f, 0x3000]

/-- The characters of names and numbers are no white space. -/
theorem isWhite_of_isWordChar {c : Char} (h : isWordChar c) : Text.isWhite c = false := by
  by_contra hwhite
  have hmem : c.toNat ∈ whiteCodes := by
    simp [Text.isWhite] at hwhite
    simp only [whiteCodes, List.mem_cons, List.not_mem_nil]
    omega
  have hword : ∀ n ∈ whiteCodes, isWordChar (Char.ofNat n) = false := by decide
  have hc := hword c.toNat hmem
  rw [Char.ofNat_toNat, h] at hc
  cases hc

/-- A name or a number does not end in white space. -/
theorem IsWord.endsVisible {text : String} (h : IsWord text) : EndsVisible text.toList :=
  .of_forall h.nonempty fun c hc => isWhite_of_isWordChar (h.chars c hc)

/-- Quotes are no white space. -/
private theorem endsVisible_quoted (unprintable : Char → Bool) (cs : List Char) :
    EndsVisible (Literal.quoted unprintable cs) := by
  have hquote : Text.isWhite (Literal.delimiter (cs.contains Literal.singleQuote)
      (cs.contains Literal.doubleQuote)) = false := by
    rcases Literal.isQuote_delimiter (cs.contains Literal.singleQuote)
      (cs.contains Literal.doubleQuote) with h | h <;> rw [h] <;> decide
  rw [Literal.quoted, ← List.cons_append]
  exact .concat _ hquote

/-- An atom does not end in white space. -/
theorem IsAtom.endsVisible {text : String} (h : IsAtom text) : EndsVisible text.toList := by
  cases h with
  | word h => exact h.endsVisible
  | string s => exact Literal.toList_string s ▸ endsVisible_quoted _ _
  | bytes bs =>
    rw [Literal.toList_bytes, Literal.quotedBytes_eq]
    exact (endsVisible_quoted _ _).append ['b']

/-! ## Dumps -/

/-- A call is closed by a parenthesis, on one line as well as over several. -/
theorem Term.endsVisible_text (unit : Option String) (level : Nat) (name : String)
    (args : List (Option String × Term)) :
    EndsVisible ((Term.call name args).text unit level).toList := by
  -- what stands before the parenthesis does not matter
  have hclose (front : String) : EndsVisible (front ++ ")").toList := by
    rw [String.toList_append]
    exact .concat front.toList (by decide)
  rw [Term.text]
  split
  · exact hclose _
  · exact hclose _

/-- The dump of a node does not end in white space. -/
theorem Node.endsVisible_render {c : Category} (n : Node c) (o : DumpOptions) :
    EndsVisible (n.render o).toList := by
  cases n with
  | mk k fs place =>
    rw [Node.render, Node.term_mk]
    exact Term.endsVisible_text _ _ _ _

/-- Trimming leaves a dump as it is, under any options. -/
theorem Tree.trimEnd_dump (t : Tree Root) (o : DumpOptions) (indent : Option Indent)
    (level : UInt64) :
    Text.trimEnd ((t.map (Configured.mk o)).dump indent level) =
      (t.map (Configured.mk o)).dump indent level := by
  cases t with
  | single r =>
    refine Text.trimEnd_eq_self ?_
    change EndsVisible (r.render (o.withIndent indent)).toList
    cases r <;> exact Node.endsVisible_render _ _
  | many rs =>
    refine Text.trimEnd_eq_self ?_
    rw [Tree.map, Tree.dump, String.toList_append]
    exact .concat _ (by decide)

/-! ## Documents -/

/-- The document of a node is an object, and that of a sequence an array. -/
private theorem Tree.toJson_eq_ok_cases {t : Tree Root} {j : Json} (h : t.toJson = .ok j) :
    (∃ members, j = .obj members) ∨ ∃ items, j = .arr items := by
  have hnode {c : Category} {n : Node c} (h : n.toJson = .ok j) :
      (∃ members, j = .obj members) ∨ ∃ items, j = .arr items :=
    .inl (Node.exists_members_of_toJson h)
  cases t with
  | single r => cases r <;> exact hnode h
  | many rs =>
    obtain ⟨items, -, rfl⟩ := Except.map_eq_ok_iff.mp h
    exact .inr ⟨items, rfl⟩

/-- Trimming leaves the document of a tree as it is. -/
theorem Tree.trimEnd_pretty {t : Tree Root} {j : Json} (h : t.toJson = .ok j) :
    Text.trimEnd j.pretty = j.pretty := by
  refine Text.trimEnd_eq_self ?_
  rw [Json.pretty, String.toList_ofList]
  rcases t.toJson_eq_ok_cases h with ⟨members, rfl⟩ | ⟨items, rfl⟩
  · cases members with
    | nil => exact .concat ['\x7b'] (by decide)
    | cons m rest =>
      rw [Json.write, ← List.cons_append]
      exact .concat _ (by decide)
  · cases items with
    | nil => exact .concat ['['] (by decide)
    | cons j rest =>
      rw [Json.write, ← List.cons_append]
      exact .concat _ (by decide)

/-! ## Drawings -/

/-- A joined text ends like the last of the texts. -/
private theorem endsVisible_intercalate {separator : String} {ts : List String} (hne : ts ≠ [])
    (h : ∀ t ∈ ts, EndsVisible t.toList) : EndsVisible (separator.intercalate ts).toList := by
  induction ts with
  | nil => exact absurd rfl hne
  | cons t rest ih =>
    obtain ⟨ht, hrest⟩ := List.forall_mem_cons.mp h
    cases rest with
    | nil => rwa [String.intercalate_singleton]
    | cons s rest =>
      rw [String.intercalate_cons_cons, String.toList_append]
      exact (ih (List.cons_ne_nil s rest) hrest).append _

/-- A label that is cut off ends in points. -/
private theorem Outline.endsVisible_shorten {label : String} (h : EndsVisible label.toList) :
    EndsVisible (Outline.shorten label).toList := by
  rw [Outline.shorten]
  split
  · rw [String.toList_append]
    exact EndsVisible.append _ (.concat ['.', '.'] (by decide))
  · exact h

/-- The part of a label for a field does not end in white space. -/
private theorem AnyNode.endsVisible_of_mem_labelParts (n : AnyNode) :
    ∀ part ∈ n.2.labelParts, EndsVisible part.toList := by
  intro part hpart
  obtain ⟨name, text, -, htext, rfl⟩ := exists_of_mem_labelParts hpart
  rw [String.toList_append]
  exact htext.endsVisible.append _

/-- What a line says of a node does not end in white space. -/
private theorem AnyNode.endsVisible_line (n : AnyNode) :
    EndsVisible (Outline.line n.2.outline.className n.2.outline.label).toList := by
  rw [n.outline_eq, Outline.className, Outline.label, Outline.toList_line]
  split
  · rw [List.append_nil]
    exact n.2.kind.isWord_className.endsVisible
  · next hlabel =>
    -- a label that is not empty is that of a field, or is cut off
    have hne : n.2.labelParts ≠ [] := fun hnil => hlabel (by rw [Node.label, hnil]; rfl)
    exact EndsVisible.append _ (EndsVisible.append [':', ' '] (Outline.endsVisible_shorten
      (endsVisible_intercalate hne n.endsVisible_of_mem_labelParts)))

/-- The line of a vertex does not end in white space. -/
private theorem Tree.endsVisible_lineAt {t : Tree Root} {v : Outline.Vertex}
    (h : v ∈ Outline.verticesFrom 0 t.forest) :
    EndsVisible (Outline.lineAt t.forest v).toList := by
  obtain ⟨n, -, houtline⟩ := Tree.exists_of_mem_vertices h
  rw [Outline.lineAt, houtline, String.toList_append]
  exact n.endsVisible_line.append _

/-- Of whole lines trimming takes away the last line break, if no line ends in white space. -/
private theorem trimEnd_unlines {ls : List String} (hne : ls ≠ [])
    (h : ∀ l ∈ ls, EndsVisible l.toList) :
    Text.trimEnd (Text.unlines ls) ++ "\n" = Text.unlines ls := by
  have hlast := h _ (List.getLast_mem hne)
  rw [← List.dropLast_concat_getLast hne, Text.unlines_append, Text.unlines_cons]
  change Text.trimEnd (Text.unlines _ ++ (ls.getLast hne ++ "\n" ++ "")) ++ "\n" =
    Text.unlines _ ++ (ls.getLast hne ++ "\n" ++ "")
  rw [String.append_empty, ← String.append_assoc, Text.trimEnd_append_newline]
  rw [String.toList_append]
  exact hlast.append _

/-- Of a drawing trimming takes away the last line break. -/
theorem Tree.trimEnd_outline {t : Tree Root} (h : t.nodes ≠ []) :
    Text.trimEnd t.outline ++ "\n" = t.outline := by
  have hvertices : Outline.verticesFrom 0 t.forest ≠ [] := by
    obtain ⟨r, rest, hnodes⟩ := List.exists_cons_of_ne_nil h
    rw [Tree.forest, hnodes, List.map_cons, AnyNode.outline_eq, Outline.verticesFrom,
      Outline.vertices, List.map_cons, List.cons_append]
    exact List.cons_ne_nil _ _
  rw [t.outline_eq, Outline.drawAll_eq_unlines]
  refine trimEnd_unlines (mt List.map_eq_nil_iff.mp hvertices) fun l hl => ?_
  obtain ⟨v, hv, rfl⟩ := List.mem_map.mp hl
  exact Tree.endsVisible_lineAt hv

/-- The drawing of an empty sequence is empty. -/
theorem Tree.outline_eq_empty {t : Tree Root} (h : t.nodes = []) : t.outline = "" := by
  rw [Tree.outline, h]
  rfl

end SyntaxDump
