import SyntaxDump.Proofs.Dump.Lexical
import SyntaxDump.Proofs.Outline.Forest
import SyntaxDump.Proofs.Term.Line

/-!
# The lexical form of outlines

Labels are made of literals, so they stay on their line whatever texts a node holds, also when they
are cut off. This is all that is needed of the labels to find the lines of a drawing again and to
tell drawings apart.

## Main statements

- `AnyNode.lexical_outline`: the outline of a node has lexical form;
- `Tree.newline_not_mem_lineAt`: the lines of a drawing have no line breaks in them.
-/

namespace SyntaxDump

namespace Outline

mutual

/-- The classes in an outline are words and its labels stay on their lines. -/
def Lexical : Outline → Prop
  | .mk className label children => IsWord className ∧ '\n' ∉ label.toList ∧ LexicalAll children

/-- Sibling outlines have lexical form. -/
def LexicalAll : List Outline → Prop
  | [] => True
  | t :: rest => t.Lexical ∧ LexicalAll rest

end

/-- Sibling outlines have lexical form if each of them has. -/
theorem lexicalAll_iff {ts : List Outline} : LexicalAll ts ↔ ∀ t ∈ ts, t.Lexical := by
  induction ts with
  | nil => simp [LexicalAll]
  | cons t rest ih => rw [LexicalAll, ih, List.forall_mem_cons]

/-- A label that is cut off consists of characters of the label and of points. -/
private theorem mem_of_mem_shorten {label : String} {c : Char} (h : c ∈ (shorten label).toList) :
    c ∈ label.toList ∨ c = '.' := by
  unfold shorten at h
  split at h
  · rw [String.toList_append, List.mem_append, String.toList_ofList] at h
    refine h.imp List.mem_of_mem_take fun hmark => ?_
    simpa using hmark
  · exact .inl h

end Outline

/-! ## Labels -/

/-- A scalar that is shown as a literal is the atom that it is in a dump. -/
private theorem Scalar.term?_of_view {s : Scalar} {v : s.Value} {text : String}
    (h : s.view v = .scalar text) : s.term? v = some (.atom text) := by
  cases s with
  | identifier | dottedName | constant | level | conversion =>
    obtain rfl := FieldView.scalar.inj h
    rfl
  | optionalIdentifier | optionalDottedName | optionalText =>
    cases v with
    | none => cases h
    | some w =>
      obtain rfl := FieldView.scalar.inj h
      rfl
  | identifiers => cases h

/-- What a field shows of itself in a label is a literal. -/
private theorem Slot.isAtom_of_view {k : Content} {slot : Slot k} {text : String}
    (h : slot.view = .scalar text) : IsAtom text := by
  cases slot with
  | node n | absent | present n | list ns => cases h
  | scalar v => exact Scalar.lexical_term? _ v _ (Scalar.term?_of_view h)

private theorem Fields.isAtom_of_mem_views {name text : String} : {fs : List Field} →
    (v : Fields fs) → (name, .scalar text) ∈ v.views → IsAtom text
  | _, .nil, h => nomatch h
  | _, .cons slot rest, h => by
    rcases List.mem_cons.mp h with h | h
    · exact Slot.isAtom_of_view (Prod.mk.inj h).2.symm
    · exact rest.isAtom_of_mem_views h

/-- A part of a label is the name of a field and the literal in it. -/
theorem AnyNode.exists_of_mem_labelParts {n : AnyNode} {part : String}
    (h : part ∈ n.2.labelParts) :
    ∃ name text, IsWord name ∧ IsAtom text ∧ part = name ++ "=" ++ text := by
  obtain ⟨⟨name, view⟩, hmem, hpart⟩ := List.mem_filterMap.mp h
  cases view with
  | node className | list items | absent => cases hpart
  | scalar text =>
    -- a literal is not one of the empty lists
    have hview : (name, .scalar text) ∈ n.2.fields.views := by
      have hshown : (name, .scalar text) ∈ n.fields := hmem
      rw [n.fields_eq, List.mem_append] at hshown
      exact hshown.resolve_right (by simp)
    have hname : name ∈ n.2.kind.fields.map Field.name :=
      n.2.fields.map_fst_views ▸ List.mem_map_of_mem hview
    have hword : IsWord name := n.2.kind.isWord_of_mem_memberNames name
      (List.mem_cons_of_mem _ (List.mem_append_left _ (List.mem_append_left _ hname)))
    exact ⟨name, text, hword, n.2.fields.isAtom_of_mem_views hview, (Option.some.inj hpart).symm⟩

/-- The label of a node stays on its line. -/
private theorem AnyNode.newline_not_mem_label (n : AnyNode) : '\n' ∉ n.2.label.toList := by
  intro hmem
  rcases Text.mem_of_mem_intercalate hmem with hseparator | ⟨part, hpart, hmem⟩
  · exact absurd hseparator (by decide)
  · obtain ⟨name, text, hname, htext, rfl⟩ := exists_of_mem_labelParts hpart
    have hnotName := (Term.solid_of_isWord hname).newline
    have hnotText := (Term.solid_of_isAtom htext).newline
    simp [hnotName, hnotText] at hmem

/-! ## Nodes and trees -/

/-- The outline of a node has lexical form, whatever texts and constants the node holds. -/
theorem AnyNode.lexical_outline (n : AnyNode) : n.2.outline.Lexical := by
  induction n using induction_on_children with
  | step n ih =>
    rw [outline_eq]
    refine ⟨n.2.kind.isWord_className, fun hmem => ?_, ?_⟩
    · -- what is left of the label is in the label
      rcases Outline.mem_of_mem_shorten hmem with hlabel | hpoint
      · exact n.newline_not_mem_label hlabel
      · exact absurd hpoint (by decide)
    · rw [Outline.lexicalAll_iff]
      intro t ht
      obtain ⟨m, hm, rfl⟩ := List.mem_map.mp ht
      exact ih m hm

/-- The outlines of a tree have lexical form. -/
theorem Tree.lexical_forest (t : Tree Root) : Outline.LexicalAll t.forest := by
  rw [Outline.lexicalAll_iff]
  intro u hu
  obtain ⟨r, -, rfl⟩ := List.mem_map.mp hu
  exact r.toNode.lexical_outline

/-! ## Lines -/

namespace Outline

/-- What a line says of a vertex, character by character. -/
theorem toList_line (className label : String) :
    (line className label).toList =
      className.toList ++ if label.isEmpty then [] else ':' :: ' ' :: label.toList := by
  unfold line
  split <;> simp

/-- What a line says of a vertex has no line break in it. -/
theorem newline_not_mem_line {className label : String} (hclass : IsWord className)
    (hlabel : '\n' ∉ label.toList) : '\n' ∉ (line className label).toList := by
  have hclass := (Term.solid_of_isWord hclass).newline
  rw [toList_line]
  split
  · simpa using hclass
  · simpa using ⟨hclass, hlabel⟩

/-- The line of a vertex has no line break in it. -/
theorem newline_not_mem_lineAt (ts : List Outline) {v : Vertex} (h : v.outline.Lexical) :
    '\n' ∉ (lineAt ts v).toList := by
  obtain ⟨path, className, label, children⟩ := v
  obtain ⟨hclass, hlabel, -⟩ := h
  have hguide (later : Bool) : '\n' ∉ (guide later).toList := by cases later <;> decide
  have hconnector (later : Bool) : '\n' ∉ (connector later).toList := by cases later <;> decide
  have hline := newline_not_mem_line hclass hlabel
  simp [lineAt, guides, hguide, hconnector, Outline.className, Outline.label, hline]

end Outline

/-- The lines of a drawing have no line breaks in them. -/
theorem Tree.newline_not_mem_lineAt {t : Tree Root} {v : Outline.Vertex}
    (h : v ∈ Outline.verticesFrom 0 t.forest) :
    '\n' ∉ (Outline.lineAt t.forest v).toList := by
  obtain ⟨n, -, houtline⟩ := Tree.exists_of_mem_vertices h
  exact Outline.newline_not_mem_lineAt _ (houtline ▸ n.lexical_outline)

end SyntaxDump
