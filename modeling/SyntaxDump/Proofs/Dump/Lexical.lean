import SyntaxDump.Proofs.Literal.Number
import SyntaxDump.Proofs.Location
import SyntaxDump.Proofs.Shown

/-!
# The terms that dumps consist of

The term of a node has lexical form, whatever texts and constants the node holds, and it does not
depend on how it will be indented.

## Main statements

- `Node.lexical_term`: the term of a node has lexical form;
- `Node.term_withIndent`: the term of a node does not depend on the indentation.
-/

namespace SyntaxDump

open Term (Lexical LexicalArgs LexicalItems lexicalArgs_iff lexicalItems_iff)

/-! ## Pieces -/

/-- The name of a class is a word. -/
theorem Kind.isWord_className {c : Category} (k : Kind c) : IsWord k.className := by
  cases k <;> decide +kernel

/-- The names of fields are words, and so are those of the parts of a location. -/
theorem Kind.isWord_of_mem_memberNames {c : Category} (k : Kind c) :
    ∀ name ∈ k.memberNames, IsWord name := by
  cases k <;> decide +kernel

/-- A constant is an atom. -/
theorem Constant.isAtom_literal (c : Constant) : IsAtom c.literal := by
  cases c with
  | none => exact .word (by decide)
  | bool b => cases b <;> exact .word (by decide)
  | int n => exact .word (isWord_toString_int n)
  | float x => exact .word (Literal.isWord_float x)
  | str s => exact .string s
  | bytes bs => exact .bytes bs

/-- The term of a scalar has lexical form. -/
theorem Scalar.lexical_term? (s : Scalar) (v : s.Value) : ∀ t ∈ s.term? v, t.Lexical := by
  have hstring (text : String) : (Term.atom (Literal.string text)).Lexical := .string text
  intro t ht
  cases s with
  | identifier | dottedName =>
    obtain rfl := Option.some.inj ht
    exact hstring v
  | optionalIdentifier | optionalDottedName | optionalText =>
    obtain ⟨text, -, rfl⟩ := Option.map_eq_some_iff.mp ht
    exact hstring text
  | identifiers =>
    obtain rfl := Option.some.inj ht
    rw [Lexical, lexicalItems_iff]
    intro item hitem
    obtain ⟨text, -, rfl⟩ := List.mem_map.mp hitem
    exact hstring text
  | constant =>
    obtain rfl := Option.some.inj ht
    exact Constant.isAtom_literal v
  | level =>
    obtain rfl := Option.some.inj ht
    exact IsAtom.word (isWord_toString_nat _)
  | conversion =>
    obtain rfl := Option.some.inj ht
    exact IsAtom.word (isWord_toString_int _)

/-- The arguments for fields that are always empty have lexical form. -/
private theorem Kind.lexicalArgs_emptyArgs {c : Category} (k : Kind c) (labels : Bool) :
    LexicalArgs (k.emptyArgs labels) := by
  rw [lexicalArgs_iff]
  intro a ha
  obtain ⟨name, hname, rfl⟩ := List.mem_map.mp ha
  -- the value is the empty list, and the label one of the names in the table
  refine ⟨fun label hlabel => ?_, trivial⟩
  split at hlabel
  · obtain rfl := Option.some.inj hlabel
    exact k.isWord_of_mem_memberNames name (List.mem_cons_of_mem _
      (List.mem_append_left _ (List.mem_append_right _ hname)))
  · cases hlabel

/-- The arguments for a location have lexical form. -/
private theorem Category.lexicalArgs_locationArgs (c : Category) (place : c.Place) :
    LexicalArgs (c.locationArgs place) := by
  have hwords : ∀ name ∈ Location.partNames, IsWord name := by decide
  rw [Category.locationArgs, lexicalArgs_iff]
  split
  · nofun
  · next l _ =>
    intro a ha
    obtain ⟨⟨name, n⟩, hpart, rfl⟩ := List.mem_map.mp ha
    -- only names of parts of a location are listed
    have hname := l.names_attributes_sublist.subset (List.mem_map_of_mem hpart)
    refine ⟨fun label hlabel => ?_, IsAtom.word (isWord_toString_nat _)⟩
    exact Option.some.inj hlabel ▸ hwords name hname

/-! ## Nodes -/

variable (o : DumpOptions)

mutual

/-- The term of a node has lexical form. -/
theorem Node.lexical_term : {c : Category} → (n : Node c) → (n.term o).Lexical
  | c, .mk k fs place => by
    -- nothing is asked of what the node holds: texts are between quotes wherever they stand
    have hfields : ∀ f ∈ k.fields, IsWord f.name := fun f hf =>
      k.isWord_of_mem_memberNames f.name (List.mem_cons_of_mem _
        (List.mem_append_left _ (List.mem_append_left _ (List.mem_map_of_mem hf))))
    have hargs := Fields.lexicalArgs_args fs hfields k.lexicalArgs_emptyArgs o.annotateFields
    have hplace : LexicalArgs (if o.includeAttributes then c.locationArgs place else []) := by
      split
      · exact c.lexicalArgs_locationArgs place
      · trivial
    rw [Node.term_mk]
    refine ⟨k.isWord_className, ?_⟩
    rw [lexicalArgs_iff] at hargs hplace ⊢
    exact List.forall_mem_append.mpr ⟨hargs, hplace⟩

theorem Fields.lexicalArgs_args : {fs : List Field} → (v : Fields fs) →
    (∀ f ∈ fs, IsWord f.name) → {last : Bool → List (Option String × Term)} →
    (∀ labels, LexicalArgs (last labels)) → (labels : Bool) → LexicalArgs (v.args o last labels)
  | _, .nil, _, _, hlast, labels => hlast labels
  | f :: _, .cons slot rest, hfields, last, hlast, labels => by
    obtain ⟨hf, hfs⟩ := List.forall_mem_cons.mp hfields
    have hslot := Slot.lexical_term? slot
    rw [Fields.args]
    split
    · exact Fields.lexicalArgs_args rest hfs hlast true
    · next t ht =>
      refine ⟨fun label hlabel => ?_, hslot t ht, Fields.lexicalArgs_args rest hfs hlast labels⟩
      split at hlabel
      · exact Option.some.inj hlabel ▸ hf
      · cases hlabel

theorem Slot.lexical_term? : {k : Content} → (slot : Slot k) → ∀ t ∈ slot.term? o, t.Lexical
  | _, .node n, _, ht => Option.some.inj ht ▸ Node.lexical_term n
  | _, .absent, _, ht => nomatch ht
  | _, .present n, _, ht => Option.some.inj ht ▸ Node.lexical_term n
  | _, .list ns, _, ht => Option.some.inj ht ▸ Nodes.lexicalItems_terms ns
  | .scalar s, .scalar v, t, ht => s.lexical_term? v t ht

theorem Nodes.lexicalItems_terms : {c : Category} → {gaps : Bool} → (ns : Nodes c gaps) →
    LexicalItems (ns.terms o)
  | _, _, .nil => trivial
  | _, _, .cons n rest => ⟨Node.lexical_term n, Nodes.lexicalItems_terms rest⟩
  | _, _, .gap rest => ⟨IsAtom.word (by decide), Nodes.lexicalItems_terms rest⟩

end

variable (indent : Option Indent)

mutual

/-- The term of a node does not depend on the indentation. -/
theorem Node.term_withIndent : {c : Category} → (n : Node c) →
    n.term (o.withIndent indent) = n.term o
  | _, .mk k fs place => by
    rw [Node.term_mk, Node.term_mk, Fields.args_withIndent fs]
    rfl

theorem Fields.args_withIndent : {fs : List Field} → (v : Fields fs) →
    {last : Bool → List (Option String × Term)} → {labels : Bool} →
    v.args (o.withIndent indent) last labels = v.args o last labels
  | _, .nil, _, _ => rfl
  | _, .cons slot rest, _, _ => by
    rw [Fields.args, Fields.args, Slot.term?_withIndent slot, Fields.args_withIndent rest,
      Fields.args_withIndent rest]

theorem Slot.term?_withIndent : {k : Content} → (slot : Slot k) →
    slot.term? (o.withIndent indent) = slot.term? o
  | _, .node n => by rw [Slot.term?, Slot.term?, Node.term_withIndent n]
  | _, .absent => rfl
  | _, .present n => by rw [Slot.term?, Slot.term?, Node.term_withIndent n]
  | _, .list ns => by rw [Slot.term?, Slot.term?, Nodes.terms_withIndent ns]
  | .scalar _, .scalar _ => rfl

theorem Nodes.terms_withIndent : {c : Category} → {gaps : Bool} → (ns : Nodes c gaps) →
    ns.terms (o.withIndent indent) = ns.terms o
  | _, _, .nil => rfl
  | _, _, .cons n rest => by
    rw [Nodes.terms, Nodes.terms, Node.term_withIndent n, Nodes.terms_withIndent rest]
  | _, _, .gap rest => by rw [Nodes.terms, Nodes.terms, Nodes.terms_withIndent rest]

end

end SyntaxDump
