import SyntaxDump.Format
import SyntaxDump.Proofs.Dump.Layout
import SyntaxDump.Proofs.Subtrees
import SyntaxDump.Proofs.Term.Calls

/-!
# The calls in a dump

A node is dumped as a call with the name of its class, and nothing else in a dump is a call. So the
calls in the dump of a tree are its nodes, in preorder, whatever the options are.

## Main statements

- `Node.calls_term`: the calls in the term of a node are its subtrees;
- `Tree.scan_dump`: the names that are found in a dump on one line.
-/

namespace SyntaxDump

open Term (argCalls argCalls_eq itemCalls itemCalls_eq)

/-- The name of a class consists of letters. -/
theorem Kind.isName_className {c : Category} (k : Kind c) : Term.IsName k.className := by
  have hletters : k.className.toList ≠ [] ∧ k.className.toList.all Char.isAlpha = true := by
    cases k <;> decide +kernel
  exact ⟨hletters.1, List.all_eq_true.mp hletters.2⟩

/-! ## Terms -/

/-- A scalar is no call and holds none. -/
private theorem Scalar.calls_term? (s : Scalar) (v : s.Value) : ∀ t ∈ s.term? v, t.calls = [] := by
  intro t ht
  cases s with
  | identifier | dottedName | constant | level | conversion =>
    obtain rfl := Option.some.inj ht
    rfl
  | optionalIdentifier | optionalDottedName | optionalText =>
    obtain ⟨text, -, rfl⟩ := Option.map_eq_some_iff.mp ht
    rfl
  | identifiers =>
    obtain rfl := Option.some.inj ht
    simp [Term.calls, itemCalls_eq]

/-- A field that is always empty holds no call. -/
private theorem Kind.argCalls_emptyArgs {c : Category} (k : Kind c) (labels : Bool) :
    argCalls (k.emptyArgs labels) = [] := by
  simp [argCalls_eq, Kind.emptyArgs, Term.calls, itemCalls]

/-- The parts of a location are no calls. -/
private theorem Category.argCalls_locationArgs (c : Category) (place : c.Place) :
    argCalls (c.locationArgs place) = [] := by
  unfold Category.locationArgs
  split
  · rfl
  · simp only [argCalls_eq, List.flatMap_map, Term.calls, List.flatMap_eq_nil_iff, implies_true]

variable (o : DumpOptions)

mutual

/-- The calls in the term of a node are the nodes of its subtrees, in order. -/
theorem Node.calls_term : {c : Category} → (n : Node c) →
    (n.term o).calls = n.subtrees.map AnyNode.className
  | c, .mk k fs place => by
    have hplace : argCalls (if o.includeAttributes then c.locationArgs place else []) = [] := by
      split
      · exact c.argCalls_locationArgs place
      · rfl
    have hfields := Fields.argCalls_args fs k.argCalls_emptyArgs o.annotateFields
    rw [argCalls_eq] at hplace hfields
    rw [Node.term_mk, Term.calls, argCalls_eq, List.flatMap_append, hplace, hfields,
      List.append_nil, Node.subtrees, List.map_cons]
    rfl

theorem Fields.argCalls_args : {fs : List Field} → (v : Fields fs) →
    {last : Bool → List (Option String × Term)} → (∀ labels, argCalls (last labels) = []) →
    (labels : Bool) → argCalls (v.args o last labels) = v.subtrees.map AnyNode.className
  | _, .nil, _, hlast, labels => hlast labels
  | _, .cons slot rest, last, hlast, labels => by
    have hslot := Slot.calls_term? slot
    rw [Fields.args, Fields.subtrees, List.map_append, ← hslot]
    -- an absent field holds no nodes
    split
    · next hnone => rw [hnone, Fields.argCalls_args rest hlast true]; rfl
    · next t hsome => rw [hsome, argCalls, Fields.argCalls_args rest hlast labels]; rfl

theorem Slot.calls_term? : {k : Content} → (slot : Slot k) →
    ((slot.term? o).elim [] Term.calls) = slot.subtrees.map AnyNode.className
  | _, .node n => Node.calls_term n
  | _, .absent => rfl
  | _, .present n => Node.calls_term n
  | _, .list ns => Nodes.itemCalls_terms ns
  | .scalar s, .scalar v => by
    rw [Slot.term?, Slot.subtrees]
    cases h : s.term? v with
    | none => rfl
    | some t => exact s.calls_term? v t h

theorem Nodes.itemCalls_terms : {c : Category} → {gaps : Bool} → (ns : Nodes c gaps) →
    itemCalls (ns.terms o) = ns.subtrees.map AnyNode.className
  | _, _, .nil => rfl
  | _, _, .cons n rest => by
    rw [Nodes.terms, itemCalls, Node.calls_term n, Nodes.itemCalls_terms rest, Nodes.subtrees,
      List.map_append]
  | _, _, .gap rest => by
    rw [Nodes.terms, itemCalls, Nodes.itemCalls_terms rest, Nodes.subtrees]
    rfl

end

/-! ## Trees -/

/-- The term that a tree is dumped as: a sequence is the list of its nodes. -/
def Tree.term : Tree Root → Term
  | .single r => r.toNode.2.term o
  | .many rs => .list (rs.map fun r => r.toNode.2.term o)

variable (t : Tree Root)

/-- The term of a tree has lexical form. -/
private theorem Tree.lexical_term : (t.term o).Lexical := by
  cases t with
  | single r => exact r.toNode.2.lexical_term o
  | many rs =>
    refine Term.lexicalItems_iff.mpr fun u hu => ?_
    obtain ⟨r, -, rfl⟩ := List.mem_map.mp hu
    exact r.toNode.2.lexical_term o

/-- The calls in the term of a tree are its nodes. -/
private theorem Tree.calls_term : (t.term o).calls = t.subtrees.map AnyNode.className := by
  cases t with
  | single r => simp [Tree.term, Node.calls_term, Tree.subtrees, Tree.nodes, Root.subtrees]
  | many rs =>
    simp only [Tree.term, Term.calls, itemCalls_eq, List.flatMap_map, Node.calls_term,
      Tree.subtrees, Tree.nodes, Root.subtrees, List.map_flatMap]

/-- On one line a tree is dumped as the line of its term. -/
theorem Tree.toList_dump_none (level : UInt64) :
    ((t.map (Configured.mk o)).dump none level).toList = (t.term o).line := by
  have hroot (r : Root) : (r.render (o.withIndent none)).toList = (r.toNode.2.term o).line := by
    have hnode {c : Category} (n : Node c) :
        (n.render (o.withIndent none)).toList = (n.term o).line := by
      rw [n.render_none rfl, Node.term_withIndent, String.toList_ofList]
    cases r <;> exact hnode _
  have hitems (rs : List Root) :
      (", ".intercalate (rs.map fun r => r.render (o.withIndent none))).toList =
        Term.lineItems (rs.map fun r => r.toNode.2.term o) := by
    cases rs with
    | nil => rfl
    | cons r rs =>
      simp only [List.map_cons, Text.toList_intercalate_cons, Term.lineItems, Term.moreItems_eq,
        List.flatMap_map, hroot]
      rfl
  cases t with
  | single r => exact hroot r
  | many rs =>
    rw [Tree.term, Term.line, ← hitems]
    simp [Tree.map, Tree.dump, List.map_map]
    rfl

/-- The names that are found in the dump of a tree on one line are those of its nodes. -/
theorem Tree.scan_dump (level : UInt64) :
    Term.scan (.outside []) ((t.map (Configured.mk o)).dump none level).toList =
      t.subtrees.map AnyNode.className := by
  have hnames : ∀ name ∈ (t.term o).calls, Term.IsName name := by
    rw [t.calls_term o]
    intro name hname
    obtain ⟨n, -, rfl⟩ := List.mem_map.mp hname
    exact n.2.kind.isName_className
  have hscan := Term.scan_line _ (t.lexical_term o) hnames (x := []) nofun
  rw [List.append_nil] at hscan
  rw [t.toList_dump_none o, hscan, t.calls_term o]
  exact List.append_nil _

end SyntaxDump
