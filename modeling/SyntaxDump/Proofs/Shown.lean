import SyntaxDump.Dump
import SyntaxDump.Inspect
import SyntaxDump.Outline
import SyntaxDump.Proofs.Grammar

/-!
# What nodes show, field by field

A node looks up by name what it shows of its fields. Since a class shows its fields as documents
list them (`Kind.shown_eq`), this comes to going through them one after the other, and that is how
the rest of the theory follows dumps and outlines into a tree.

## Main statements

- `AnyNode.fields_eq`: a node shows all of its fields and then empty lists;
- `AnyNode.children_eq`: the children of a node are the nodes in its fields;
- `Node.outline_mk`: the outlines below that of a node are those of its children;
- `Node.term_mk`: the arguments of a call, by recursion over the fields.
-/

namespace SyntaxDump

/-! ## Views -/

theorem Fields.map_fst_views : {fs : List Field} → (v : Fields fs) →
    v.views.map Prod.fst = fs.map Field.name
  | _, .nil => rfl
  | _, .cons slot rest => by
    rw [Fields.views, List.map_cons, List.map_cons, rest.map_fst_views]

/-- A node shows all of its fields, and then the empty lists of its class. -/
theorem AnyNode.fields_eq (n : AnyNode) :
    n.fields = n.2.fields.views ++ n.2.kind.emptyFields.map fun name => (name, .list []) :=
  n.2.kind.arrange_eq _ n.2.fields.map_fst_views

/-! ## Children -/

/-- The nodes in a list of fields. -/
def Fields.children {fs : List Field} (v : Fields fs) : List AnyNode :=
  v.childLists.flatMap Prod.snd

theorem Fields.children_cons {f : Field} {fs : List Field} (slot : Slot f.content)
    (rest : Fields fs) : (Fields.cons slot rest).children = slot.children ++ rest.children := by
  rw [Fields.children, Fields.childLists, List.flatMap_cons]
  rfl

private theorem Fields.map_fst_childLists : {fs : List Field} → (v : Fields fs) →
    v.childLists.map Prod.fst = fs.map Field.name
  | _, .nil => rfl
  | _, .cons slot rest => by
    rw [Fields.childLists, List.map_cons, List.map_cons, rest.map_fst_childLists]

/-- There are no nodes in the empty lists that a class shows besides its fields. -/
theorem AnyNode.children_eq (n : AnyNode) : n.children = n.2.fields.children := by
  have hempty : (n.2.kind.emptyFields.map (·, ([] : List AnyNode))).flatMap Prod.snd = [] := by
    simp
  rw [children, Kind.arrange_eq _ _ n.2.fields.map_fst_childLists, List.flatMap_append, hempty,
    List.append_nil]
  rfl

/-! ## Outlines -/

private theorem Nodes.outlines_eq {c : Category} {gaps : Bool} : (ns : Nodes c gaps) →
    ns.outlines = ns.toList.map Node.outline
  | .nil => rfl
  | .cons n rest => by rw [Nodes.outlines, Nodes.toList, List.map_cons, Nodes.outlines_eq rest]
  | .gap rest => by rw [Nodes.outlines, Nodes.toList, Nodes.outlines_eq rest]

private theorem Slot.outlines_eq {k : Content} (slot : Slot k) :
    slot.outlines = slot.children.map fun m => m.2.outline := by
  cases slot with
  | node n | present n | absent | scalar v => rfl
  | list ns => rw [Slot.outlines, Slot.children, List.map_map, Nodes.outlines_eq]; rfl

private theorem Fields.outlineLists_eq : {fs : List Field} → (v : Fields fs) →
    v.outlineLists = v.childLists.map fun e => (e.1, e.2.map fun m => m.2.outline)
  | _, .nil => rfl
  | _, .cons slot rest => by
    rw [Fields.outlineLists, Fields.childLists, List.map_cons, Slot.outlines_eq,
      Fields.outlineLists_eq rest]

/-- The outlines below that of a node are those of its children. -/
theorem Node.outline_mk {c : Category} (k : Kind c) (fs : Fields k.fields) (place : c.Place) :
    (Node.mk k fs place).outline =
      .mk k.className (Outline.shorten (Node.mk k fs place).label)
        ((AnyNode.children ⟨c, .mk k fs place⟩).map fun m => m.2.outline) := by
  -- outlines are drawn of the nodes in each field before or after the fields are arranged
  have harrange := k.arrange_map (List.map fun m : AnyNode => m.2.outline) [] fs.childLists
  rw [List.map_nil, ← Fields.outlineLists_eq] at harrange
  rw [Node.outline, harrange, List.flatMap_map, AnyNode.children, List.map_flatMap]
  rfl

/-! ## Arguments -/

/-- The arguments for the empty lists that a class shows besides its fields. -/
def Kind.emptyArgs {c : Category} (k : Kind c) (labels : Bool) : List (Option String × Term) :=
  k.emptyFields.map fun name => (if labels then some name else none, .list [])

/-- The arguments for a list of fields, and those that `last` puts after them. Whether an
argument is labelled depends on the fields before it. -/
def Fields.args (o : DumpOptions) (last : Bool → List (Option String × Term)) :
    (labels : Bool) → {fs : List Field} → Fields fs → List (Option String × Term)
  | labels, _, .nil => last labels
  | labels, f :: _, .cons slot rest =>
    match slot.term? o with
    | none => rest.args o last true
    | some t => (if labels then some f.name else none, t) :: rest.args o last labels

private theorem Fields.map_fst_terms (o : DumpOptions) : {fs : List Field} → (v : Fields fs) →
    (v.terms o).map Prod.fst = fs.map Field.name
  | _, .nil => rfl
  | _, .cons slot rest => by
    rw [Fields.terms, List.map_cons, List.map_cons, rest.map_fst_terms]

/-- Nothing is absent among the empty lists of a class. -/
private theorem Kind.arguments_emptyFields {c : Category} (k : Kind c) (labels : Bool) :
    Term.arguments labels (k.emptyFields.map (·, some (.list []))) = k.emptyArgs labels := by
  rw [Kind.emptyArgs]
  induction k.emptyFields with
  | nil => rfl
  | cons name rest ih => rw [List.map_cons, Term.arguments, ih, List.map_cons]

private theorem Fields.arguments_terms (o : DumpOptions) {c : Category} (k : Kind c) :
    {fs : List Field} → (v : Fields fs) → (labels : Bool) →
    Term.arguments labels (v.terms o ++ k.emptyFields.map (·, some (.list []))) =
      v.args o k.emptyArgs labels
  | _, .nil, labels => by rw [Fields.terms, List.nil_append, Fields.args, k.arguments_emptyFields]
  | _, .cons slot rest, labels => by
    rw [Fields.terms, List.cons_append, Fields.args]
    -- an absent value has no argument, and from there on all of them are labelled
    cases slot.term? o with
    | none => rw [Term.arguments, rest.arguments_terms]
    | some t => rw [Term.arguments, rest.arguments_terms]

/-- The arguments of the call that builds a node are those for its fields, for the empty lists of
its class and, if asked for, for its location. -/
theorem Node.term_mk (o : DumpOptions) {c : Category} (k : Kind c) (fs : Fields k.fields)
    (place : c.Place) :
    (Node.mk k fs place).term o =
      .call k.className (fs.args o k.emptyArgs o.annotateFields ++
        if o.includeAttributes then c.locationArgs place else []) := by
  rw [Node.term, Kind.arrange_eq _ _ (fs.map_fst_terms o), fs.arguments_terms]

end SyntaxDump
