import SyntaxDump.Build
import SyntaxDump.Proofs.Document.Description
import SyntaxDump.Proofs.Dump.Lexical
import SyntaxDump.Proofs.Term.Breaks

/-!
# Which nodes are dumped over several lines

Under an indentation the dump of a node has line breaks in it exactly if the node has more than
three arguments, or a list with items among its fields, or a node with arguments. This is said of
all nodes of a tree at once, each with the level at which it stands in the dump. The arguments of a
node are counted on the node itself: the fields that are there and, if locations are shown, the
known parts of its location.

## Main statements

- `Node.mem_parts_term`: the terms of the nodes of a tree inside its term;
- `AnyNode.isSpread_term_iff`: which nodes are spread over several lines;
- `Node.newline_mem_textAt_iff`: the line breaks in the dumps of the nodes of a tree.
-/

namespace SyntaxDump

/-! ## Where nodes stand in a dump -/

mutual

/-- The node and all nodes below it, each with the level at which it is dumped. -/
def Node.placed (level : Nat) : {c : Category} → Node c → List (Nat × AnyNode)
  | c, .mk k fs place => (level, ⟨c, .mk k fs place⟩) :: fs.placed (level + 1)

/-- The nodes in the fields of a node and all nodes below them. -/
def Fields.placed (level : Nat) : {fs : List Field} → Fields fs → List (Nat × AnyNode)
  | _, .nil => []
  | _, .cons slot rest => slot.placed level ++ rest.placed level

/-- The nodes in a field and all nodes below them. The items of a list are one level further
down. -/
def Slot.placed (level : Nat) : {k : Content} → Slot k → List (Nat × AnyNode)
  | _, .node n => n.placed level
  | _, .absent => []
  | _, .present n => n.placed level
  | _, .list ns => ns.placed (level + 1)
  | _, .scalar _ => []

/-- The nodes of a list and all nodes below them. -/
def Nodes.placed (level : Nat) : {c : Category} → {gaps : Bool} → Nodes c gaps →
    List (Nat × AnyNode)
  | _, _, .nil => []
  | _, _, .cons n rest => n.placed level ++ rest.placed level
  | _, _, .gap rest => rest.placed level

end

mutual

/-- The nodes that are placed are the subtrees. -/
theorem Node.map_snd_placed : {c : Category} → (n : Node c) → (level : Nat) →
    (n.placed level).map Prod.snd = n.subtrees
  | _, .mk k fs place, level => by
    rw [Node.placed, List.map_cons, Fields.map_snd_placed fs, Node.subtrees]

theorem Fields.map_snd_placed : {fs : List Field} → (v : Fields fs) → (level : Nat) →
    (v.placed level).map Prod.snd = v.subtrees
  | _, .nil, _ => rfl
  | _, .cons slot rest, level => by
    rw [Fields.placed, List.map_append, Slot.map_snd_placed slot, Fields.map_snd_placed rest,
      Fields.subtrees]

theorem Slot.map_snd_placed : {k : Content} → (slot : Slot k) → (level : Nat) →
    (slot.placed level).map Prod.snd = slot.subtrees
  | _, .node n, level => Node.map_snd_placed n level
  | _, .absent, _ => rfl
  | _, .present n, level => Node.map_snd_placed n level
  | _, .list ns, level => Nodes.map_snd_placed ns (level + 1)
  | _, .scalar _, _ => rfl

theorem Nodes.map_snd_placed : {c : Category} → {gaps : Bool} → (ns : Nodes c gaps) →
    (level : Nat) → (ns.placed level).map Prod.snd = ns.subtrees
  | _, _, .nil, _ => rfl
  | _, _, .cons n rest, level => by
    rw [Nodes.placed, List.map_append, Node.map_snd_placed n, Nodes.map_snd_placed rest,
      Nodes.subtrees]
  | _, _, .gap rest, level => by
    rw [Nodes.placed, Nodes.map_snd_placed rest, Nodes.subtrees]

end

variable (o : DumpOptions)

/-- The text of a node that is dumped at a level. -/
def AnyNode.textAt (level : Nat) (n : AnyNode) : String :=
  (n.2.term o).text (o.indent.map Indent.unit) level

mutual

/-- The term of each node of a tree is found in the term of the tree, at the level of the node. -/
theorem Node.mem_parts_term : {c : Category} → (n : Node c) → {level : Nat} →
    ∀ p ∈ n.placed level, (p.1, p.2.2.term o) ∈ (n.term o).parts level
  | c, .mk k fs place, level => by
    rw [Node.placed]
    refine List.forall_mem_cons.mpr ⟨Term.mem_parts_self _ _, fun p hp => ?_⟩
    have hargs := Fields.mem_argParts_args fs k.emptyArgs o.annotateFields p hp
    rw [Node.term_mk, Term.parts, Term.argParts_append]
    exact List.mem_cons_of_mem _ (List.mem_append_left _ hargs)

theorem Fields.mem_argParts_args : {fs : List Field} → (v : Fields fs) →
    (last : Bool → List (Option String × Term)) → (labels : Bool) → {level : Nat} →
    ∀ p ∈ v.placed level, (p.1, p.2.2.term o) ∈ Term.argParts level (v.args o last labels)
  | _, .nil, _, _, _ => nofun
  | _, .cons slot rest, last, labels, level => by
    intro p hp
    rw [Fields.args]
    rcases List.mem_append.mp hp with hp | hp
    · obtain ⟨t, ht, hmem⟩ := Slot.exists_mem_parts_term? slot p hp
      rw [ht, Term.argParts]
      exact List.mem_append_left _ hmem
    · split
      · exact Fields.mem_argParts_args rest last true p hp
      · exact List.mem_append_right _ (Fields.mem_argParts_args rest last labels p hp)

theorem Slot.exists_mem_parts_term? : {k : Content} → (slot : Slot k) → {level : Nat} →
    ∀ p ∈ slot.placed level, ∃ t, slot.term? o = some t ∧ (p.1, p.2.2.term o) ∈ t.parts level
  | _, .node n, _ => fun p hp => ⟨_, rfl, Node.mem_parts_term n p hp⟩
  | _, .absent, _ => nofun
  | _, .present n, _ => fun p hp => ⟨_, rfl, Node.mem_parts_term n p hp⟩
  | _, .list ns, _ => fun p hp =>
    ⟨_, rfl, List.mem_cons_of_mem _ (Nodes.mem_itemParts_terms ns p hp)⟩
  | _, .scalar _, _ => nofun

theorem Nodes.mem_itemParts_terms : {c : Category} → {gaps : Bool} → (ns : Nodes c gaps) →
    {level : Nat} →
    ∀ p ∈ ns.placed level, (p.1, p.2.2.term o) ∈ Term.itemParts level (ns.terms o)
  | _, _, .nil, _ => nofun
  | _, _, .cons n rest, _ => by
    intro p hp
    rw [Nodes.terms, Term.itemParts]
    rcases List.mem_append.mp hp with hp | hp
    · exact List.mem_append_left _ (Node.mem_parts_term n p hp)
    · exact List.mem_append_right _ (Nodes.mem_itemParts_terms rest p hp)
  | _, _, .gap rest, _ => fun p hp =>
    List.mem_append_right _ (Nodes.mem_itemParts_terms rest p hp)

end

/-! ## The arguments of a node -/

/-- The number of arguments that a node is dumped with: the fields that are there and, if locations
are shown, the known parts of its location. -/
def AnyNode.argumentCount (n : AnyNode) : Nat :=
  (n.fields.filter fun (_, view) => !view.isAbsent).length +
    if o.includeAttributes then n.2.attributes.length else 0

/-- The node that a field is, if it is one; the items of a list are not. -/
def Slot.node? : {k : Content} → Slot k → Option AnyNode
  | .node c, .node n => some ⟨c, n⟩
  | _, .absent => none
  | .optional c, .present n => some ⟨c, n⟩
  | _, .list _ => none
  | _, .scalar _ => none

/-- The nodes that fields are. -/
def Fields.nodes : {fs : List Field} → Fields fs → List AnyNode
  | _, .nil => []
  | _, .cons slot rest => slot.node?.toList ++ rest.nodes

/-- A field shows nothing exactly if it is no argument. -/
private theorem Slot.isAbsent_view {k : Content} (slot : Slot k) :
    slot.view.isAbsent = (slot.term? o).isNone := by
  cases slot with
  | @scalar s v =>
    cases s with
    | optionalIdentifier | optionalDottedName | optionalText => cases v <;> rfl
    | _ => rfl
  | _ => rfl

/-- There is an argument for each field that is there, besides those that come after them. -/
private theorem Fields.length_args {last : Bool → List (Option String × Term)} {count : Nat}
    (hlast : ∀ labels, (last labels).length = count) : {fs : List Field} → (v : Fields fs) →
    (labels : Bool) → (v.args o last labels).length =
      (v.views.filter fun (_, view) => !view.isAbsent).length + count
  | _, .nil, labels => by simpa [Fields.args, Fields.views] using hlast labels
  | f :: _, .cons slot rest, labels => by
    have habsent := slot.isAbsent_view o
    rw [Fields.args, Fields.views]
    split
    · next hnone =>
      rw [hnone] at habsent
      rw [List.filter_cons_of_neg (by simp [habsent]), Fields.length_args hlast rest]
    · next t hsome =>
      rw [hsome] at habsent
      rw [List.filter_cons_of_pos (by simp [habsent]), List.length_cons, List.length_cons,
        Fields.length_args hlast rest, Nat.succ_add]

/-- The arguments of the call that a node is dumped as. -/
def Node.callArgs {c : Category} : Node c → List (Option String × Term)
  | .mk k fs place =>
    fs.args o k.emptyArgs o.annotateFields ++
      if o.includeAttributes then c.locationArgs place else []

private theorem Node.term_eq {c : Category} (n : Node c) :
    n.term o = .call n.className (n.callArgs o) := by
  cases n with
  | mk k fs place => exact Node.term_mk o k fs place

/-- A node is dumped with as many arguments as are counted. -/
private theorem AnyNode.length_callArgs (n : AnyNode) :
    (n.2.callArgs o).length = n.argumentCount o := by
  obtain ⟨c, k, fs, place⟩ := n
  have hlast (labels : Bool) : (k.emptyArgs labels).length = k.emptyFields.length :=
    List.length_map _
  have hfields := Fields.length_args o hlast fs o.annotateFields
  have hplace : (c.locationArgs place).length = (Node.mk k fs place).attributes.length := by
    rw [Category.locationArgs, Node.attributes, Node.location?, Node.place]
    split <;> simp [*]
  -- fields that are always empty are arguments too
  have hempty : ((k.emptyFields.map fun name => (name, FieldView.list [])).filter
      fun (_, view) => !view.isAbsent) = k.emptyFields.map fun name => (name, .list []) := by
    simp [List.filter_eq_self, FieldView.isAbsent]
  rw [Node.callArgs, List.length_append, hfields, AnyNode.argumentCount, AnyNode.fields_eq,
    List.filter_append, List.length_append]
  simp only [Node.kind, Node.fields, hempty, List.length_map]
  split
  · rw [hplace]
  · rfl

/-- A node is never spread if it has no arguments. -/
private theorem AnyNode.isSimple_term_iff (n : AnyNode) :
    (n.2.term o).isSimple ↔ n.argumentCount o = 0 := by
  rw [Node.term_eq, Term.isSimple, List.isEmpty_iff_length_eq_zero, n.length_callArgs]

/-- The items of a list are shown one for one. -/
private theorem Nodes.terms_eq_nil_iff {c : Category} {gaps : Bool} (ns : Nodes c gaps) :
    ns.terms o = [] ↔ ns.views = [] := by
  cases ns <;> simp [Nodes.terms, Nodes.views]

/-- A field is never spread unless it is a list with items or a node with arguments. -/
private theorem Slot.isSimple_term?_iff {k : Content} (slot : Slot k) :
    (∀ t ∈ slot.term? o, t.isSimple) ↔
      (∀ items, slot.view = .list items → items = []) ∧
        ∀ m ∈ slot.node?, m.argumentCount o = 0 := by
  cases slot with
  | @node c n | @present c n =>
    simpa [Slot.term?, Slot.view, Slot.node?] using AnyNode.isSimple_term_iff o ⟨c, n⟩
  | absent => simp [Slot.term?, Slot.view, Slot.node?]
  | list ns => simp [Slot.term?, Slot.view, Slot.node?, Term.isSimple, ns.terms_eq_nil_iff]
  | @scalar s v =>
    cases s with
    | optionalIdentifier | optionalDottedName | optionalText =>
      cases v <;>
        simp [Slot.term?, Slot.view, Slot.node?, Scalar.term?, Scalar.view, FieldView.ofText?,
          Term.isSimple]
    | _ =>
      simp [Slot.term?, Slot.view, Slot.node?, Scalar.term?, Scalar.view, Term.isSimple]

/-- The arguments for fields are never spread unless some field is. -/
private theorem Fields.all_isSimple_args {last : Bool → List (Option String × Term)}
    (hlast : ∀ labels, ∀ a ∈ last labels, a.2.isSimple) : {fs : List Field} → (v : Fields fs) →
    (labels : Bool) → ((∀ a ∈ v.args o last labels, a.2.isSimple) ↔
      (∀ e ∈ v.views, ∀ items, e.2 = .list items → items = []) ∧
        ∀ m ∈ v.nodes, m.argumentCount o = 0)
  | _, .nil, labels => by simpa [Fields.args, Fields.views, Fields.nodes] using hlast labels
  | f :: _, .cons slot rest, labels => by
    have hslot := slot.isSimple_term?_iff o
    have hrest := Fields.all_isSimple_args hlast rest
    have harg : (∀ a ∈ (Fields.cons (f := f) slot rest).args o last labels, a.2.isSimple) ↔
        (∀ t ∈ slot.term? o, t.isSimple) ∧
          (∀ e ∈ rest.views, ∀ items, e.2 = .list items → items = []) ∧
            ∀ m ∈ rest.nodes, m.argumentCount o = 0 := by
      rw [Fields.args]
      split
      · next hnone => simp only [hnone, hrest, reduceCtorEq, Option.mem_def, false_implies,
          implies_true, true_and]
      · next t hsome => simp only [hsome, List.forall_mem_cons, hrest, Option.mem_def,
          Option.some.injEq, forall_eq']
    rw [harg, hslot, Fields.views, Fields.nodes, List.forall_mem_cons, List.forall_mem_append]
    simp only [Option.mem_toList]
    exact and_and_and_comm

/-- The parts of a location are never spread. -/
private theorem Category.isSimple_locationArgs (c : Category) (place : c.Place) :
    ∀ a ∈ c.locationArgs place, a.2.isSimple := by
  rw [Category.locationArgs]
  split
  · nofun
  · exact List.forall_mem_map.mpr fun _ _ => rfl

/-- The dump of a node is spread over several lines if the node has more than three arguments, if
one of its fields is a list with items, or if one is a node with arguments, and in no other case. -/
theorem AnyNode.isSpread_term_iff (n : AnyNode) :
    (n.2.term o).isSpread ↔
      3 < n.argumentCount o ∨ (∃ name items, (name, .list items) ∈ n.fields ∧ items ≠ []) ∨
        ∃ m ∈ n.2.fields.nodes, 0 < m.argumentCount o := by
  have hinline : (n.2.term o).isSpread ↔
      ¬ (n.argumentCount o ≤ 3 ∧ ∀ a ∈ n.2.callArgs o, a.2.isSimple) := by
    rw [Node.term_eq, Term.isSpread, Term.staysInline, n.length_callArgs]
    simp only [Bool.not_eq_true', ← Bool.not_eq_true, Bool.and_eq_true, decide_eq_true_iff,
      List.all_eq_true]
  have hsimple : (∀ a ∈ n.2.callArgs o, a.2.isSimple) ↔
      (∀ e ∈ n.fields, ∀ items, e.2 = .list items → items = []) ∧
        ∀ m ∈ n.2.fields.nodes, m.argumentCount o = 0 := by
    obtain ⟨c, k, fs, place⟩ := n
    have hempty (labels : Bool) : ∀ a ∈ k.emptyArgs labels, a.2.isSimple :=
      List.forall_mem_map.mpr fun _ _ => rfl
    have hplace : ∀ a ∈ (if o.includeAttributes then c.locationArgs place else []),
        a.2.isSimple := by
      split
      · exact c.isSimple_locationArgs place
      · exact List.forall_mem_nil _
    -- neither the fields that are always empty nor the location matter
    have hshown : ∀ e ∈ k.emptyFields.map fun name => (name, FieldView.list []),
        ∀ items, e.2 = .list items → items = [] :=
      List.forall_mem_map.mpr fun _ _ items h => (FieldView.list.inj h).symm
    have hfields := Fields.all_isSimple_args o hempty fs o.annotateFields
    rw [Node.callArgs, List.forall_mem_append, hfields, AnyNode.fields_eq, List.forall_mem_append]
    exact ⟨fun h => ⟨⟨h.1.1, hshown⟩, h.1.2⟩, fun h => ⟨⟨h.1.1, h.2⟩, hplace⟩⟩
  rw [hinline, hsimple, not_and_or, not_and_or, Nat.not_le]
  refine or_congr Iff.rfl (or_congr ?_ ?_)
  · push Not
    constructor
    · rintro ⟨⟨name, view⟩, he, items, rfl, hne⟩
      exact ⟨name, items, he, hne⟩
    · rintro ⟨name, items, he, hne⟩
      exact ⟨(name, .list items), he, items, rfl, hne⟩
  · push Not
    simp only [Nat.pos_iff_ne_zero, ne_eq]

/-! ## Line breaks -/

/-- At every node of a tree that is dumped with an indentation, whatever its unit is, the text of
the node has a line break in it exactly if the node has more than three arguments, or a list with
items among its fields, or a field that is a node with arguments. These texts stand in the dump of
the tree, one for each of its nodes. -/
theorem Node.newline_mem_textAt_iff {c : Category} (root : Node c) {o : DumpOptions}
    {indent : Indent} (h : o.indent = some indent) :
    (root.placed 0).map Prod.snd = root.subtrees ∧
      ∀ p ∈ root.placed 0,
        (p.2.textAt o p.1).toList <:+: (root.render o).toList ∧
        ('\n' ∈ (p.2.textAt o p.1).toList ↔
          3 < p.2.argumentCount o ∨
            (∃ name items, (name, .list items) ∈ p.2.fields ∧ items ≠ []) ∨
            ∃ m ∈ p.2.2.fields.nodes, 0 < m.argumentCount o) := by
  refine ⟨root.map_snd_placed 0, fun p hp => ⟨?_, ?_⟩⟩
  · have hpart := Node.mem_parts_term o root p hp
    rw [AnyNode.textAt, Node.render]
    exact Term.infix_of_mem_parts (p := (p.1, p.2.2.term o)) _ hpart
  · rw [← AnyNode.isSpread_term_iff, AnyNode.textAt, h]
    exact Term.newline_mem_text_iff (p.2.2.lexical_term o) indent.unit p.1

/-- A name that has three arguments more where its location is shown, inside a call. -/
theorem Node.newline_mem_textAt_iff_located :
    let name : AnyNode := ⟨.expr, (Expr.name "f").at_ ⟨some 1, some 0, some 1, none⟩⟩
    let root : Expr := Expr.call name.2 []
    let o : DumpOptions := ⟨some (.text "\t"), true, true⟩
    o.indent = some (.text "\t") ∧ (1, name) ∈ root.placed 0 ∧ name.argumentCount o = 5 ∧
      '\n' ∈ (name.textAt o 1).toList := by
  intro name root o
  have hindent : o.indent = some (.text "\t") := rfl
  have hmem : (1, name) ∈ root.placed 0 := List.mem_cons_of_mem _ List.mem_cons_self
  have hcount : name.argumentCount o = 5 := by decide
  obtain ⟨-, hbreaks⟩ := Node.newline_mem_textAt_iff root hindent
  refine ⟨hindent, hmem, hcount, (hbreaks _ hmem).2.mpr (.inl ?_)⟩
  rw [hcount]
  decide

end SyntaxDump
