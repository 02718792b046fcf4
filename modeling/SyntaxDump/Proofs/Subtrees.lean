import SyntaxDump.Proofs.Shown

/-!
# Subtrees

Properties of trees speak about every node at any depth, about the texts a node holds in its
fields and about its constants. This file defines these collections and relates two ways to say
that all scalars of a tree have a property: by recursion over the tree, as proofs need it
(`Node.AllScalars`), and node by node, as specifications state it.

## Main statements

- `Node.allScalars_iff`: all scalars of a tree have a property exactly when the scalars in the
  fields of each of its nodes do;
- `AnyNode.mem_subtrees_of_mem_children`, `AnyNode.forall_mem_subtrees`: the subtrees of a node are
  what is reached by going down to children.
-/

namespace SyntaxDump

mutual

/-- The node and all nodes below it, in the order of their fields. -/
def Node.subtrees : {c : Category} → Node c → List AnyNode
  | c, .mk k fs place => ⟨c, .mk k fs place⟩ :: fs.subtrees

/-- The nodes in the fields of a node and all nodes below them. -/
def Fields.subtrees : {fs : List Field} → Fields fs → List AnyNode
  | _, .nil => []
  | _, .cons slot rest => slot.subtrees ++ rest.subtrees

/-- The nodes in a field and all nodes below them. -/
def Slot.subtrees : {k : Content} → Slot k → List AnyNode
  | _, .node n => n.subtrees
  | _, .absent => []
  | _, .present n => n.subtrees
  | _, .list ns => ns.subtrees
  | _, .scalar _ => []

/-- The nodes of a list and all nodes below them. -/
def Nodes.subtrees : {c : Category} → {gaps : Bool} → Nodes c gaps → List AnyNode
  | _, _, .nil => []
  | _, _, .cons n rest => n.subtrees ++ rest.subtrees
  | _, _, .gap rest => rest.subtrees

end

/-- A node at the top of a tree and all nodes below it. -/
def Root.subtrees (r : Root) : List AnyNode := r.toNode.2.subtrees

/-- All nodes of a tree, at any depth. -/
def Tree.subtrees (t : Tree Root) : List AnyNode := t.nodes.flatMap Root.subtrees

/-- The texts that a scalar consists of, other than those of constants. -/
def Scalar.texts : (s : Scalar) → s.Value → List String
  | .identifier, v => [v]
  | .optionalIdentifier, v => v.toList
  | .identifiers, v => v
  | .dottedName, v => [v]
  | .optionalDottedName, v => v.toList
  | .constant, _ => []
  | .optionalText, v => v.toList
  | .level, _ => []
  | .conversion, _ => []

/-- The constant that a scalar is, if it is one. -/
def Scalar.constants : (s : Scalar) → s.Value → List Constant
  | .constant, v => [v]
  | _, _ => []

/-- The texts in a field. -/
def Slot.texts : {k : Content} → Slot k → List String
  | .scalar s, .scalar v => s.texts v
  | _, _ => []

/-- The constant in a field, if it holds one. -/
def Slot.constants : {k : Content} → Slot k → List Constant
  | .scalar s, .scalar v => s.constants v
  | _, _ => []

/-- The texts in a list of fields, with the names of the fields. -/
def Fields.texts : {fs : List Field} → Fields fs → List (String × String)
  | _, .nil => []
  | f :: _, .cons slot rest => slot.texts.map (f.name, ·) ++ rest.texts

/-- The constants in a list of fields. -/
def Fields.constants : {fs : List Field} → Fields fs → List Constant
  | _, .nil => []
  | _, .cons slot rest => slot.constants ++ rest.constants

namespace AnyNode

/-- The name of the class of a node. -/
def className (n : AnyNode) : String := n.2.className

/-- The texts in the fields of a node, with the names of the fields. -/
def texts (n : AnyNode) : List (String × String) := n.2.fields.texts

/-- The constants in the fields of a node. -/
def constants (n : AnyNode) : List Constant := n.2.fields.constants

end AnyNode

/-! ## Properties of all scalars -/

section AllScalars

variable (P : (s : Scalar) → s.Value → Prop)

/-- The scalar in a field, if it holds one, has the property. -/
def Slot.OwnScalar : {k : Content} → Slot k → Prop
  | .scalar s, .scalar v => P s v
  | _, _ => True

/-- The scalars in a list of fields have the property; nodes in the fields are not looked into. -/
def Fields.OwnScalars : {fs : List Field} → Fields fs → Prop
  | _, .nil => True
  | _, .cons slot rest => slot.OwnScalar P ∧ rest.OwnScalars

mutual

/-- All scalars of a tree have the property. -/
def Node.AllScalars : {c : Category} → Node c → Prop
  | _, .mk _ fs _ => fs.AllScalars

/-- All scalars in a list of fields, at any depth, have the property. -/
def Fields.AllScalars : {fs : List Field} → Fields fs → Prop
  | _, .nil => True
  | _, .cons slot rest => slot.AllScalars ∧ rest.AllScalars

/-- All scalars in a field, at any depth, have the property. -/
def Slot.AllScalars : {k : Content} → Slot k → Prop
  | _, .node n => n.AllScalars
  | _, .absent => True
  | _, .present n => n.AllScalars
  | _, .list ns => ns.AllScalars
  | .scalar s, .scalar v => P s v

/-- All scalars in a list of trees have the property. -/
def Nodes.AllScalars : {c : Category} → {gaps : Bool} → Nodes c gaps → Prop
  | _, _, .nil => True
  | _, _, .cons n rest => n.AllScalars ∧ rest.AllScalars
  | _, _, .gap rest => rest.AllScalars

end

variable {P}

mutual

/-- All scalars of a tree have a property exactly when those in the fields of each of its nodes
do. -/
theorem Node.allScalars_iff : {c : Category} → (n : Node c) →
    (n.AllScalars P ↔ ∀ m ∈ n.subtrees, m.2.fields.OwnScalars P)
  | _, .mk k fs place => by
    -- the root comes first among the subtrees and contributes its own scalars
    rw [Node.AllScalars, Fields.allScalars_iff fs, Node.subtrees, List.forall_mem_cons]
    rfl

theorem Fields.allScalars_iff : {fs : List Field} → (v : Fields fs) →
    (v.AllScalars P ↔ v.OwnScalars P ∧ ∀ m ∈ v.subtrees, m.2.fields.OwnScalars P)
  | _, .nil => by simp [Fields.AllScalars, Fields.OwnScalars, Fields.subtrees]
  | _, .cons slot rest => by
    rw [Fields.AllScalars, Slot.allScalars_iff slot, Fields.allScalars_iff rest,
      Fields.OwnScalars, Fields.subtrees, List.forall_mem_append]
    -- own scalars on one side, those of the nodes below on the other
    exact and_and_and_comm

theorem Slot.allScalars_iff : {k : Content} → (slot : Slot k) →
    (slot.AllScalars P ↔ slot.OwnScalar P ∧ ∀ m ∈ slot.subtrees, m.2.fields.OwnScalars P)
  | _, .node n => by simp [Slot.AllScalars, Slot.OwnScalar, Slot.subtrees, Node.allScalars_iff n]
  | _, .absent => by simp [Slot.AllScalars, Slot.OwnScalar, Slot.subtrees]
  | _, .present n => by
    simp [Slot.AllScalars, Slot.OwnScalar, Slot.subtrees, Node.allScalars_iff n]
  | _, .list ns => by
    simp [Slot.AllScalars, Slot.OwnScalar, Slot.subtrees, Nodes.allScalars_iff ns]
  | .scalar s, .scalar v => by simp [Slot.AllScalars, Slot.OwnScalar, Slot.subtrees]

theorem Nodes.allScalars_iff : {c : Category} → {gaps : Bool} → (ns : Nodes c gaps) →
    (ns.AllScalars P ↔ ∀ m ∈ ns.subtrees, m.2.fields.OwnScalars P)
  | _, _, .nil => by simp [Nodes.AllScalars, Nodes.subtrees]
  | _, _, .cons n rest => by
    rw [Nodes.AllScalars, Node.allScalars_iff n, Nodes.allScalars_iff rest, Nodes.subtrees,
      List.forall_mem_append]
  | _, _, .gap rest => by
    rw [Nodes.AllScalars, Nodes.allScalars_iff rest, Nodes.subtrees]

end

end AllScalars

/-- The constant in a field, if it holds one, has a property of constants. -/
private theorem Slot.ownScalar_constants_iff {P : Constant → Prop} {k : Content} (slot : Slot k) :
    slot.OwnScalar (fun s v => ∀ c ∈ s.constants v, P c) ↔ ∀ c ∈ slot.constants, P c := by
  cases slot <;> simp [Slot.OwnScalar, Slot.constants]

/-- A property of constants holds of those in a list of fields exactly when it holds of each scalar
that is one. -/
theorem Fields.ownScalars_constants_iff {P : Constant → Prop} : {fs : List Field} →
    (v : Fields fs) →
    (v.OwnScalars (fun s v => ∀ c ∈ s.constants v, P c) ↔ ∀ c ∈ v.constants, P c)
  | _, .nil => by simp [Fields.OwnScalars, Fields.constants]
  | _, .cons slot rest => by
    rw [Fields.OwnScalars, Slot.ownScalar_constants_iff, Fields.ownScalars_constants_iff rest,
      Fields.constants, List.forall_mem_append]

/-! ## Children -/

/-- The subtrees of a list of nodes are those of its nodes. -/
private theorem Nodes.subtrees_eq {c : Category} {gaps : Bool} : (ns : Nodes c gaps) →
    ns.subtrees = ns.toList.flatMap Node.subtrees
  | .nil => rfl
  | .cons n rest => by
    rw [Nodes.subtrees, Nodes.toList, List.flatMap_cons, Nodes.subtrees_eq rest]
  | .gap rest => by rw [Nodes.subtrees, Nodes.toList, Nodes.subtrees_eq rest]

private theorem Slot.subtrees_eq {k : Content} (slot : Slot k) :
    slot.subtrees = slot.children.flatMap fun m => m.2.subtrees := by
  cases slot with
  | node n | present n => simp [Slot.subtrees, Slot.children]
  | absent => rfl
  | list ns => rw [Slot.subtrees, Slot.children, List.flatMap_map, Nodes.subtrees_eq]
  | scalar v => rfl

private theorem Fields.subtrees_eq : {fs : List Field} → (v : Fields fs) →
    v.subtrees = v.children.flatMap fun m => m.2.subtrees
  | _, .nil => rfl
  | _, .cons slot rest => by
    rw [Fields.subtrees, Fields.children_cons, List.flatMap_append, Slot.subtrees_eq,
      Fields.subtrees_eq rest]

namespace AnyNode

/-- The subtrees of a node are the node itself and those of its children. -/
theorem subtrees_eq (n : AnyNode) :
    n.2.subtrees = n :: n.children.flatMap fun m => m.2.subtrees := by
  obtain ⟨c, k, fs, place⟩ := n
  rw [Node.subtrees, Fields.subtrees_eq, children_eq]
  rfl

/-- A child has fewer subtrees than the node. -/
private theorem length_subtrees_lt {n m : AnyNode} (h : m ∈ n.children) :
    m.2.subtrees.length < n.2.subtrees.length := by
  have hsublist : m.2.subtrees.Sublist (n.children.flatMap fun m => m.2.subtrees) :=
    List.sublist_flatten_of_mem (List.mem_map_of_mem h)
  rw [n.subtrees_eq, List.length_cons]
  exact Nat.lt_succ_of_le hsublist.length_le

/-- What holds of a node whenever it holds of its children holds of every node. -/
@[elab_as_elim]
theorem induction_on_children {motive : AnyNode → Prop}
    (step : ∀ n, (∀ m ∈ n.children, motive m) → motive n) (n : AnyNode) : motive n :=
  step n fun m _ => induction_on_children step m
termination_by n.2.subtrees.length
decreasing_by exact length_subtrees_lt ‹_›

/-- A node is one of its subtrees. -/
theorem mem_subtrees_self (n : AnyNode) : n ∈ n.2.subtrees := by
  rw [subtrees_eq]
  exact List.mem_cons_self

/-- The children of a subtree are subtrees. -/
theorem mem_subtrees_of_mem_children {root n m : AnyNode} (hn : n ∈ root.2.subtrees)
    (hm : m ∈ n.children) : m ∈ root.2.subtrees := by
  induction root using induction_on_children with
  | step root ih =>
    rw [subtrees_eq] at hn ⊢
    refine List.mem_cons_of_mem _ (List.mem_flatMap.mpr ?_)
    rcases List.mem_cons.mp hn with rfl | hn
    · exact ⟨m, hm, m.mem_subtrees_self⟩
    · obtain ⟨child, hchild, hn⟩ := List.mem_flatMap.mp hn
      exact ⟨child, hchild, ih child hchild hn⟩

/-- What holds of a node, and of the children of whatever it holds of, holds of all subtrees. -/
theorem forall_mem_subtrees {P : AnyNode → Prop} {root : AnyNode} (hroot : P root)
    (hstep : ∀ n, P n → ∀ m ∈ n.children, P m) : ∀ n ∈ root.2.subtrees, P n := by
  induction root using induction_on_children with
  | step root ih =>
    rw [subtrees_eq]
    refine List.forall_mem_cons.mpr ⟨hroot, List.forall_mem_flatMap.mpr fun child hchild => ?_⟩
    exact ih child hchild (hstep root hroot child hchild)

end AnyNode

end SyntaxDump
