import SyntaxDump.Format
import SyntaxDump.Proofs.Validity

/-!
# Constants of trees

A tree can be changed in its constants alone: classes, names, texts and places stay as they are.
The changed tree is valid if its names are and the new constants are within the range of documents,
whatever the old ones were.

## Main statements

- `AnyNode.eq_constant_of_mem_constants`: which nodes hold constants;
- `Tree.valid_mapConstants`: validity of a tree with changed constants;
- `Tree.mapConstants_eq_self_iff`: a tree stays the same exactly when each of its constants does.
-/

namespace SyntaxDump

/-! ## Nodes with constants -/

/-- A constant in a list of fields stands in a field for constants. -/
private theorem Fields.exists_of_mem_constants {c : Constant} : {fs : List Field} →
    {v : Fields fs} → c ∈ v.constants → ∃ f ∈ fs, f.content = .scalar .constant
  | [], .nil, h => nomatch h
  | f :: fs, .cons slot rest, h => by
    rcases List.mem_append.mp h with hslot | hrest
    · refine ⟨f, List.mem_cons_self, ?_⟩
      obtain ⟨name, content, required⟩ := f
      cases slot with
      | @scalar s v => cases s <;> first | rfl | cases hslot
      | _ => cases hslot
    · obtain ⟨g, hg, hcontent⟩ := exists_of_mem_constants hrest
      exact ⟨g, List.mem_cons_of_mem f hg, hcontent⟩

/-- A constant is the value of a node of its own class. -/
theorem AnyNode.eq_constant_of_mem_constants {n : AnyNode} {c : Constant} (h : c ∈ n.constants) :
    ∃ (kind : Option String) (place : Location),
      n = ⟨.expr, .mk .constant (.cons (.scalar c) (.cons (.scalar kind) .nil)) place⟩ := by
  obtain ⟨category, k, fs, place⟩ := n
  obtain ⟨f, hf, hcontent⟩ := Fields.exists_of_mem_constants h
  -- no other class has a field for constants
  have hother : k.className = "Constant" ∨ ∀ f ∈ k.fields, f.content ≠ .scalar .constant := by
    cases k <;> decide +kernel
  cases k
  case constant =>
    match fs, h with
    | .cons (.scalar value) (.cons (.scalar kind) .nil), h =>
      obtain rfl := List.mem_singleton.mp h
      exact ⟨kind, place, rfl⟩
  all_goals exact absurd hcontent (hother.resolve_left (by decide) f hf)

section MapConstants

variable (f : Constant → Constant)

/-- A scalar with the constant that it is, if it is one, changed. -/
def Scalar.mapConstant : (s : Scalar) → s.Value → s.Value
  | .identifier, v => v
  | .optionalIdentifier, v => v
  | .identifiers, v => v
  | .dottedName, v => v
  | .optionalDottedName, v => v
  | .constant, v => f v
  | .optionalText, v => v
  | .level, v => v
  | .conversion, v => v

mutual

/-- The tree with all its constants changed. -/
def Node.mapConstants : {c : Category} → Node c → Node c
  | _, .mk k fs place => .mk k fs.mapConstants place

/-- The fields with all constants in them changed. -/
def Fields.mapConstants : {fs : List Field} → Fields fs → Fields fs
  | _, .nil => .nil
  | _, .cons slot rest => .cons slot.mapConstants rest.mapConstants

/-- The field with all constants in it changed. -/
def Slot.mapConstants : {k : Content} → Slot k → Slot k
  | _, .node n => .node n.mapConstants
  | _, .absent => .absent
  | _, .present n => .present n.mapConstants
  | _, .list ns => .list ns.mapConstants
  | .scalar s, .scalar v => .scalar (s.mapConstant f v)

/-- The list of trees with all constants changed. -/
def Nodes.mapConstants : {c : Category} → {gaps : Bool} → Nodes c gaps → Nodes c gaps
  | _, _, .nil => .nil
  | _, _, .cons n rest => .cons n.mapConstants rest.mapConstants
  | _, _, .gap rest => .gap rest.mapConstants

end

/-- The node at the top of a tree with all constants changed. -/
def Root.mapConstants : Root → Root
  | .mod n => .mod (n.mapConstants f)
  | .stmt n => .stmt (n.mapConstants f)
  | .expr n => .expr (n.mapConstants f)

/-- The tree with all its constants changed. -/
def Tree.mapConstants (t : Tree Root) : Tree Root := t.map (Root.mapConstants f)

/-- A node of any category with all constants changed. -/
def AnyNode.mapConstants (n : AnyNode) : AnyNode := ⟨n.1, n.2.mapConstants f⟩

/-! ## Subtrees -/

mutual

/-- The nodes of the changed tree are the changed nodes. -/
theorem Node.subtrees_mapConstants : {c : Category} → (n : Node c) →
    (n.mapConstants f).subtrees = n.subtrees.map (AnyNode.mapConstants f)
  | _, .mk k fs place => by
    rw [Node.mapConstants, Node.subtrees, Node.subtrees, List.map_cons,
      Fields.subtrees_mapConstants fs]
    rfl

theorem Fields.subtrees_mapConstants : {fs : List Field} → (v : Fields fs) →
    (v.mapConstants f).subtrees = v.subtrees.map (AnyNode.mapConstants f)
  | _, .nil => rfl
  | _, .cons slot rest => by
    rw [Fields.mapConstants, Fields.subtrees, Fields.subtrees, List.map_append,
      Slot.subtrees_mapConstants slot, Fields.subtrees_mapConstants rest]

theorem Slot.subtrees_mapConstants : {k : Content} → (slot : Slot k) →
    (slot.mapConstants f).subtrees = slot.subtrees.map (AnyNode.mapConstants f)
  | _, .node n => Node.subtrees_mapConstants n
  | _, .absent => rfl
  | _, .present n => Node.subtrees_mapConstants n
  | _, .list ns => Nodes.subtrees_mapConstants ns
  | .scalar _, .scalar _ => rfl

theorem Nodes.subtrees_mapConstants : {c : Category} → {gaps : Bool} → (ns : Nodes c gaps) →
    (ns.mapConstants f).subtrees = ns.subtrees.map (AnyNode.mapConstants f)
  | _, _, .nil => rfl
  | _, _, .cons n rest => by
    rw [Nodes.mapConstants, Nodes.subtrees, Nodes.subtrees, List.map_append,
      Node.subtrees_mapConstants n, Nodes.subtrees_mapConstants rest]
  | _, _, .gap rest => by
    rw [Nodes.mapConstants, Nodes.subtrees, Nodes.subtrees, Nodes.subtrees_mapConstants rest]

end

/-- The nodes at the top of the changed tree are the changed nodes at the top. -/
theorem Tree.nodes_mapConstants (t : Tree Root) :
    (t.mapConstants f).nodes = t.nodes.map (Root.mapConstants f) := by
  cases t <;> rfl

theorem Tree.subtrees_mapConstants (t : Tree Root) :
    (t.mapConstants f).subtrees = t.subtrees.map (AnyNode.mapConstants f) := by
  have hroot (r : Root) :
      (r.mapConstants f).subtrees = r.subtrees.map (AnyNode.mapConstants f) := by
    cases r <;> exact Node.subtrees_mapConstants f _
  rw [Tree.subtrees, Tree.subtrees, Tree.nodes_mapConstants, List.flatMap_map, List.map_flatMap]
  exact congrArg (t.nodes.flatMap ·) (funext hroot)

/-! ## What a node holds -/

/-- Texts other than those of constants stay. -/
private theorem Slot.texts_mapConstants {k : Content} (slot : Slot k) :
    (slot.mapConstants f).texts = slot.texts := by
  cases slot with
  | @scalar s v => cases s <;> rfl
  | _ => rfl

/-- Constants are changed one by one. -/
private theorem Slot.constants_mapConstants {k : Content} (slot : Slot k) :
    (slot.mapConstants f).constants = slot.constants.map f := by
  cases slot with
  | @scalar s v => cases s <;> rfl
  | _ => rfl

private theorem Fields.texts_mapConstants : {fs : List Field} → (v : Fields fs) →
    (v.mapConstants f).texts = v.texts
  | _, .nil => rfl
  | _, .cons slot rest => by
    rw [Fields.mapConstants, Fields.texts, Fields.texts, Slot.texts_mapConstants,
      Fields.texts_mapConstants rest]

private theorem Fields.constants_mapConstants : {fs : List Field} → (v : Fields fs) →
    (v.mapConstants f).constants = v.constants.map f
  | _, .nil => rfl
  | _, .cons slot rest => by
    rw [Fields.mapConstants, Fields.constants, Fields.constants, List.map_append,
      Slot.constants_mapConstants, Fields.constants_mapConstants rest]

namespace AnyNode

theorem className_mapConstants (n : AnyNode) : (n.mapConstants f).className = n.className := by
  obtain ⟨c, k, fs, place⟩ := n
  rfl

theorem texts_mapConstants (n : AnyNode) : (n.mapConstants f).texts = n.texts := by
  obtain ⟨c, k, fs, place⟩ := n
  exact Fields.texts_mapConstants f fs

theorem constants_mapConstants (n : AnyNode) :
    (n.mapConstants f).constants = n.constants.map f := by
  obtain ⟨c, k, fs, place⟩ := n
  exact Fields.constants_mapConstants f fs

/-- Constants within the range make a node with names valid. -/
private theorem valid_mapConstants {n : AnyNode} (hf : ∀ c, (f c).InRange) (h : n.WellNamed) :
    (n.mapConstants f).Valid where
  identifiers := by
    rw [texts_mapConstants, className_mapConstants]
    exact h.identifiers
  dottedNames := by
    rw [texts_mapConstants, className_mapConstants]
    exact h.dottedNames
  constants := by
    rw [constants_mapConstants, List.forall_mem_map]
    exact fun c _ => hf c

end AnyNode

variable {f}

/-- With constants within the range a tree whose names are names is valid. -/
theorem Tree.valid_mapConstants {t : Tree Root} (hf : ∀ c, (f c).InRange) (h : t.WellNamed) :
    (t.mapConstants f).Valid := by
  rw [Tree.Valid, Tree.subtrees_mapConstants, List.forall_mem_map]
  exact fun n hn => AnyNode.valid_mapConstants f hf (h n hn)

/-! ## Unchanged trees -/

/-- A scalar stays the same if it is no constant or its constant does. -/
private theorem Scalar.mapConstant_eq_self_iff (s : Scalar) (v : s.Value) :
    s.mapConstant f v = v ↔ ∀ c ∈ s.constants v, f c = c := by
  cases s with
  | constant => exact (List.forall_mem_singleton (p := fun c => f c = c)).symm
  | _ => exact ⟨fun _ => nofun, fun _ => rfl⟩

mutual

/-- A tree stays the same exactly when all its scalars do. -/
theorem Node.mapConstants_eq_self_iff : {c : Category} → (n : Node c) →
    (n.mapConstants f = n ↔ n.AllScalars fun s v => ∀ c ∈ s.constants v, f c = c)
  | _, .mk k fs place => by
    rw [Node.mapConstants, Node.AllScalars, ← Fields.mapConstants_eq_self_iff fs, Node.mk.injEq]
    simp

theorem Fields.mapConstants_eq_self_iff : {fs : List Field} → (v : Fields fs) →
    (v.mapConstants f = v ↔ v.AllScalars fun s v => ∀ c ∈ s.constants v, f c = c)
  | _, .nil => ⟨fun _ => trivial, fun _ => rfl⟩
  | _, .cons slot rest => by
    rw [Fields.mapConstants, Fields.AllScalars, ← Slot.mapConstants_eq_self_iff slot,
      ← Fields.mapConstants_eq_self_iff rest, Fields.cons.injEq]

theorem Slot.mapConstants_eq_self_iff : {k : Content} → (slot : Slot k) →
    (slot.mapConstants f = slot ↔ slot.AllScalars fun s v => ∀ c ∈ s.constants v, f c = c)
  | _, .node n => by
    rw [Slot.mapConstants, Slot.AllScalars, ← Node.mapConstants_eq_self_iff n, Slot.node.injEq]
  | _, .absent => ⟨fun _ => trivial, fun _ => rfl⟩
  | _, .present n => by
    rw [Slot.mapConstants, Slot.AllScalars, ← Node.mapConstants_eq_self_iff n, Slot.present.injEq]
  | _, .list ns => by
    rw [Slot.mapConstants, Slot.AllScalars, ← Nodes.mapConstants_eq_self_iff ns, Slot.list.injEq]
  | .scalar s, .scalar v => by
    rw [Slot.mapConstants, Slot.AllScalars, ← Scalar.mapConstant_eq_self_iff, Slot.scalar.injEq]

theorem Nodes.mapConstants_eq_self_iff : {c : Category} → {gaps : Bool} → (ns : Nodes c gaps) →
    (ns.mapConstants f = ns ↔ ns.AllScalars fun s v => ∀ c ∈ s.constants v, f c = c)
  | _, _, .nil => ⟨fun _ => trivial, fun _ => rfl⟩
  | _, _, .cons n rest => by
    rw [Nodes.mapConstants, Nodes.AllScalars, ← Node.mapConstants_eq_self_iff n,
      ← Nodes.mapConstants_eq_self_iff rest, Nodes.cons.injEq]
  | _, _, .gap rest => by
    rw [Nodes.mapConstants, Nodes.AllScalars, ← Nodes.mapConstants_eq_self_iff rest,
      Nodes.gap.injEq]

end

/-- A tree stays the same exactly when each of its constants does. -/
theorem Tree.mapConstants_eq_self_iff (t : Tree Root) :
    t.mapConstants f = t ↔ ∀ n ∈ t.subtrees, ∀ c ∈ n.constants, f c = c := by
  have hroot (r : Root) : r.mapConstants f = r ↔ ∀ n ∈ r.subtrees, ∀ c ∈ n.constants, f c = c := by
    have hnode : r.mapConstants f = r ↔ r.toNode.2.mapConstants f = r.toNode.2 := by
      cases r <;> simp [Root.mapConstants, Root.toNode]
    rw [hnode, Node.mapConstants_eq_self_iff, Node.allScalars_iff]
    exact forall₂_congr fun n _ => Fields.ownScalars_constants_iff n.2.fields
  have hnodes : t.mapConstants f = t ↔ ∀ r ∈ t.nodes, r.mapConstants f = r := by
    cases t with
    | single r => simp [Tree.mapConstants, Tree.map, Tree.nodes]
    | many rs =>
      simpa [Tree.mapConstants, Tree.map, Tree.nodes] using
        List.map_inj_left (l := rs) (f := Root.mapConstants f) (g := id)
  rw [hnodes]
  simp only [hroot, Tree.subtrees, List.mem_flatMap]
  constructor
  · rintro h n ⟨r, hr, hn⟩
    exact h r hr n hn
  · intro h r hr n hn
    exact h n ⟨r, hr, hn⟩

end MapConstants

end SyntaxDump
