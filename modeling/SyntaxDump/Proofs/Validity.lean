import Mathlib.Algebra.Group.Int.Defs
import Mathlib.Algebra.Group.Nat.Defs
import SyntaxDump.Name
import SyntaxDump.Proofs.Grammar
import SyntaxDump.Proofs.Subtrees

/-!
# Valid trees

A tree built node by node may hold any text where a program has a name, and constants that no
document can carry. A valid tree does not: its names are names, its integers fit into 64 bits and
its floats are finite. The fields that hold names are listed here by class and field, independently
of the scalars that the grammar gives these fields; `AnyNode.valid_iff` checks that the two
descriptions agree.

## Main statement

- `Tree.valid_iff`: a tree is valid exactly when each of its scalars is sound in its own right,
  which is how readers and writers see the matter.
-/

namespace SyntaxDump

/-- The fields that hold names, as pairs of a class and one of its fields. -/
def identifierFields : List (String × String) :=
  [("Name", "id"), ("Attribute", "attr"), ("FunctionDef", "name"), ("AsyncFunctionDef", "name"),
    ("ClassDef", "name"), ("Global", "names"), ("arg", "arg"), ("keyword", "arg"),
    ("alias", "asname")]

/-- The fields that hold dotted names. -/
def dottedNameFields : List (String × String) := [("alias", "name"), ("ImportFrom", "module")]

/-- Constants that documents carry without loss: integers of 64 bits, with a sign or without, and
floats that are finite numbers. -/
def Constant.InRange : Constant → Prop
  | .int n => -2 ^ 63 ≤ n ∧ n < 2 ^ 64
  | .float x => x.isFinite
  | _ => True

instance (c : Constant) : Decidable c.InRange := by
  unfold Constant.InRange
  split <;> infer_instance

/-- The fields of a node hold what they should. A field that is absent holds no text. -/
structure AnyNode.Valid (n : AnyNode) : Prop where
  identifiers : ∀ e ∈ n.texts, (n.className, e.1) ∈ identifierFields → Name.isIdentifier e.2
  dottedNames : ∀ e ∈ n.texts, (n.className, e.1) ∈ dottedNameFields → Name.isDotted e.2
  constants : ∀ c ∈ n.constants, c.InRange

instance (n : AnyNode) : Decidable n.Valid :=
  decidable_of_iff
    ((∀ e ∈ n.texts, (n.className, e.1) ∈ identifierFields → Name.isIdentifier e.2) ∧
      (∀ e ∈ n.texts, (n.className, e.1) ∈ dottedNameFields → Name.isDotted e.2) ∧
      ∀ c ∈ n.constants, c.InRange)
    ⟨fun ⟨h, h', h''⟩ => ⟨h, h', h''⟩, fun ⟨h, h', h''⟩ => ⟨h, h', h''⟩⟩

/-- Every node of a tree is valid. -/
def Tree.Valid (t : Tree Root) : Prop := ∀ n ∈ t.subtrees, n.Valid

instance (t : Tree Root) : Decidable t.Valid :=
  inferInstanceAs (Decidable (∀ n ∈ t.subtrees, n.Valid))

/-- The fields of a node that hold names hold names; its constants may be any. -/
structure AnyNode.WellNamed (n : AnyNode) : Prop where
  identifiers : ∀ e ∈ n.texts, (n.className, e.1) ∈ identifierFields → Name.isIdentifier e.2
  dottedNames : ∀ e ∈ n.texts, (n.className, e.1) ∈ dottedNameFields → Name.isDotted e.2

instance (n : AnyNode) : Decidable n.WellNamed :=
  decidable_of_iff
    ((∀ e ∈ n.texts, (n.className, e.1) ∈ identifierFields → Name.isIdentifier e.2) ∧
      ∀ e ∈ n.texts, (n.className, e.1) ∈ dottedNameFields → Name.isDotted e.2)
    ⟨fun ⟨h, h'⟩ => ⟨h, h'⟩, fun ⟨h, h'⟩ => ⟨h, h'⟩⟩

/-- The names of every node of a tree are names. -/
def Tree.WellNamed (t : Tree Root) : Prop := ∀ n ∈ t.subtrees, n.WellNamed

instance (t : Tree Root) : Decidable t.WellNamed :=
  inferInstanceAs (Decidable (∀ n ∈ t.subtrees, n.WellNamed))

/-- The names of a valid tree are names. -/
theorem Tree.Valid.wellNamed {t : Tree Root} (h : t.Valid) : t.WellNamed :=
  fun n hn => ⟨(h n hn).identifiers, (h n hn).dottedNames⟩

/-! ## Validity scalar by scalar -/

/-- Fields that are made of names. -/
def Content.isIdentifier : Content → Bool
  | .scalar .identifier => true
  | .scalar .optionalIdentifier => true
  | .scalar .identifiers => true
  | _ => false

/-- Fields that are made of dotted names. -/
def Content.isDottedName : Content → Bool
  | .scalar .dottedName => true
  | .scalar .optionalDottedName => true
  | _ => false

/-- The grammar makes exactly the listed fields of names. -/
theorem Kind.isIdentifier_iff {c : Category} (k : Kind c) :
    ∀ f ∈ k.fields, f.content.isIdentifier ↔ (k.className, f.name) ∈ identifierFields := by
  cases k <;> decide +kernel

/-- The grammar makes exactly the listed fields of dotted names. -/
theorem Kind.isDottedName_iff {c : Category} (k : Kind c) :
    ∀ f ∈ k.fields, f.content.isDottedName ↔ (k.className, f.name) ∈ dottedNameFields := by
  cases k <;> decide +kernel

/-- A scalar holds what its kind promises. -/
structure Scalar.Sound (s : Scalar) (v : s.Value) : Prop where
  identifiers : (Content.scalar s).isIdentifier → ∀ text ∈ s.texts v, Name.isIdentifier text
  dottedNames : (Content.scalar s).isDottedName → ∀ text ∈ s.texts v, Name.isDotted text
  constants : ∀ c ∈ s.constants v, c.InRange

/-- The scalar in a field is sound exactly when its texts and its constant are as the content of
the field asks. -/
private theorem Slot.ownScalar_sound_iff {k : Content} (slot : Slot k) :
    slot.OwnScalar Scalar.Sound ↔
      (k.isIdentifier → ∀ text ∈ slot.texts, Name.isIdentifier text) ∧
      (k.isDottedName → ∀ text ∈ slot.texts, Name.isDotted text) ∧
      ∀ c ∈ slot.constants, c.InRange := by
  cases slot with
  | scalar v =>
    exact ⟨fun ⟨h, h', h''⟩ => ⟨h, h', h''⟩, fun ⟨h, h', h''⟩ => ⟨h, h', h''⟩⟩
  | _ => simp [Slot.OwnScalar, Slot.texts, Slot.constants]

/-- The fields of a class are valid exactly when each scalar in them is sound. The fields are
given as a part `fs` of those of the class, so that they can be gone through one by one. -/
private theorem Fields.ownScalars_sound_iff {c : Category} (kind : Kind c) :
    {fs : List Field} → (v : Fields fs) → (∀ f ∈ fs, f ∈ kind.fields) →
    (v.OwnScalars Scalar.Sound ↔
      (∀ e ∈ v.texts, (kind.className, e.1) ∈ identifierFields → Name.isIdentifier e.2) ∧
      (∀ e ∈ v.texts, (kind.className, e.1) ∈ dottedNameFields → Name.isDotted e.2) ∧
      ∀ c ∈ v.constants, c.InRange)
  | _, .nil, _ => by simp [Fields.OwnScalars, Fields.texts, Fields.constants]
  | f :: fs, .cons slot rest, hfs => by
    have hf : f ∈ kind.fields := hfs f List.mem_cons_self
    have hrest := Fields.ownScalars_sound_iff kind rest fun g hg =>
      hfs g (List.mem_cons_of_mem _ hg)
    -- the grammar decides whether the content of the field asks for names
    rw [Fields.OwnScalars, Slot.ownScalar_sound_iff, hrest, kind.isIdentifier_iff f hf,
      kind.isDottedName_iff f hf]
    simp only [Fields.texts, Fields.constants, List.forall_mem_append, List.forall_mem_map]
    -- the same conditions, collected by field or by kind of condition
    constructor
    · rintro ⟨⟨hi, hd, hc⟩, hi', hd', hc'⟩
      exact ⟨⟨fun t ht hp => hi hp t ht, hi'⟩, ⟨fun t ht hp => hd hp t ht, hd'⟩, hc, hc'⟩
    · rintro ⟨⟨hi, hi'⟩, ⟨hd, hd'⟩, hc, hc'⟩
      exact ⟨⟨fun hp t ht => hi t ht hp, fun hp t ht => hd t ht hp, hc⟩, hi', hd', hc'⟩

/-- A node is valid exactly when each scalar in its fields is sound. -/
theorem AnyNode.valid_iff (n : AnyNode) : n.Valid ↔ n.2.fields.OwnScalars Scalar.Sound := by
  rw [Fields.ownScalars_sound_iff n.2.kind n.2.fields fun _ h => h]
  exact ⟨fun ⟨h, h', h''⟩ => ⟨h, h', h''⟩, fun ⟨h, h', h''⟩ => ⟨h, h', h''⟩⟩

/-- All nodes of a tree are valid exactly when all its scalars are sound. -/
theorem Node.forall_valid_iff {c : Category} (n : Node c) :
    (∀ m ∈ n.subtrees, m.Valid) ↔ n.AllScalars Scalar.Sound := by
  rw [Node.allScalars_iff]
  simp only [AnyNode.valid_iff]

/-- All scalars of the nodes at the top and below have the property. -/
def Tree.AllScalars (P : (s : Scalar) → s.Value → Prop) (t : Tree Root) : Prop :=
  ∀ r ∈ t.nodes, r.toNode.2.AllScalars P

/-- A tree is valid exactly when all its scalars are sound. -/
theorem Tree.valid_iff (t : Tree Root) : t.Valid ↔ t.AllScalars Scalar.Sound := by
  simp only [Tree.Valid, Tree.subtrees, Tree.AllScalars, List.mem_flatMap, Root.subtrees,
    ← Node.forall_valid_iff]
  exact ⟨fun h r hr m hm => h m ⟨r, hr, hm⟩, fun h m ⟨r, hr, hm⟩ => h r hr m hm⟩

end SyntaxDump
