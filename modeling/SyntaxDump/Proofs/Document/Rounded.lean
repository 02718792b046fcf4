import SyntaxDump.Proofs.Constants
import SyntaxDump.Proofs.Document.Loading
import SyntaxDump.Proofs.Json.Exact

/-!
# Trees of rounded values

Where a document spells an integer that does not fit into 64 bits, the tree holds a float. Nothing
else changes: a value with such integers is read as a tree whenever its rounded value is, and the
two trees differ in their constants alone.

## Main statements

- `Json.readsRounded`: the readers of nodes and fields, by induction on the parts of a value;
- `Tree.ofJson_mirrors`: the tree of a rounded value.
-/

namespace SyntaxDump

open SyntaxDump.Except (Mirrors)

/-- The constant that the reader makes of a constant that is spelled. -/
def Constant.rounded : Constant → Constant
  | .int n => if (Constant.int n).InRange then .int n else .float (Json.floatOfInt n)
  | c => c

/-- Integers of 64 bits, with a sign or without, are the ones that stay. -/
theorem Constant.rounded_int_eq_self_iff (n : ℤ) :
    (Constant.int n).rounded = .int n ↔ -2 ^ 63 ≤ n ∧ n < 2 ^ 64 := by
  rw [rounded]
  split
  · next h => exact ⟨fun _ => h, fun _ => rfl⟩
  · next h => exact ⟨nofun, fun hrange => absurd hrange h⟩

/-! ## Values that are not rounded -/

namespace Json

/-- A value that is no float and has no parts. -/
def IsPlain : Json → Prop
  | .float _ | .arr _ | .obj _ => False
  | _ => True

/-- A rounded value that is plain was not changed. -/
private theorem rounded_eq_self {j : Json} (h : j.rounded.IsPlain) : j.rounded = j := by
  cases j with
  | int n =>
    rw [rounded] at h ⊢
    split at h
    · next hrange => exact if_pos hrange
    · exact h.elim
  | arr items => exact h.elim
  | obj members => exact h.elim
  | _ => rfl

/-- A reader that accepts plain values only reads nothing that was rounded. -/
private theorem mirrors_of_isPlain {α : Type} {read : Json → Except DecodeError α}
    (h : ∀ {j a}, read j = .ok a → j.IsPlain) (j : Json) :
    Mirrors id (read j.rounded) (read j) := by
  intro a ha
  have hself := rounded_eq_self (h ha)
  exact ⟨a, hself ▸ ha, rfl⟩

/-- Only `null` is rounded to `null`. -/
private theorem rounded_eq_null_iff {j : Json} : j.rounded = .null ↔ j = .null := by
  constructor
  · intro h
    have hself : j.rounded = j := rounded_eq_self (by rw [h]; trivial)
    rw [← hself, h]
  · rintro rfl
    rfl

private theorem toText_mirrors (j : Json) : Mirrors id j.rounded.toText j.toText :=
  mirrors_of_isPlain (fun {j a} h => by cases j <;> trivial) j

private theorem toByte_mirrors (j : Json) : Mirrors id j.rounded.toByte j.toByte :=
  mirrors_of_isPlain (fun {j a} h => by cases j <;> trivial) j

private theorem toItems_mirrors (j : Json) :
    Mirrors (List.map rounded) j.rounded.toItems j.toItems := by
  cases j with
  | int n =>
    rw [rounded]
    split <;> exact .error
  | arr items =>
    rw [rounded, roundedItems_eq_map]
    exact .ok (List.map rounded) items
  | _ => exact .error

end Json

/-! ## Scalars -/

private theorem Constant.ofJson_mirrors (j : Json) :
    Mirrors rounded (ofJson j.rounded) (ofJson j) := by
  cases j with
  | int n =>
    have hint : ofJson (Json.int n).rounded = .ok (Constant.int n).rounded := by
      rw [Json.rounded, rounded]
      split <;> rfl
    rw [hint]
    exact .ok rounded (.int n)
  | arr items =>
    rw [Json.rounded, Json.roundedItems_eq_map, ofJson, ofJson]
    refine (Mirrors.mapM fun j _ => Json.toByte_mirrors j).map fun bs => ?_
    rw [List.map_id]
    rfl
  | null => exact .ok rounded .none
  | bool b => exact .ok rounded (.bool b)
  | float x => exact .ok rounded (.float x)
  | str s => exact .ok rounded (.str s)
  | obj members => exact .error

/-- A scalar is read from a rounded value as it is from the value, but for a constant. -/
theorem Scalar.ofJson_mirrors (s : Scalar) (j : Json) :
    Mirrors (s.mapConstant Constant.rounded) (s.ofJson j.rounded) (s.ofJson j) := by
  cases s with
  | constant => exact Constant.ofJson_mirrors j
  | identifiers =>
    refine (Json.toItems_mirrors j).bind fun items => ?_
    refine (Mirrors.mapM fun j _ => Json.toText_mirrors j).bind fun texts => ?_
    rw [List.map_id]
    exact .refl _
  | identifier | optionalIdentifier | dottedName | optionalDottedName | optionalText | level
  | conversion =>
    -- a text, an integer that is small enough, or `null`
    refine Json.mirrors_of_isPlain (fun {j a} h => ?_) j
    cases j <;> trivial

/-! ## Classes and places -/

private theorem Kind.ofTag_mirrors (index : Bool) (c : Category) (j : Json) :
    Mirrors id (ofTag index c j.rounded) (ofTag index c j) := by
  refine Json.mirrors_of_isPlain (fun {j k} h => ?_) j
  cases j <;> trivial

private theorem Kind.ofMembers_mirrors (index : Bool) (c : Category)
    (members : List (String × Json)) :
    Mirrors id (ofMembers index c (Json.roundedMembers members)) (ofMembers index c members) := by
  rw [ofMembers, ofMembers, Json.member?_roundedMembers]
  cases Kind.only? c with
  | some k => exact .refl _
  | none =>
    cases Json.member? members "_type" with
    | none => exact .error
    | some tag => exact ofTag_mirrors index c tag

private theorem Location.readPart_mirrors (members : List (String × Json)) (key : String) :
    Mirrors id (readPart (Json.roundedMembers members) key) (readPart members key) := by
  rw [readPart, readPart, Json.member?_roundedMembers]
  cases Json.member? members key with
  | none => exact .refl _
  | some j =>
    show Mirrors id (Json.toOption Json.toWord j.rounded) (Json.toOption Json.toWord j)
    refine Json.mirrors_of_isPlain (fun {j part} h => ?_) j
    cases j <;> trivial

private theorem Category.readPlace_mirrors (c : Category) (members : List (String × Json)) :
    Mirrors id (c.readPlace (Json.roundedMembers members)) (c.readPlace members) := by
  rw [readPlace, readPlace]
  split
  · have hlocation : Mirrors id (Location.ofMembers (Json.roundedMembers members))
        (Location.ofMembers members) := by
      refine (Location.readPart_mirrors members _).bind fun column => ?_
      refine (Location.readPart_mirrors members _).bind fun endColumn => ?_
      refine (Location.readPart_mirrors members _).bind fun endLine => ?_
      refine (Location.readPart_mirrors members _).bind fun line => ?_
      exact .refl _
    exact hlocation.map fun l => rfl
  · exact .refl _

/-! ## Defaults -/

variable (f : Constant → Constant)

/-- The defaults of fields hold no constants. -/
private theorem Slot.mapConstants_default? {k : Content} {slot : Slot k}
    (h : Slot.default? k = some slot) : slot.mapConstants f = slot := by
  cases k with
  | node c =>
    cases c
    case context | arguments =>
      obtain rfl := Option.some.inj h
      rfl
    all_goals cases h
  | optional c =>
    obtain rfl := Option.some.inj h
    rfl
  | list c gaps =>
    obtain rfl := Option.some.inj h
    rfl
  | scalar s =>
    obtain ⟨v, hv, rfl⟩ := Option.map_eq_some_iff.mp h
    cases s with
    | constant => cases hv
    | _ => rfl

/-- Neither do the fields that an array does not reach. -/
private theorem Fields.mapConstants_beyond {d : Category} {kind : Kind d} {index : Nat}
    {fs : List Field} {v : Fields fs} (h : Fields.beyond kind index fs = .ok v) :
    v.mapConstants f = v := by
  induction fs generalizing index with
  | nil =>
    cases v
    rfl
  | cons field fs ih =>
    obtain ⟨slot, rest, -, hdefault, hrest, rfl⟩ := Fields.beyond_cons_eq_ok h
    rw [Fields.mapConstants, Slot.mapConstants_default? f hdefault, ih hrest]

/-! ## Nodes -/

/-- Nodes and fields are read from the rounded value as they are from the value, but for their
constants. -/
structure Json.ReadsRounded (j : Json) : Prop where
  node (inside : Bool) (c : Category) :
    Mirrors (Node.mapConstants Constant.rounded) (Node.ofJson inside j.rounded c)
      (Node.ofJson inside j c)
  slot (k : Content) :
    Mirrors (Slot.mapConstants Constant.rounded) (Slot.ofJson j.rounded k) (Slot.ofJson j k)

section Parts

variable {items : List Json} (hitems : ∀ part ∈ items, part.ReadsRounded)
include hitems

private theorem Nodes.ofItems_mirrors (c : Category) (gaps : Bool) :
    Mirrors (Nodes.mapConstants Constant.rounded) (Nodes.ofItems (items.map Json.rounded) c gaps)
      (Nodes.ofItems items c gaps) := by
  induction items with
  | nil =>
    rw [List.map_nil, Nodes.ofItems]
    exact .ok (Nodes.mapConstants Constant.rounded) .nil
  | cons j items ih =>
    obtain ⟨hj, hrest⟩ := List.forall_mem_cons.mp hitems
    rw [List.map_cons]
    -- a gap is one in both lists, as nothing else is rounded to `null`
    by_cases hgap : gaps = true ∧ j = .null
    · obtain ⟨rfl, rfl⟩ := hgap
      exact (ih hrest).map fun rest => rfl
    · have hgap' : ¬ (gaps = true ∧ j.rounded = .null) := by rwa [Json.rounded_eq_null_iff]
      rw [Nodes.ofItems_cons hgap, Nodes.ofItems_cons hgap']
      refine (hj.node true c).bind fun n => (ih hrest).bind fun rest => ?_
      exact .ok (Nodes.mapConstants Constant.rounded) (.cons n rest)

private theorem Fields.ofItems_mirrors {d : Category} (kind : Kind d) (index : Nat)
    (fs : List Field) :
    Mirrors (Fields.mapConstants Constant.rounded)
      (Fields.ofItems kind index (items.map Json.rounded) fs)
      (Fields.ofItems kind index items fs) := by
  induction fs generalizing items index with
  | nil =>
    rw [Fields.ofItems, Fields.ofItems]
    exact .ok (Fields.mapConstants Constant.rounded) .nil
  | cons f fs ih =>
    cases items with
    | nil =>
      -- the rest of the fields take their defaults
      exact fun v hv => ⟨v, hv, (Fields.mapConstants_beyond _ hv).symm⟩
    | cons j items =>
      obtain ⟨hj, hrest⟩ := List.forall_mem_cons.mp hitems
      rw [List.map_cons, Fields.ofItems_cons, Fields.ofItems_cons]
      refine (hj.slot f.content).bind fun slot => (ih hrest (index + 1)).bind fun rest => ?_
      exact .ok (Fields.mapConstants Constant.rounded) (.cons slot rest)

end Parts

section Members

variable {members : List (String × Json)}
  (hmembers : ∀ part ∈ (Json.obj members).parts, part.ReadsRounded)

include hmembers

/-- The member of a field is there in both objects or in none of them. -/
private theorem Field.read_mirrors (f : Field) :
    Mirrors (Slot.mapConstants Constant.rounded)
      (f.read (Slot.ofMembers (Json.roundedMembers members) f.name f.content))
      (f.read (Slot.ofMembers members f.name f.content)) := by
  intro slot hslot
  simp only [Field.read_eq_ok_iff, Slot.ofMembers_eq, Json.member?_roundedMembers] at hslot ⊢
  cases hmember : Json.member? members f.name with
  | none =>
    rw [hmember] at hslot
    rcases hslot with hread | ⟨-, hrequired, hdefault⟩
    · cases hread
    · exact ⟨slot, .inr ⟨rfl, hrequired, hdefault⟩, (Slot.mapConstants_default? _ hdefault).symm⟩
  | some j =>
    rw [hmember] at hslot
    have hj := hmembers j (Json.mem_parts_of_member? hmember)
    rcases hslot with hread | ⟨hnone, -, -⟩
    · obtain ⟨slot', hslot', rfl⟩ := hj.slot f.content slot (Option.some.inj hread)
      exact ⟨slot', .inl (congrArg some hslot'), rfl⟩
    · cases hnone

private theorem Fields.read_mirrors (fs : List Field) :
    Mirrors (Fields.mapConstants Constant.rounded)
      (Fields.read (Slot.ofMembers (Json.roundedMembers members)) fs)
      (Fields.read (Slot.ofMembers members) fs) := by
  induction fs with
  | nil => exact .ok (Fields.mapConstants Constant.rounded) .nil
  | cons f fs ih =>
    intro v hv
    obtain ⟨slot, rest, hslot, hrest, rfl⟩ := Fields.read_cons_eq_ok_iff.mp hv
    obtain ⟨slot', hslot', rfl⟩ := Field.read_mirrors hmembers f slot hslot
    obtain ⟨rest', hrest', rfl⟩ := ih rest hrest
    exact ⟨.cons slot' rest',
      Fields.read_cons_eq_ok_iff.mpr ⟨slot', rest', hslot', hrest', rfl⟩, rfl⟩

end Members

/-- A node is read so if its parts are. -/
private theorem Node.ofJson_mirrors {j : Json} (hparts : ∀ part ∈ j.parts, part.ReadsRounded)
    (inside : Bool) (c : Category) :
    Mirrors (Node.mapConstants Constant.rounded) (Node.ofJson inside j.rounded c)
      (Node.ofJson inside j c) := by
  cases j with
  | obj members =>
    -- class, fields and place are read one after the other from the same members
    intro n hn
    obtain ⟨kind, fields, place, hkind, hfields, hplace, rfl⟩ := Node.ofJson_obj_eq_ok_iff.mp hn
    obtain ⟨_, hkind', rfl⟩ := Kind.ofMembers_mirrors _ c members kind hkind
    obtain ⟨fields', hfields', rfl⟩ := Fields.read_mirrors hparts _ fields hfields
    obtain ⟨_, hplace', rfl⟩ := c.readPlace_mirrors members place hplace
    exact ⟨.mk _ fields' _,
      Node.ofJson_obj_eq_ok_iff.mpr ⟨_, fields', _, hkind', hfields', hplace', rfl⟩, rfl⟩
  | arr items =>
    have hnode (kind : Kind c) (fields : Fields kind.fields) :
        Mirrors (Node.mapConstants Constant.rounded)
          (.ok (.mk kind (fields.mapConstants Constant.rounded) (c.place .unknown)) :
            Except DecodeError (Node c))
          (.ok (.mk kind fields (c.place .unknown)) : Except DecodeError (Node c)) :=
      .ok (Node.mapConstants Constant.rounded) (.mk kind fields (c.place .unknown))
    rw [Json.rounded, Json.roundedItems_eq_map, Node.ofJson.eq_def inside (.arr items),
      Node.ofJson.eq_def]
    dsimp only
    split
    · exact .error
    cases Kind.only? c with
    | some kind =>
      -- the fields begin with the first item
      refine (Fields.ofItems_mirrors hparts kind 0 kind.fields).bind fun fields => ?_
      rw [List.length_map]
      exact (Mirrors.refl _).bind fun _ => hnode kind fields
    | none =>
      cases items with
      | nil => exact .error
      | cons tag rest =>
        -- the class stands first, and the fields follow
        obtain ⟨-, hrest⟩ := List.forall_mem_cons.mp hparts
        refine (Kind.ofTag_mirrors _ c tag).bind fun kind => ?_
        refine (Fields.ofItems_mirrors hrest kind 0 kind.fields).bind fun fields => ?_
        rw [List.length_map]
        exact (Mirrors.refl _).bind fun _ => hnode kind fields
  | int n =>
    rw [Json.rounded]
    split <;> exact .error
  | _ => exact .error

/-- A field is read so if the parts of the value are. -/
private theorem Slot.ofJson_mirrors {j : Json} (hparts : ∀ part ∈ j.parts, part.ReadsRounded)
    (k : Content) :
    Mirrors (Slot.mapConstants Constant.rounded) (Slot.ofJson j.rounded k) (Slot.ofJson j k) := by
  cases k with
  | node c =>
    rw [Slot.ofJson_node, Slot.ofJson_node]
    exact (Node.ofJson_mirrors hparts true c).map fun n => rfl
  | optional c =>
    by_cases hj : j = .null
    · subst hj
      exact .ok (Slot.mapConstants Constant.rounded) .absent
    · have hj' : j.rounded ≠ .null := fun h => hj (Json.rounded_eq_null_iff.mp h)
      rw [Slot.ofJson_optional hj, Slot.ofJson_optional hj']
      exact (Node.ofJson_mirrors hparts true c).map fun n => rfl
  | list c gaps =>
    cases j with
    | arr items =>
      rw [Json.rounded, Json.roundedItems_eq_map]
      exact (Nodes.ofItems_mirrors hparts c gaps).map fun ns => rfl
    | int n =>
      rw [Json.rounded]
      split <;> exact .error
    | _ => exact .error
  | scalar s =>
    rw [Slot.ofJson_scalar, Slot.ofJson_scalar]
    exact (s.ofJson_mirrors j).map fun v => rfl

/-- Whatever is read from a rounded value is read from the value, but for the constants. The
induction is on the parts of the value. -/
theorem Json.readsRounded (j : Json) : j.ReadsRounded := by
  induction j using Json.induction_on_parts with
  | step j ih => exact ⟨Node.ofJson_mirrors ih, Slot.ofJson_mirrors ih⟩

/-! ## Trees -/

private theorem Root.ofClass_mirrors (name : String) (j : Json) :
    Mirrors (Root.mapConstants Constant.rounded) (Root.ofClass name j.rounded)
      (Root.ofClass name j) := by
  have hnode {c : Category} {toRoot : Node c → Root}
      (h : ∀ n, toRoot (n.mapConstants Constant.rounded) =
        (toRoot n).mapConstants Constant.rounded) :
      Mirrors (Root.mapConstants Constant.rounded)
        (((Node.ofJson false j.rounded c).map toRoot).mapError (DecodeError.inNode name))
        (((Node.ofJson false j c).map toRoot).mapError (DecodeError.inNode name)) :=
    ((j.readsRounded.node false c).map h).mapError _ _
  -- the name alone decides which reader is used
  rw [Root.ofClass, Root.ofClass]
  split
  · exact hnode fun n => rfl
  split
  · exact hnode fun n => rfl
  split
  · exact hnode fun n => rfl
  · exact .error

private theorem Root.ofJson_mirrors (j : Json) :
    Mirrors (Root.mapConstants Constant.rounded) (Root.ofJson j.rounded) (Root.ofJson j) := by
  cases j with
  | obj members =>
    rw [Json.rounded, Root.ofJson, Root.ofJson, Json.member?_roundedMembers]
    cases htag : Json.member? members "_type" with
    | none => exact .error
    | some tag =>
      cases tag with
      | str name => exact ofClass_mirrors name (.obj members)
      | int n =>
        by_cases hrange : (Constant.int n).InRange
        · rw [Option.map_some, Json.rounded, if_pos hrange]
          exact .error
        · rw [Option.map_some, Json.rounded, if_neg hrange]
          exact .error
      | _ => exact .error
  | int n =>
    rw [Json.rounded]
    split <;> exact .error
  | _ => exact .error

private theorem Root.ofItems_mirrors (index : Nat) (items : List Json) :
    Mirrors (List.map (Root.mapConstants Constant.rounded))
      (Root.ofItems index (items.map Json.rounded)) (Root.ofItems index items) := by
  induction items generalizing index with
  | nil => exact .ok (List.map (Root.mapConstants Constant.rounded)) []
  | cons j items ih =>
    have hitem : Mirrors (Root.mapConstants Constant.rounded) (Root.ofItem index j.rounded)
        (Root.ofItem index j) := by
      cases j with
      | obj members => exact (ofJson_mirrors (.obj members)).mapError _ _
      | int n =>
        rw [Json.rounded]
        split <;> exact .error
      | _ => exact .error
    rw [List.map_cons, Root.ofItems, Root.ofItems]
    refine hitem.bind fun r => (ih (index + 1)).bind fun rs => ?_
    exact .ok (List.map (Root.mapConstants Constant.rounded)) (r :: rs)

/-- The tree that a rounded value describes is that of the value with its constants rounded. -/
theorem Tree.ofJson_mirrors (j : Json) :
    Mirrors (Tree.mapConstants Constant.rounded) (Tree.ofJson j.rounded) (Tree.ofJson j) := by
  cases j with
  | obj members =>
    exact ((Root.ofJson_mirrors (.obj members)).mapError _ _).map fun r => rfl
  | arr items =>
    rw [Json.rounded, Json.roundedItems_eq_map]
    exact (Root.ofItems_mirrors 0 items).map fun rs => rfl
  | int n =>
    rw [Json.rounded]
    split <;> exact .error
  | _ => exact .error

end SyntaxDump
