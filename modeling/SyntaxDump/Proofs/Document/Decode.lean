import SyntaxDump.Document.Decode
import SyntaxDump.Proofs.Json.Members
import SyntaxDump.Proofs.Json.Parts
import SyntaxDump.Proofs.Result

/-!
# What reading a node takes

Each reader of `Document/Decode.lean` is opened here once: for every form of value, a node is read
exactly when its parts are. Reading a field of an object depends on nothing but the lookup of its
name (`Slot.ofMembers_eq`).

## Main statements

- `Node.ofJson_obj_eq_ok_iff` and `Node.ofJson_arr_eq_ok`: the parts of a node that is an object or
  an array;
- `Fields.read_cons_eq_ok_iff`: the fields of an object are read one by one;
- `Nodes.ofItems_cons_eq_ok`: so are the items of a list;
- `Node.readFrom_of_ofJson`: each field of a node is read from a part of the value or is left out,
  whether the value is an object or an array.
-/

namespace SyntaxDump

/-! ## Fields -/

/-- A value read as the value of a field. -/
def Slot.ofJson (j : Json) (k : Content) : Except DecodeError (Slot k) :=
  Slot.ofReaders j (fun c => Node.ofJson true j c)
    (match j with
      | .arr items => some fun c gaps => Nodes.ofItems items c gaps
      | _ => none) k

/-- A field is read from the member of its name. -/
theorem Slot.ofMembers_eq (members : List (String × Json)) (key : String) (k : Content) :
    Slot.ofMembers members key k = (Json.member? members key).map (Slot.ofJson · k) := by
  induction members with
  | nil => rfl
  | cons m rest ih =>
    obtain ⟨name, j⟩ := m
    -- the reader of items depends on the form of the value, the result does not
    have hstep : Slot.ofMembers ((name, j) :: rest) key k =
        if name = key then some (Slot.ofJson j k) else Slot.ofMembers rest key k := by
      cases j <;> rfl
    rw [hstep, Json.member?_cons, ih]
    split <;> rfl

/-- A scalar in a field is read as such. -/
theorem Slot.ofJson_scalar {j : Json} {s : Scalar} :
    Slot.ofJson j (.scalar s) = (s.ofJson j).map .scalar := by
  cases j <;> rfl

/-- A node in a field is read as such. -/
theorem Slot.ofJson_node {j : Json} {c : Category} :
    Slot.ofJson j (.node c) = (Node.ofJson true j c).map .node := by
  cases j <;> rfl

/-- Any value but `null` in an optional field is a node. -/
theorem Slot.ofJson_optional {j : Json} {c : Category} (hj : j ≠ .null) :
    Slot.ofJson j (.optional c) = (Node.ofJson true j c).map .present := by
  cases j <;> first | rfl | exact absurd rfl hj

/-- An optional field is absent or holds a node. -/
theorem Slot.ofJson_optional_eq_ok {j : Json} {c : Category} {slot : Slot (.optional c)}
    (h : Slot.ofJson j (.optional c) = .ok slot) :
    j = .null ∧ slot = .absent ∨ ∃ n, Node.ofJson true j c = .ok n ∧ slot = .present n := by
  by_cases hj : j = .null
  · subst hj
    exact .inl ⟨rfl, (Except.ok.inj h).symm⟩
  · rw [Slot.ofJson_optional hj] at h
    obtain ⟨n, hn, hslot⟩ := Except.map_eq_ok_iff.mp h
    exact .inr ⟨n, hn, hslot.symm⟩

/-- A list in a field is read from an array. -/
theorem Slot.ofJson_list_eq_ok {j : Json} {c : Category} {gaps : Bool}
    {slot : Slot (.list c gaps)} (h : Slot.ofJson j (.list c gaps) = .ok slot) :
    ∃ items ns, j = .arr items ∧ Nodes.ofItems items c gaps = .ok ns ∧ slot = .list ns := by
  cases j with
  | arr items =>
    obtain ⟨ns, hns, hslot⟩ := Except.map_eq_ok_iff.mp h
    exact ⟨items, ns, rfl, hns, hslot.symm⟩
  | _ => cases h

/-- A field is read from its member, or is one that may be left out and takes its default. -/
theorem Field.read_eq_ok_iff {f : Field} {member : Option (Except DecodeError (Slot f.content))}
    {slot : Slot f.content} :
    f.read member = .ok slot ↔
      member = some (.ok slot) ∨
        member = none ∧ f.required = false ∧ Slot.default? f.content = some slot := by
  rcases member with _ | e | s
  · cases hr : f.required <;> cases hd : Slot.default? f.content <;> simp [Field.read, hr, hd]
  · simp [Field.read]
  · simp [Field.read]

/-- The fields of an object are read one by one. -/
theorem Fields.read_cons_eq_ok_iff
    {member : String → (k : Content) → Option (Except DecodeError (Slot k))}
    {f : Field} {fs : List Field} {v : Fields (f :: fs)} :
    Fields.read member (f :: fs) = .ok v ↔
      ∃ slot rest, f.read (member f.name f.content) = .ok slot ∧
        Fields.read member fs = .ok rest ∧ v = .cons slot rest := by
  rw [Fields.read]
  cases hhead : f.read (member f.name f.content) <;> cases hrest : Fields.read member fs
  · simp
  · simp
  · simp
  · simp [eq_comm]

/-- Fields that an array does not reach take their defaults. -/
theorem Fields.beyond_cons_eq_ok {d : Category} {kind : Kind d} {index : Nat} {f : Field}
    {fs : List Field} {v : Fields (f :: fs)} (h : Fields.beyond kind index (f :: fs) = .ok v) :
    ∃ slot rest, f.required = false ∧ Slot.default? f.content = some slot ∧
      Fields.beyond kind (index + 1) fs = .ok rest ∧ v = .cons slot rest := by
  rw [Fields.beyond] at h
  split at h
  · cases h
  · next slot hslot =>
    obtain ⟨rest, hrest, hv⟩ := Except.map_eq_ok_iff.mp h
    rcases Field.read_eq_ok_iff.mp hslot with hread | ⟨-, hrequired, hdefault⟩
    · cases hread
    · exact ⟨slot, rest, hrequired, hdefault, hrest, hv.symm⟩

/-- An item of an array is read as the value of the next field. -/
theorem Fields.ofItems_cons {d : Category} {kind : Kind d} {index : Nat} (j : Json)
    (items : List Json) (f : Field) (fs : List Field) :
    Fields.ofItems kind index (j :: items) (f :: fs) =
      (Slot.ofJson j f.content >>= fun slot =>
        Fields.ofItems kind (index + 1) items fs >>= fun rest => pure (.cons slot rest)) := by
  cases j <;> rfl

/-- The fields of an array are read one by one. -/
theorem Fields.ofItems_cons_eq_ok {d : Category} {kind : Kind d} {index : Nat} {j : Json}
    {items : List Json} {f : Field} {fs : List Field} {v : Fields (f :: fs)}
    (h : Fields.ofItems kind index (j :: items) (f :: fs) = .ok v) :
    ∃ slot rest, Slot.ofJson j f.content = .ok slot ∧
      Fields.ofItems kind (index + 1) items fs = .ok rest ∧ v = .cons slot rest := by
  rw [Fields.ofItems_cons] at h
  obtain ⟨slot, hslot, h⟩ := Except.bind_eq_ok_iff.mp h
  obtain ⟨rest, hrest, h⟩ := Except.bind_eq_ok_iff.mp h
  exact ⟨slot, rest, hslot, hrest, (Except.ok.inj h).symm⟩

/-! ## Nodes -/

/-- The parts of a node that is an object: its class, its fields and its place. -/
theorem Node.ofJson_obj_eq_ok_iff {inside : Bool} {members : List (String × Json)} {c : Category}
    {n : Node c} :
    Node.ofJson inside (.obj members) c = .ok n ↔
      ∃ kind fields place, Kind.ofMembers (c.takesIndex inside) c members = .ok kind ∧
        Fields.read (Slot.ofMembers members) kind.fields = .ok fields ∧
        c.readPlace members = .ok place ∧ n = .mk kind fields place := by
  rw [Node.ofJson, Except.bind_eq_ok_iff]
  constructor
  · rintro ⟨kind, hkind, h⟩
    split at h
    · cases h
    · next fields hfields =>
      obtain ⟨place, hplace, h⟩ := Except.bind_eq_ok_iff.mp h
      exact ⟨kind, fields, place, hkind, hfields, hplace, (Except.ok.inj h).symm⟩
  · rintro ⟨kind, fields, place, hkind, hfields, hplace, rfl⟩
    refine ⟨kind, hkind, ?_⟩
    simp only [hfields]
    exact Except.bind_eq_ok_iff.mpr ⟨place, hplace, rfl⟩

/-- An array that is accepted has a value for a field at each place. -/
private theorem length_le_of_checkLength {inside : Bool} {c : Category} {length fields : Nat}
    {u : Unit} (h : checkLength inside c length fields = .ok u) : length ≤ fields := by
  rw [checkLength] at h
  split at h
  · assumption
  · split at h <;> cases h

/-- The items of an array that the fields of a node are read from. The class stands before them,
unless there is no choice. -/
def Category.fieldItems (c : Category) (items : List Json) : List Json :=
  if (Kind.only? c).isSome then items else items.tail

/-- The parts of a node that is an array: its class, and its fields. Such a node has no location. -/
theorem Node.ofJson_arr_eq_ok {inside : Bool} {items : List Json} {c : Category} {n : Node c}
    (h : Node.ofJson inside (.arr items) c = .ok n) :
    ∃ kind fields, c.isLocated = false ∧
      (Kind.only? c = none →
        ∃ tag ∈ items.head?, Kind.ofTag (c.takesIndex inside) c tag = .ok kind) ∧
      Fields.ofItems kind 0 (c.fieldItems items) kind.fields = .ok fields ∧
      (c.fieldItems items).length ≤ kind.fields.length ∧
      n = .mk kind fields (c.place .unknown) := by
  rw [Node.ofJson.eq_def] at h
  simp only at h
  split at h
  · cases h
  next hlocated =>
  have hplain : c.isLocated = false := by simpa using hlocated
  cases honly : Kind.only? c with
  | some kind =>
    -- there is no choice, so the fields begin with the first item
    have hitems : c.fieldItems items = items := by simp [Category.fieldItems, honly]
    simp only [honly] at h
    obtain ⟨fields, hfields, h⟩ := Except.bind_eq_ok_iff.mp h
    obtain ⟨_, hlength, h⟩ := Except.bind_eq_ok_iff.mp h
    rw [hitems]
    refine ⟨kind, fields, hplain, fun hnone => ?_, hfields, length_le_of_checkLength hlength,
      (Except.ok.inj h).symm⟩
    cases hnone
  | none =>
    cases items with
    | nil => simp [honly] at h
    | cons tag rest =>
      -- the class stands first, and the fields follow
      have hitems : c.fieldItems (tag :: rest) = rest := by simp [Category.fieldItems, honly]
      simp only [honly] at h
      obtain ⟨kind, hkind, h⟩ := Except.bind_eq_ok_iff.mp h
      obtain ⟨fields, hfields, h⟩ := Except.bind_eq_ok_iff.mp h
      obtain ⟨_, hlength, h⟩ := Except.bind_eq_ok_iff.mp h
      rw [hitems]
      exact ⟨kind, fields, hplain, fun _ => ⟨tag, rfl, hkind⟩, hfields,
        length_le_of_checkLength hlength, (Except.ok.inj h).symm⟩

/-- A node is read from an object or an array. -/
theorem Node.ofJson_eq_ok_cases {inside : Bool} {j : Json} {c : Category} {n : Node c}
    (h : Node.ofJson inside j c = .ok n) :
    (∃ members, j = .obj members) ∨ ∃ items, j = .arr items := by
  cases j with
  | obj members => exact .inl ⟨members, rfl⟩
  | arr items => exact .inr ⟨items, rfl⟩
  | _ => cases h

/-- An item of a list that is no gap is read as a node. -/
theorem Nodes.ofItems_cons {j : Json} {c : Category} {gaps : Bool}
    (hgap : ¬ (gaps = true ∧ j = .null)) (items : List Json) :
    Nodes.ofItems (j :: items) c gaps =
      (Node.ofJson true j c >>= fun n =>
        Nodes.ofItems items c gaps >>= fun rest => pure (.cons n rest)) := by
  cases gaps
  · cases j <;> rfl
  · cases j <;> first | rfl | exact absurd ⟨rfl, rfl⟩ hgap

/-- The items of a list are read one by one; where gaps are allowed `null` is one. -/
theorem Nodes.ofItems_cons_eq_ok {j : Json} {items : List Json} {c : Category} {gaps : Bool}
    {ns : Nodes c gaps} (h : Nodes.ofItems (j :: items) c gaps = .ok ns) :
    (∃ (hgaps : gaps = true) (rest : Nodes c true), j = .null ∧
      Nodes.ofItems items c true = .ok rest ∧ ns = hgaps ▸ .gap rest) ∨
    ∃ n rest, Node.ofJson true j c = .ok n ∧ Nodes.ofItems items c gaps = .ok rest ∧
      ns = .cons n rest := by
  -- only `null` in a list with gaps is no node
  by_cases hgap : gaps = true ∧ j = .null
  · obtain ⟨rfl, rfl⟩ := hgap
    obtain ⟨rest, hrest, hns⟩ := Except.map_eq_ok_iff.mp h
    exact .inl ⟨rfl, rest, rfl, hrest, hns.symm⟩
  · rw [Nodes.ofItems_cons hgap] at h
    obtain ⟨n, hn, h⟩ := Except.bind_eq_ok_iff.mp h
    obtain ⟨rest, hrest, h⟩ := Except.bind_eq_ok_iff.mp h
    exact .inr ⟨n, rest, hn, hrest, (Except.ok.inj h).symm⟩

/-- An object among the items of a list is a node. -/
theorem Nodes.ofItems_obj_cons {members : List (String × Json)} {items : List Json} {c : Category}
    {gaps : Bool} {n : Node c} {rest : Nodes c gaps}
    (hn : Node.ofJson true (.obj members) c = .ok n)
    (hrest : Nodes.ofItems items c gaps = .ok rest) :
    Nodes.ofItems (.obj members :: items) c gaps = .ok (.cons n rest) := by
  have hgap : ¬ (gaps = true ∧ Json.obj members = .null) := by
    rintro ⟨-, h⟩
    cases h
  rw [Nodes.ofItems_cons hgap, hn, hrest]
  rfl

/-! ## Where fields come from -/

/-- The values that an array gives to a list of fields, one after the other. -/
def Fields.itemValues : List Field → List Json → List (Option Json)
  | [], _ => []
  | _ :: fs, items => items.head? :: itemValues fs items.tail

/-- The values that the fields of a node are read from, `none` where a field is left out. -/
def Json.fieldValues {c : Category} (k : Kind c) : Json → List (Option Json)
  | .obj members => k.fields.map fun f => member? members f.name
  | .arr items => Fields.itemValues k.fields (c.fieldItems items)
  | _ => []

/-- Each field is read from its value, or left out because it may be. -/
inductive Fields.ReadFrom : {fs : List Field} → List (Option Json) → Fields fs → Prop
  | nil : ReadFrom [] .nil
  | read {f : Field} {fs : List Field} {j : Json} {values : List (Option Json)}
    {slot : Slot f.content} {rest : Fields fs} (hslot : Slot.ofJson j f.content = .ok slot)
    (hrest : ReadFrom values rest) : ReadFrom (some j :: values) (.cons slot rest)
  | default {f : Field} {fs : List Field} {values : List (Option Json)} {slot : Slot f.content}
    {rest : Fields fs} (hrequired : f.required = false)
    (hslot : Slot.default? f.content = some slot) (hrest : ReadFrom values rest) :
    ReadFrom (none :: values) (.cons slot rest)

/-- The fields of an object come from its members. -/
theorem Fields.readFrom_of_read {members : List (String × Json)} {fs : List Field} {v : Fields fs}
    (h : Fields.read (Slot.ofMembers members) fs = .ok v) :
    v.ReadFrom (fs.map fun f => Json.member? members f.name) := by
  induction fs with
  | nil =>
    obtain rfl := Except.ok.inj h
    exact .nil
  | cons f fs ih =>
    obtain ⟨slot, rest, hslot, hrest, rfl⟩ := Fields.read_cons_eq_ok_iff.mp h
    rw [List.map_cons]
    rw [Field.read_eq_ok_iff, Slot.ofMembers_eq] at hslot
    -- a member that is there is read, whatever it is; only one that is not there has a default
    cases hmember : Json.member? members f.name with
    | some j =>
      rw [hmember] at hslot
      rcases hslot with hread | ⟨hnone, -, -⟩
      · exact .read (Option.some.inj hread) (ih hrest)
      · cases hnone
    | none =>
      rw [hmember] at hslot
      rcases hslot with hread | ⟨-, hrequired, hdefault⟩
      · cases hread
      · exact .default hrequired hdefault (ih hrest)

/-- The fields of an array come from its items. -/
theorem Fields.readFrom_of_ofItems {d : Category} {kind : Kind d} {fs : List Field} {index : Nat}
    {items : List Json} {v : Fields fs} (h : Fields.ofItems kind index items fs = .ok v) :
    v.ReadFrom (itemValues fs items) := by
  induction fs generalizing items index with
  | nil =>
    obtain rfl : v = .nil := by cases v; rfl
    exact .nil
  | cons f fs ih =>
    cases items with
    | nil =>
      -- the array has come to its end, and what is left of it is the end again
      obtain ⟨slot, rest, hrequired, hdefault, hrest, rfl⟩ := Fields.beyond_cons_eq_ok h
      have hend : Fields.ofItems kind (index + 1) [] fs = .ok rest := by cases fs <;> exact hrest
      exact .default hrequired hdefault (ih hend)
    | cons j items =>
      obtain ⟨slot, rest, hslot, hrest, rfl⟩ := Fields.ofItems_cons_eq_ok h
      exact .read hslot (ih hrest)

/-- A field that has to be given is read from a value. -/
theorem Fields.ReadFrom.exists_value {fs : List Field} {values : List (Option Json)} {v : Fields fs}
    (h : v.ReadFrom values) : ∀ f ∈ fs, f.required →
      ∃ j slot, some j ∈ values ∧ Slot.ofJson j f.content = .ok slot := by
  induction h with
  | nil => exact List.forall_mem_nil _
  | @read f fs j values slot rest hslot hrest ih =>
    intro g hg hrequired
    rcases List.mem_cons.mp hg with rfl | hg
    · exact ⟨j, slot, List.mem_cons_self, hslot⟩
    · obtain ⟨j', slot', hmem, hread⟩ := ih g hg hrequired
      exact ⟨j', slot', List.mem_cons_of_mem _ hmem, hread⟩
  | @default f fs values slot rest hnot hslot hrest ih =>
    intro g hg hrequired
    rcases List.mem_cons.mp hg with rfl | hg
    · rw [hnot] at hrequired
      cases hrequired
    · obtain ⟨j', slot', hmem, hread⟩ := ih g hg hrequired
      exact ⟨j', slot', List.mem_cons_of_mem _ hmem, hread⟩

private theorem Fields.mem_of_mem_itemValues {fs : List Field} {items : List Json} {value : Json}
    (h : some value ∈ itemValues fs items) : value ∈ items := by
  induction fs generalizing items with
  | nil => cases h
  | cons f fs ih =>
    rcases List.mem_cons.mp h with hhead | htail
    · exact List.mem_of_head? hhead.symm
    · exact List.mem_of_mem_tail (ih htail)

/-- The values of fields are parts of the value of the node. -/
theorem Json.mem_parts_of_mem_fieldValues {c : Category} {k : Kind c} {j value : Json}
    (h : some value ∈ j.fieldValues k) : value ∈ j.parts := by
  cases j with
  | obj members =>
    obtain ⟨f, -, hmember⟩ := List.mem_map.mp h
    exact mem_parts_of_member? hmember
  | arr items =>
    have hmem := Fields.mem_of_mem_itemValues h
    rw [Category.fieldItems] at hmem
    split at hmem
    · exact hmem
    · exact List.mem_of_mem_tail hmem
  | _ => cases h

/-- The fields of a node come from the values for them. -/
theorem Node.readFrom_of_ofJson {inside : Bool} {j : Json} {c : Category} {n : Node c}
    (h : Node.ofJson inside j c = .ok n) : n.fields.ReadFrom (j.fieldValues n.kind) := by
  rcases Node.ofJson_eq_ok_cases h with ⟨members, rfl⟩ | ⟨items, rfl⟩
  · obtain ⟨kind, fields, place, -, hfields, -, rfl⟩ := Node.ofJson_obj_eq_ok_iff.mp h
    exact Fields.readFrom_of_read hfields
  · obtain ⟨kind, fields, -, -, hfields, -, rfl⟩ := Node.ofJson_arr_eq_ok h
    exact Fields.readFrom_of_ofItems hfields

end SyntaxDump
