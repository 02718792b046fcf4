import SyntaxDump.Proofs.Document.Encode
import SyntaxDump.Proofs.Document.Loading

/-!
# How deep documents nest

The document that is written of a tree spells out what the document that the tree was read from may
have left out: contexts of expressions, lists without items, the parameter list of a function. So it
may nest more deeply than the other, but by one level at most.

## Main statements

- `Slot.within_of_ofJson`: what is read in a field is written with at most one more level, by
  induction on the parts of the value;
- `Tree.nesting_le_of_ofJson`: so is a whole tree.
-/

namespace SyntaxDump

/-! ## Bounds -/

/-- What a field is written as nests at most this deep. -/
def Slot.Within (d : Nat) {k : Content} (slot : Slot k) : Prop :=
  ∀ j, slot.toJson? = .ok (some j) → j.nesting ≤ d

/-- What a list of fields is written as nests at most this deep. -/
def Fields.Within (d : Nat) {fs : List Field} (v : Fields fs) : Prop :=
  ∀ members, v.members = .ok members → ∀ m ∈ members, m.2.nesting ≤ d

theorem Fields.Within.nil {d : Nat} : Fields.nil.Within d := by
  intro members h
  obtain rfl := Except.ok.inj h
  exact List.forall_mem_nil _

theorem Fields.Within.cons {d : Nat} {f : Field} {fs : List Field} {slot : Slot f.content}
    {rest : Fields fs} (hslot : slot.Within d) (hrest : rest.Within d) :
    (Fields.cons slot rest).Within d := by
  intro members h
  obtain ⟨value, others, hvalue, hothers, rfl⟩ := Fields.members_cons_eq_ok_iff.mp h
  cases value with
  | none => exact hrest others hothers
  | some j => exact List.forall_mem_cons.mpr ⟨hslot j hvalue, hrest others hothers⟩

/-- A node encloses its fields; its class and its place add no depth. -/
theorem Node.nesting_le {d : Nat} {c : Category} {kind : Kind c} {fields : Fields kind.fields}
    {place : c.Place} {j : Json} (hfields : fields.Within d)
    (h : (Node.mk kind fields place).toJson = .ok j) : j.nesting ≤ d + 1 := by
  obtain ⟨members, hmembers, rfl⟩ := Node.toJson_mk_eq_ok_iff.mp h
  refine Json.nesting_le_of_parts (List.forall_mem_map.mpr fun m hm => ?_)
  rcases List.mem_append.mp hm with hm | hplace
  · rcases List.mem_append.mp hm with htag | hfield
    · rw [Kind.tagMembers_eq] at htag
      split at htag
      · obtain rfl := List.mem_singleton.mp htag
        exact Nat.zero_le _
      · cases htag
    · exact hfields members hmembers m hfield
  · rw [Category.placeMembers_eq] at hplace
    split at hplace
    · cases hplace
    · rw [Location.members_eq] at hplace
      obtain ⟨a, -, rfl⟩ := List.mem_map.mp hplace
      exact Nat.zero_le _

/-- A scalar is written as a word, or as a list of words. -/
theorem Slot.within_scalar {s : Scalar} (v : s.Value) : (Slot.scalar v).Within 1 := by
  have hitems {items : List Json} (h : ∀ j ∈ items, j.nesting = 0) : (Json.arr items).nesting ≤ 1 :=
    Json.nesting_le_of_parts fun j hj => Nat.le_of_eq (h j hj)
  have htext (v : Option String) : ∀ j ∈ v.map Json.str, j.nesting ≤ 1 := by
    intro j hj
    obtain ⟨s, -, rfl⟩ := Option.map_eq_some_iff.mp hj
    exact Nat.zero_le 1
  intro j h
  -- lists of names and bytes are arrays; whatever else there is encloses nothing
  cases s with
  | identifiers =>
    cases h
    exact hitems (List.forall_mem_map.mpr fun _ _ => rfl)
  | constant =>
    obtain ⟨j', hj', heq⟩ := Except.map_eq_ok_iff.mp h
    obtain rfl := Option.some.inj heq
    cases v with
    | int n =>
      rw [Constant.toJson] at hj'
      split at hj'
      · cases hj'
        exact Nat.zero_le 1
      · cases hj'
    | float x =>
      obtain rfl := Except.ok.inj hj'
      split <;> exact Nat.zero_le 1
    | bytes bs =>
      cases hj'
      exact hitems (List.forall_mem_map.mpr fun _ _ => rfl)
    | _ =>
      cases hj'
      exact Nat.zero_le 1
  | optionalIdentifier | optionalDottedName | optionalText => exact htext v j (Except.ok.inj h)
  | _ =>
    cases h
    exact Nat.zero_le 1

theorem Slot.Within.mono {d d' : Nat} {k : Content} {slot : Slot k} (h : slot.Within d)
    (hle : d ≤ d') : slot.Within d' := fun j hj => Nat.le_trans (h j hj) hle

/-! ## Defaults -/

/-- The default of a field nests one level deep, that of a parameter list two. -/
theorem Slot.within_of_default? {d : Nat} (hd : 1 ≤ d) {k : Content}
    (harguments : k = .node .arguments → 2 ≤ d) {slot : Slot k} (h : Slot.default? k = some slot) :
    slot.Within d := by
  have hload : (Slot.node Node.load).Within 1 := by
    intro j hj
    cases hj
    decide
  have hlist {c : Category} {gaps : Bool} : (Slot.list (.nil : Nodes c gaps)).Within 1 := by
    intro j hj
    cases hj
    decide
  have hnoArguments : (Slot.node Node.noArguments).Within 2 := by
    intro j hj
    cases hj
    decide
  cases slot with
  | @node c n =>
    -- of the nodes only a context and a parameter list may be left out
    cases c
    case context =>
      cases h
      exact hload.mono hd
    case arguments =>
      cases h
      exact hnoArguments.mono (harguments rfl)
    all_goals cases h
  | absent =>
    intro j hj
    cases hj
  | present n => cases h
  | list ns =>
    cases h
    exact hlist.mono hd
  | scalar v => exact (Slot.within_scalar v).mono hd

/-! ## Fields -/

/-- Whatever field is read from the value is written with at most this many levels. -/
def Json.WritesWithin (d : Nat) (j : Json) : Prop :=
  ∀ {k : Content} {slot : Slot k}, Slot.ofJson j k = .ok slot → slot.Within d

/-- Fields that are read from such values or take their defaults. -/
theorem Fields.within_of_readFrom {d : Nat} (hd : 1 ≤ d) {fs : List Field}
    {values : List (Option Json)} {v : Fields fs} (h : v.ReadFrom values)
    (hvalues : ∀ j, some j ∈ values → j.WritesWithin d)
    (harguments : ∀ f ∈ fs, f.content = .node .arguments → 2 ≤ d) : v.Within d := by
  induction h with
  | nil => exact .nil
  | read hslot _ ih =>
    exact .cons (hvalues _ List.mem_cons_self hslot)
      (ih (fun j hj => hvalues j (List.mem_cons_of_mem _ hj))
        (List.forall_mem_cons.mp harguments).2)
  | default _ hslot _ ih =>
    obtain ⟨hf, hfs⟩ := List.forall_mem_cons.mp harguments
    exact .cons (Slot.within_of_default? hd hf hslot)
      (ih (fun j hj => hvalues j (List.mem_cons_of_mem _ hj)) hfs)

/-- A node in a field is written like the field. -/
private theorem Slot.Within.nesting_le {d : Nat} {c : Category} {n : Node c} {j : Json}
    (h : (Slot.node n).Within d) (hwrite : n.toJson = .ok j) : j.nesting ≤ d := by
  refine h j ?_
  rw [Slot.toJson?, hwrite]
  rfl

/-- The nodes of a list. -/
theorem Nodes.nesting_le_of_ofItems {d : Nat} {c : Category} {gaps : Bool} {items : List Json}
    {ns : Nodes c gaps} (hitems : ∀ j ∈ items, j.WritesWithin d)
    (h : Nodes.ofItems items c gaps = .ok ns) {written : List Json}
    (hwritten : ns.items = .ok written) : ∀ j ∈ written, j.nesting ≤ d := by
  induction items generalizing ns written with
  | nil =>
    rw [Nodes.ofItems] at h
    obtain rfl := Except.ok.inj h
    obtain rfl := Except.ok.inj hwritten
    exact List.forall_mem_nil _
  | cons j items ih =>
    obtain ⟨hj, hrest⟩ := List.forall_mem_cons.mp hitems
    rcases Nodes.ofItems_cons_eq_ok h with ⟨hgaps, rest, -, hread, hns⟩ | ⟨n, rest, hn, hread, rfl⟩
    · subst hgaps hns
      obtain ⟨others, hothers, h⟩ := Except.bind_eq_ok_iff.mp hwritten
      obtain rfl := Except.ok.inj h
      exact List.forall_mem_cons.mpr ⟨Nat.zero_le d, ih hrest hread hothers⟩
    · obtain ⟨j', hj', h⟩ := Except.bind_eq_ok_iff.mp hwritten
      obtain ⟨others, hothers, h⟩ := Except.bind_eq_ok_iff.mp h
      obtain rfl := Except.ok.inj h
      -- an item is read like a field that holds a node
      have hnode : (Slot.node n).Within d := hj (by rw [Slot.ofJson_node, hn]; rfl)
      exact List.forall_mem_cons.mpr ⟨hnode.nesting_le hj', ih hrest hread hothers⟩

/-! ## Nodes -/

/-- A class with a parameter list has a body that documents have to give. -/
theorem Kind.body_mem_of_arguments {c : Category} (k : Kind c) :
    ∀ f ∈ k.fields, f.content = .node .arguments →
      .must "body" (.list .stmt false) ∈ k.fields := by
  cases k <;> decide +kernel

/-- A node is written with at most one level more than the value has that it was read from, if what
is read from the parts of the value is written with no more levels than the value has. -/
theorem Node.nesting_le_of_parts {inside : Bool} {j j' : Json} {c : Category} {n : Node c}
    (hparts : ∀ part ∈ j.parts, part.WritesWithin j.nesting)
    (h : Node.ofJson inside j c = .ok n) (hwrite : n.toJson = .ok j') :
    j'.nesting ≤ j.nesting + 1 := by
  have hfields := Node.readFrom_of_ofJson h
  have hone : 1 ≤ j.nesting := by
    rcases Node.ofJson_eq_ok_cases h with ⟨members, rfl⟩ | ⟨items, rfl⟩
    · exact Nat.le_add_left 1 _
    · exact Nat.le_add_left 1 _
  -- next to a parameter list there is an array for the body, so its default is not too deep
  have harguments : ∀ f ∈ n.kind.fields, f.content = .node .arguments → 2 ≤ j.nesting := by
    intro f hf hcontent
    have hbody := n.kind.body_mem_of_arguments f hf hcontent
    obtain ⟨value, slot, hvalue, hread⟩ := hfields.exists_value _ hbody rfl
    obtain ⟨items, ns, rfl, -, -⟩ := Slot.ofJson_list_eq_ok hread
    have hlt := Json.nesting_lt_of_mem_parts (Json.mem_parts_of_mem_fieldValues hvalue)
    rw [Json.nesting] at hlt
    omega
  have hwithin := Fields.within_of_readFrom hone hfields
    (fun part hpart => hparts part (Json.mem_parts_of_mem_fieldValues hpart)) harguments
  cases n
  exact Node.nesting_le hwithin hwrite

/-- What is read in a field is written with at most one level more than the value of the field
has. -/
theorem Slot.within_of_ofJson (j : Json) : j.WritesWithin (j.nesting + 1) := by
  induction j using Json.induction_on_parts with
  | step j ih =>
    -- a part is less deep than the value, so with the level it may gain it is no deeper
    have hparts : ∀ part ∈ j.parts, part.WritesWithin j.nesting := fun part hpart k slot h =>
      (ih part hpart h).mono (Json.nesting_lt_of_mem_parts hpart)
    intro k slot h j' hwrite
    cases k with
    | node c =>
      rw [Slot.ofJson_node] at h
      obtain ⟨n, hn, rfl⟩ := Except.map_eq_ok_iff.mp h
      obtain ⟨written, hwritten, heq⟩ := Except.map_eq_ok_iff.mp hwrite
      obtain rfl := Option.some.inj heq
      exact Node.nesting_le_of_parts hparts hn hwritten
    | optional c =>
      rcases Slot.ofJson_optional_eq_ok h with ⟨-, rfl⟩ | ⟨n, hn, rfl⟩
      · cases hwrite
      · obtain ⟨written, hwritten, heq⟩ := Except.map_eq_ok_iff.mp hwrite
        obtain rfl := Option.some.inj heq
        exact Node.nesting_le_of_parts hparts hn hwritten
    | list c gaps =>
      -- the items are parts of the value like the members of a node
      obtain ⟨items, ns, rfl, hns, rfl⟩ := Slot.ofJson_list_eq_ok h
      obtain ⟨written, hwritten, heq⟩ := Except.map_eq_ok_iff.mp hwrite
      obtain rfl := Option.some.inj heq
      exact Json.nesting_le_of_parts (Nodes.nesting_le_of_ofItems hparts hns hwritten)
    | scalar s =>
      rw [Slot.ofJson_scalar] at h
      obtain ⟨v, -, rfl⟩ := Except.map_eq_ok_iff.mp h
      exact (Slot.within_scalar v).mono (Nat.le_add_left 1 _) j' hwrite

/-! ## Trees -/

/-- A node at the top is written with at most one more level. -/
theorem Root.nesting_le_of_ofJson {j j' : Json} {r : Root} (h : Root.ofJson j = .ok r)
    (hwrite : r.toJson = .ok j') : j'.nesting ≤ j.nesting + 1 := by
  have hparts : ∀ part ∈ j.parts, part.WritesWithin j.nesting := fun part hpart k slot h =>
    (Slot.within_of_ofJson part h).mono (Json.nesting_lt_of_mem_parts hpart)
  have hnode : r.toNode.2.toJson = .ok j' := by cases r <;> exact hwrite
  exact Node.nesting_le_of_parts hparts (Root.ofJson_eq_ok h) hnode

/-- The document that is written of a tree nests at most one level deeper than the one that the tree
was read from. -/
theorem Tree.nesting_le_of_ofJson {v j : Json} {t : Tree Root} (h : Tree.ofJson v = .ok t)
    (hwrite : t.toJson = .ok j) : j.nesting ≤ v.nesting + 1 := by
  cases v with
  | obj members =>
    obtain ⟨r, hread, rfl⟩ := Except.map_eq_ok_iff.mp h
    exact Root.nesting_le_of_ofJson (Except.mapError_eq_ok_iff.mp hread) hwrite
  | arr items =>
    obtain ⟨rs, hread, rfl⟩ := Except.map_eq_ok_iff.mp h
    obtain ⟨written, hwritten, rfl⟩ := Except.map_eq_ok_iff.mp hwrite
    refine Json.nesting_le_of_parts fun j hj => ?_
    -- each node of the sequence was read from an item and is written by itself
    obtain ⟨r, hr, hrwrite⟩ := exists_of_mem_mapM hwritten hj
    obtain ⟨item, hitem, hrread⟩ := Root.exists_of_mem_ofItems hread r hr
    have hle := Root.nesting_le_of_ofJson hrread hrwrite
    have hlt := Json.nesting_lt_of_mem_parts (j := .arr items) hitem
    omega
  | _ => cases h

end SyntaxDump
