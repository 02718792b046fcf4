import SyntaxDump.Document.Encode
import SyntaxDump.Inspect
import SyntaxDump.Proofs.Grammar
import SyntaxDump.Proofs.Json.Members
import SyntaxDump.Proofs.Location
import SyntaxDump.Proofs.Result

/-!
# What the document of a node holds

The document of a node is an object: the class tag, the fields that are not absent and the known
parts of the location. The keys of these members are distinct, so each member is found by its key
wherever it stands.

## Main statements

- `Node.toJson_mk_eq_ok_iff` and `Fields.members_cons_eq_ok_iff`: the members of a node, and what
  the fields contribute one by one;
- `Node.keys_nodup`: the keys of the document of a node are distinct;
- `Node.member?_type`, `Node.member?_field`, `Node.member?_part`: where each member is found.
-/

namespace SyntaxDump

open Json (member? keys)

/-! ## The members of a node -/

/-- The member that names a class has the name that the class has in dumps. -/
theorem Kind.tagMembers_eq {c : Category} (k : Kind c) :
    k.tagMembers = if (only? c).isNone then [("_type", .str k.className)] else [] := by
  rw [tagMembers, tag?_eq]
  by_cases h : (only? c).isNone <;> simp [h]

/-- The known parts of a location are written as they are shown. -/
theorem Location.members_eq (l : Location) :
    l.members = l.attributes.map fun (name, n) => (name, .int n.toNat) := by
  rw [members, attributes, List.map_filterMap]
  refine List.filterMap_congr ?_
  rintro ⟨name, part⟩ -
  cases part <;> rfl

/-- The nodes that are written with a location are those that have one. -/
theorem Category.placeMembers_eq (c : Category) (place : c.Place) :
    c.placeMembers place = match c.location? place with
      | none => []
      | some l => l.members := by
  cases c <;> rfl

/-- The document of a node is made of the members of its fields. -/
theorem Node.toJson_mk_eq_ok_iff {c : Category} {k : Kind c} {fs : Fields k.fields}
    {place : c.Place} {j : Json} :
    (Node.mk k fs place).toJson = .ok j ↔
      ∃ members, fs.members = .ok members ∧
        j = .obj (k.tagMembers ++ members ++ c.placeMembers place) := by
  rw [Node.toJson, Except.bind_eq_ok_iff]
  constructor
  · rintro ⟨members, hmembers, h⟩
    exact ⟨members, hmembers, (Except.ok.inj h).symm⟩
  · rintro ⟨members, hmembers, rfl⟩
    exact ⟨members, hmembers, rfl⟩

/-- Each field contributes a member unless it is absent. -/
theorem Fields.members_cons_eq_ok_iff {f : Field} {fs : List Field} {slot : Slot f.content}
    {rest : Fields fs} {members : List (String × Json)} :
    (Fields.cons slot rest).members = .ok members ↔
      ∃ value others, slot.toJson? = .ok value ∧ rest.members = .ok others ∧
        members = (value.map (f.name, ·)).toList ++ others := by
  rw [Fields.members, Except.bind_eq_ok_iff]
  constructor
  · rintro ⟨value, hvalue, h⟩
    obtain ⟨others, hothers, h⟩ := Except.bind_eq_ok_iff.mp h
    refine ⟨value, others, hvalue, hothers, ?_⟩
    cases value <;> exact (Except.ok.inj h).symm
  · rintro ⟨value, others, hvalue, hothers, rfl⟩
    refine ⟨value, hvalue, Except.bind_eq_ok_iff.mpr ⟨others, hothers, ?_⟩⟩
    cases value <;> rfl

/-- A node at the top of a tree has the document that it has as a node. -/
theorem Root.toJson_eq (r : Root) : r.toJson = r.toNode.2.toJson := by
  cases r <;> rfl

/-! ## Keys -/

/-- The member that names the class of a node has the key of class names. -/
theorem Kind.keys_tagMembers {c : Category} (k : Kind c) :
    (keys k.tagMembers).Sublist ["_type"] := by
  rw [Kind.tagMembers_eq]
  split
  · exact List.Sublist.refl _
  · exact List.nil_sublist _

/-- The members for the fields of a node have the names of the fields, in their order. -/
theorem Fields.keys_members : {fs : List Field} → (v : Fields fs) →
    {members : List (String × Json)} → v.members = .ok members →
    (keys members).Sublist (fs.map Field.name)
  | [], .nil, _, h => by
    obtain rfl := Except.ok.inj h
    exact List.Sublist.refl _
  | f :: fs, .cons slot rest, _, h => by
    obtain ⟨value, others, -, hothers, rfl⟩ := Fields.members_cons_eq_ok_iff.mp h
    have hrest := Fields.keys_members rest hothers
    cases value with
    | none => exact hrest.cons _
    | some j => exact hrest.cons_cons _

/-- The members of a location are the parts that are listed of it. -/
theorem Location.member?_members (l : Location) (key : String) :
    member? l.members key = (l.attributes.lookup key).map fun n => .int n.toNat := by
  rw [Location.members_eq]
  induction l.attributes with
  | nil => rfl
  | cons a rest ih =>
    rw [List.map_cons, Json.member?_cons, ih, List.lookup_cons]
    by_cases h : a.1 = key
    · simp [h]
    · have hne : (key == a.1) = false := by simpa using Ne.symm h
      rw [if_neg h, hne]

/-- The members of a place have the names of the parts of a location, in their order. -/
theorem Category.keys_placeMembers (c : Category) (place : c.Place) :
    (keys (c.placeMembers place)).Sublist Location.partNames := by
  rw [Category.placeMembers_eq]
  split
  · exact List.nil_sublist _
  · next l _ =>
    have hkeys : keys l.members = l.attributes.map Prod.fst := by
      rw [keys, Location.members_eq, List.map_map]
      rfl
    exact hkeys ▸ l.names_attributes_sublist

/-! ## Lookups -/

section Lookups

variable {c : Category} {k : Kind c} {fs : Fields k.fields} {members : List (String × Json)}
  (hmembers : fs.members = .ok members) (place : c.Place)

include hmembers

/-- The keys of the document of a node are distinct. -/
theorem Node.keys_nodup : (keys (k.tagMembers ++ members ++ c.placeMembers place)).Nodup := by
  -- absent fields only thin out the names that the grammar keeps distinct
  refine k.memberNames_nodup.sublist ?_
  rw [Json.keys_append, Json.keys_append]
  have hfields : (keys members).Sublist (k.fields.map Field.name ++ k.emptyFields) :=
    (fs.keys_members hmembers).trans (List.sublist_append_left _ _)
  exact (k.keys_tagMembers.append hfields).append (c.keys_placeMembers place)

/-- The class tag of a node stands before its fields. -/
theorem Node.member?_type :
    member? (k.tagMembers ++ members ++ c.placeMembers place) "_type" =
      member? k.tagMembers "_type" := by
  rw [Json.member?_append_of_not_mem_right, Json.member?_append_of_not_mem_right]
  · exact fun h => k.type_not_mem_fieldNames ((fs.keys_members hmembers).mem h)
  · exact fun h => absurd ((c.keys_placeMembers place).mem h) (by decide)

omit hmembers in
/-- A field is found among the members for fields. -/
theorem Node.member?_field {f : Field} (hf : f ∈ k.fields) :
    member? (k.tagMembers ++ members ++ c.placeMembers place) f.name = member? members f.name := by
  have hname : f.name ∈ k.fields.map Field.name := List.mem_map_of_mem hf
  rw [Json.member?_append_of_not_mem_right, Json.member?_append_of_not_mem]
  · intro h
    have htype := List.mem_singleton.mp (k.keys_tagMembers.mem h)
    exact k.type_not_mem_fieldNames (htype ▸ hname)
  · exact fun h => k.not_mem_partNames hname ((c.keys_placeMembers place).mem h)

/-- The parts of a location stand after the fields. -/
theorem Node.member?_part {key : String} (hkey : key ∈ Location.partNames) :
    member? (k.tagMembers ++ members ++ c.placeMembers place) key =
      member? (c.placeMembers place) key := by
  rw [Json.member?_append_of_not_mem]
  rw [Json.keys_append, List.mem_append]
  rintro (h | h)
  · have htype := List.mem_singleton.mp (k.keys_tagMembers.mem h)
    exact absurd (htype ▸ hkey) (by decide)
  · exact k.not_mem_partNames ((fs.keys_members hmembers).mem h) hkey

end Lookups

end SyntaxDump
