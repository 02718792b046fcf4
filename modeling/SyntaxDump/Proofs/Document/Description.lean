import Mathlib.Data.List.Forall2
import SyntaxDump.Build
import SyntaxDump.Proofs.Document.Encode
import SyntaxDump.Proofs.Subtrees

/-!
# Documents describe nodes by their fields

What a node shows of itself when it is asked for its fields (`AnyNode.fields`) and what its document
holds are two descriptions of one node. They have the same fields in the same order. This is said of
all nodes of a tree at once: the objects in the document, each before those inside it, are those of
the nodes in preorder.

## Main statements

- `AnyNode.writtenAs_of_toJson`: the object of a node against the fields of the node;
- `Tree.objects_describe_subtrees`: the objects in a document, one for each node of the tree.
-/

namespace SyntaxDump

open Json (keys member?)

namespace Json

mutual

/-- The members of all objects in a value, those of an object before those of the objects inside
it. -/
def objects : Json → List (List (String × Json))
  | .arr items => objectsOfItems items
  | .obj members => members :: objectsOfMembers members
  | _ => []

/-- The members of all objects in the items of an array. -/
def objectsOfItems : List Json → List (List (String × Json))
  | [] => []
  | j :: rest => objects j ++ objectsOfItems rest

/-- The members of all objects in the values of members. -/
def objectsOfMembers : List (String × Json) → List (List (String × Json))
  | [] => []
  | (_, j) :: rest => objects j ++ objectsOfMembers rest

end

private theorem objectsOfMembers_append (front back : List (String × Json)) :
    objectsOfMembers (front ++ back) = objectsOfMembers front ++ objectsOfMembers back := by
  induction front with
  | nil => rfl
  | cons m rest ih => rw [List.cons_append, objectsOfMembers, objectsOfMembers, ih,
      List.append_assoc]

/-- There are no objects among values that are none and have none inside. -/
private theorem objectsOfItems_map_eq_nil {α : Type} {f : α → Json} (h : ∀ a, (f a).objects = [])
    (as : List α) : objectsOfItems (as.map f) = [] := by
  induction as with
  | nil => rfl
  | cons a rest ih => rw [List.map_cons, objectsOfItems, h, ih, List.append_nil]

private theorem objectsOfMembers_map_eq_nil {α : Type} {name : α → String} {f : α → Json}
    (h : ∀ a, (f a).objects = []) (as : List α) :
    objectsOfMembers (as.map fun a => (name a, f a)) = [] := by
  induction as with
  | nil => rfl
  | cons a rest ih => rw [List.map_cons, objectsOfMembers, h, ih, List.append_nil]

end Json

/-! ## The fields that documents have -/

/-- Whether there is nothing in a field. -/
def FieldView.isAbsent : FieldView → Bool
  | .absent => true
  | _ => false

/-- An item of an array stands for an item of a list: `null` for what is missing and nothing else,
an object for a node. -/
structure FieldView.ItemWrittenAs (item : FieldView) (j : Json) : Prop where
  null_iff : j = .null ↔ item = .absent
  node : ∀ className, item = .node className → ∃ members, j = .obj members

/-- A value stands for what a field shows: an object for a node, an array with as many items for a
list. -/
def FieldView.WrittenAs : FieldView → Json → Prop
  | .node _, j => ∃ members, j = .obj members
  | .list items, j => ∃ js, j = .arr js ∧ List.Forall₂ FieldView.ItemWrittenAs items js
  | .scalar _, _ => True
  | .absent, _ => False

/-- The categories whose nodes are written without the name of their class. -/
def Category.untagged : List Category := [.arguments, .arg, .keyword, .alias]

namespace AnyNode

/-- The fields that the document of a node has: all that are there, the type comments of a module
aside. -/
def writtenFields (n : AnyNode) : List (String × FieldView) :=
  n.fields.filter fun (name, view) =>
    !view.isAbsent && !(n.className == "Module" && name == "type_ignores")

/-- The members make up the document of the node and are what the node shows: the name of its
class, its fields and the known parts of its location. -/
structure WrittenAs (n : AnyNode) (members : List (String × Json)) : Prop where
  document : n.2.toJson = .ok (.obj members)
  keys : keys members =
    (if n.1 ∈ Category.untagged then [] else ["_type"]) ++ n.writtenFields.map Prod.fst ++
      n.2.attributes.map Prod.fst
  tag : n.1 ∉ Category.untagged → member? members "_type" = some (.str n.className)
  values : ∀ e ∈ n.writtenFields, ∃ j, member? members e.1 = some j ∧ e.2.WrittenAs j

end AnyNode

/-- The fields that are always empty are the type comments of modules. -/
private theorem Kind.mem_emptyFields_iff {c : Category} (k : Kind c) (name : String) :
    name ∈ k.emptyFields ↔ k.className = "Module" ∧ name = "type_ignores" := by
  have hlist : k.emptyFields = if k.className = "Module" then ["type_ignores"] else [] := by
    cases k <;> decide +kernel
  rw [hlist]
  split <;> simp [*]

/-- Documents name the class of a node except in the categories that have a single class. -/
private theorem Category.isNone_only?_iff (c : Category) :
    (Kind.only? c).isNone ↔ c ∉ Category.untagged := by
  cases c <;> decide

/-- The fields that the document of a node has are those that can be filled and are. -/
theorem AnyNode.writtenFields_eq (n : AnyNode) :
    n.writtenFields = n.2.fields.views.filter fun (_, view) => !view.isAbsent := by
  have hempty := Kind.mem_emptyFields_iff n.2.kind
  have hnodup := (List.nodup_append.mp (List.nodup_cons.mp n.2.kind.memberNames_nodup).2).1
  have hnames := n.2.fields.map_fst_views
  rw [writtenFields, fields_eq, List.filter_append]
  -- those that are always empty are left out, and no other field has their names
  have hlast : ((n.2.kind.emptyFields.map fun name => (name, FieldView.list [])).filter
      fun (name, view) =>
        !view.isAbsent && !(n.className == "Module" && name == "type_ignores")) = [] := by
    rw [List.filter_eq_nil_iff, List.forall_mem_map]
    intro name hname
    simpa [FieldView.isAbsent, AnyNode.className, Node.className] using (hempty name).mp hname
  rw [hlast, List.append_nil]
  refine List.filter_congr fun e he => ?_
  have hother : ¬ (n.className = "Module" ∧ e.1 = "type_ignores") := fun h =>
    (List.nodup_append.mp hnodup).2.2 e.1 (hnames ▸ List.mem_map_of_mem he) e.1
      ((hempty e.1).mpr h) rfl
  have hfalse : (n.className == "Module" && e.1 == "type_ignores") = false := by
    simpa using hother
  simp [hfalse]

/-! ## Fields and members -/

/-- A scalar shows nothing exactly when it is not written, and lists of names show their names. -/
private theorem Scalar.view_of_toJson? {s : Scalar} {v : s.Value} {value : Option Json}
    (h : s.toJson? v = .ok value) :
    ((s.view v).isAbsent ↔ value = none) ∧ ∀ j ∈ value, (s.view v).WrittenAs j := by
  cases s with
  | identifiers =>
    obtain rfl := Except.ok.inj h
    refine ⟨by simp [Scalar.view, FieldView.isAbsent], fun j hj => ?_⟩
    obtain rfl := Option.some.inj hj
    refine ⟨_, rfl, ?_⟩
    rw [List.forall₂_map_left_iff, List.forall₂_map_right_iff, List.forall₂_same]
    exact fun text _ => ⟨by simp, nofun⟩
  | identifier | dottedName | level | conversion =>
    obtain rfl := Except.ok.inj h
    exact ⟨by simp [Scalar.view, FieldView.isAbsent], fun _ _ => trivial⟩
  | constant =>
    obtain ⟨j, -, rfl⟩ := Except.map_eq_ok_iff.mp h
    exact ⟨by simp [Scalar.view, FieldView.isAbsent], fun _ _ => trivial⟩
  | optionalIdentifier | optionalDottedName | optionalText =>
    obtain rfl := Except.ok.inj h
    cases v with
    | none => exact ⟨by simp [Scalar.view, FieldView.ofText?, FieldView.isAbsent], nofun⟩
    | some text =>
      exact ⟨by simp [Scalar.view, FieldView.ofText?, FieldView.isAbsent], fun _ _ => trivial⟩

/-- A node is written as an object. -/
theorem Node.exists_members_of_toJson {c : Category} {n : Node c} {j : Json}
    (h : n.toJson = .ok j) : ∃ members, j = .obj members := by
  cases n with
  | mk k fs place =>
    obtain ⟨members, -, rfl⟩ := Node.toJson_mk_eq_ok_iff.mp h
    exact ⟨_, rfl⟩

/-- An item of a list is written as an object, and a missing one as `null`. -/
private theorem Nodes.itemWrittenAs_views : {c : Category} → {gaps : Bool} → (ns : Nodes c gaps) →
    {items : List Json} → ns.items = .ok items →
    List.Forall₂ FieldView.ItemWrittenAs ns.views items
  | _, _, .nil, _, h => by
    obtain rfl := Except.ok.inj h
    exact .nil
  | _, _, .cons n rest, _, h => by
    obtain ⟨j, hj, h⟩ := Except.bind_eq_ok_iff.mp h
    obtain ⟨items, hitems, h⟩ := Except.bind_eq_ok_iff.mp h
    obtain rfl := Except.ok.inj h
    obtain ⟨members, rfl⟩ := Node.exists_members_of_toJson hj
    exact .cons ⟨by simp, fun _ _ => ⟨members, rfl⟩⟩ (Nodes.itemWrittenAs_views rest hitems)
  | _, _, .gap rest, _, h => by
    obtain ⟨items, hitems, h⟩ := Except.bind_eq_ok_iff.mp h
    obtain rfl := Except.ok.inj h
    exact .cons ⟨by simp, nofun⟩ (Nodes.itemWrittenAs_views rest hitems)

/-- A field shows nothing exactly when it is not written, and its value stands for what it shows. -/
private theorem Slot.view_of_toJson? {k : Content} {slot : Slot k} {value : Option Json}
    (h : slot.toJson? = .ok value) :
    (slot.view.isAbsent ↔ value = none) ∧ ∀ j ∈ value, slot.view.WrittenAs j := by
  cases slot with
  | node n | present n =>
    obtain ⟨j, hj, rfl⟩ := Except.map_eq_ok_iff.mp h
    refine ⟨by simp [Slot.view, FieldView.isAbsent], fun j' hj' => ?_⟩
    exact Option.some.inj hj' ▸ Node.exists_members_of_toJson hj
  | absent =>
    obtain rfl := Except.ok.inj h
    exact ⟨by simp [Slot.view, FieldView.isAbsent], fun j hj => absurd hj (Option.not_mem_none j)⟩
  | list ns =>
    obtain ⟨items, hitems, rfl⟩ := Except.map_eq_ok_iff.mp h
    refine ⟨by simp [Slot.view, FieldView.isAbsent], fun j hj => ?_⟩
    exact ⟨items, (Option.some.inj hj).symm, ns.itemWrittenAs_views hitems⟩
  | scalar v => exact Scalar.view_of_toJson? h

/-- The members for fields are those of the fields that are there, one for each and in their
order. -/
private theorem Fields.forall₂_views_members : {fs : List Field} → (v : Fields fs) →
    {members : List (String × Json)} → v.members = .ok members →
    List.Forall₂ (fun e m => e.1 = m.1 ∧ e.2.WrittenAs m.2)
      (v.views.filter fun (_, view) => !view.isAbsent) members
  | _, .nil, _, h => by
    obtain rfl := Except.ok.inj h
    exact .nil
  | f :: _, .cons slot rest, _, h => by
    obtain ⟨value, others, hvalue, hothers, rfl⟩ := Fields.members_cons_eq_ok_iff.mp h
    obtain ⟨habsent, hwritten⟩ := Slot.view_of_toJson? hvalue
    have hrest := Fields.forall₂_views_members rest hothers
    rw [Fields.views]
    cases value with
    | none =>
      rw [List.filter_cons_of_neg (by simp [habsent])]
      exact hrest
    | some j =>
      rw [List.filter_cons_of_pos (by simpa using habsent)]
      exact .cons ⟨rfl, hwritten j rfl⟩ hrest

/-- The members for the place of a node are named after the parts that it lists. -/
private theorem Node.keys_placeMembers {c : Category} (k : Kind c) (fs : Fields k.fields)
    (place : c.Place) :
    keys (c.placeMembers place) = (Node.mk k fs place).attributes.map Prod.fst := by
  rw [Category.placeMembers_eq, Node.attributes, Node.location?, Node.place]
  cases c.location? place with
  | none => rfl
  | some l =>
    dsimp only
    rw [Location.members_eq, keys, List.map_map]
    rfl

/-- Fields and members in the same order have the same names. -/
private theorem map_fst_eq_keys {views : List (String × FieldView)}
    {members : List (String × Json)}
    (h : List.Forall₂ (fun e m => e.1 = m.1 ∧ e.2.WrittenAs m.2) views members) :
    views.map Prod.fst = keys members := by
  induction h with
  | nil => rfl
  | cons hm _ ih => rw [List.map_cons, Json.keys_cons, hm.1, ih]

/-- The value of a field is found under the name of the field, if the names are distinct. -/
private theorem exists_member?_of_forall₂ {views : List (String × FieldView)}
    {members : List (String × Json)}
    (h : List.Forall₂ (fun e m => e.1 = m.1 ∧ e.2.WrittenAs m.2) views members)
    (hnodup : (keys members).Nodup) :
    ∀ e ∈ views, ∃ j, member? members e.1 = some j ∧ e.2.WrittenAs j := by
  induction h with
  | nil => nofun
  | @cons _ m _ rest hm hrest ih =>
    obtain ⟨hfirst, hnodup⟩ := List.nodup_cons.mp hnodup
    refine List.forall_mem_cons.mpr ⟨⟨m.2, ?_, hm.2⟩, fun e he => ?_⟩
    · rw [Json.member?_cons, if_pos hm.1.symm]
    · -- a later field has another name than the first member
      obtain ⟨j, hj, hwritten⟩ := ih hnodup e he
      have hmem : e.1 ∈ keys rest := map_fst_eq_keys hrest ▸ List.mem_map_of_mem he
      have hne : m.1 ≠ e.1 := fun heq => hfirst (heq ▸ hmem)
      exact ⟨j, by rw [Json.member?_cons, if_neg hne, hj], hwritten⟩

/-- The object that is written for a node describes it: the name of the class, the fields and the
parts of the location are those that the node shows, in the same order. -/
theorem AnyNode.writtenAs_of_toJson {n : AnyNode} {members : List (String × Json)}
    (h : n.2.toJson = .ok (.obj members)) : n.WrittenAs members := by
  obtain ⟨c, k, fs, place⟩ := n
  obtain ⟨fieldMembers, hmembers, hobj⟩ := Node.toJson_mk_eq_ok_iff.mp h
  obtain rfl := Json.obj.inj hobj
  have htagged := Category.isNone_only?_iff c
  have hwritten := writtenFields_eq ⟨c, .mk k fs place⟩
  have hfields := Fields.forall₂_views_members fs hmembers
  have hnames := map_fst_eq_keys hfields
  refine ⟨h, ?_, fun htag => ?_, fun e he => ?_⟩
  · -- the three groups of members one after another
    rw [Json.keys_append, Json.keys_append, Node.keys_placeMembers k fs, hwritten]
    rw [Kind.tagMembers_eq]
    by_cases htag : c ∈ Category.untagged
    · rw [if_pos htag, if_neg (mt htagged.mp (not_not_intro htag)), ← hnames]
      rfl
    · rw [if_neg htag, if_pos (htagged.mpr htag), ← hnames]
      rfl
  · rw [Node.member?_type hmembers place, Kind.tagMembers_eq, if_pos (htagged.mpr htag)]
    rfl
  · rw [hwritten] at he
    have hname : e.1 ∈ k.fields.map Field.name :=
      fs.map_fst_views ▸ List.mem_map_of_mem (List.mem_filter.mp he).1
    obtain ⟨f, hf, hfe⟩ := List.mem_map.mp hname
    have hnodup := k.fieldNames_nodup.sublist (fs.keys_members hmembers)
    rw [← hfe, Node.member?_field place hf, hfe]
    exact exists_member?_of_forall₂ hfields hnodup e he

/-! ## All nodes of a tree -/

/-- Constants are written without objects. -/
private theorem Constant.objects_of_toJson {c : Constant} {j : Json} (h : c.toJson = .ok j) :
    j.objects = [] := by
  cases c with
  | none | bool b | str s =>
    obtain rfl := Except.ok.inj h
    rfl
  | int n =>
    rw [Constant.toJson] at h
    split at h
    · obtain rfl := Except.ok.inj h
      rfl
    · cases h
  | float x =>
    obtain rfl := Except.ok.inj h
    split <;> rfl
  | bytes bs =>
    obtain rfl := Except.ok.inj h
    exact Json.objectsOfItems_map_eq_nil (fun _ => rfl) bs

/-- Scalars are written without objects. -/
private theorem Scalar.objects_of_toJson? {s : Scalar} {v : s.Value} {j : Json}
    (h : s.toJson? v = .ok (some j)) : j.objects = [] := by
  cases s with
  | identifier | dottedName | level | conversion =>
    obtain rfl := Option.some.inj (Except.ok.inj h)
    rfl
  | identifiers =>
    obtain rfl := Option.some.inj (Except.ok.inj h)
    exact Json.objectsOfItems_map_eq_nil (fun _ => rfl) v
  | optionalIdentifier | optionalDottedName | optionalText =>
    obtain ⟨text, -, rfl⟩ := Option.map_eq_some_iff.mp (Except.ok.inj h)
    rfl
  | constant =>
    obtain ⟨j', hj', heq⟩ := Except.map_eq_ok_iff.mp h
    obtain rfl := Option.some.inj heq
    exact Constant.objects_of_toJson hj'

mutual

/-- The objects in the document of a node are those of the nodes below it and its own. -/
theorem Node.forall₂_writtenAs : {c : Category} → (n : Node c) → {j : Json} → n.toJson = .ok j →
    List.Forall₂ AnyNode.WrittenAs n.subtrees j.objects
  | c, .mk k fs place, _, h => by
    obtain ⟨members, hmembers, rfl⟩ := Node.toJson_mk_eq_ok_iff.mp h
    -- the tag and the parts of the location are no objects
    have htag : Json.objectsOfMembers k.tagMembers = [] := by
      rw [Kind.tagMembers_eq]
      split <;> rfl
    have hplace : Json.objectsOfMembers (c.placeMembers place) = [] := by
      rw [Category.placeMembers_eq]
      split
      · rfl
      · rw [Location.members_eq]
        exact Json.objectsOfMembers_map_eq_nil (fun _ => rfl) _
    rw [Node.subtrees, Json.objects, Json.objectsOfMembers_append, Json.objectsOfMembers_append,
      htag, hplace, List.nil_append, List.append_nil]
    exact .cons (AnyNode.writtenAs_of_toJson h) (Fields.forall₂_writtenAs fs hmembers)

theorem Fields.forall₂_writtenAs : {fs : List Field} → (v : Fields fs) →
    {members : List (String × Json)} → v.members = .ok members →
    List.Forall₂ AnyNode.WrittenAs v.subtrees (Json.objectsOfMembers members)
  | _, .nil, _, h => by
    obtain rfl := Except.ok.inj h
    exact .nil
  | f :: _, .cons slot rest, _, h => by
    obtain ⟨value, others, hvalue, hothers, rfl⟩ := Fields.members_cons_eq_ok_iff.mp h
    have hslot := Slot.forall₂_writtenAs slot hvalue
    have hrest := Fields.forall₂_writtenAs rest hothers
    rw [Fields.subtrees, Json.objectsOfMembers_append]
    refine List.rel_append ?_ hrest
    cases value with
    | none => exact hslot
    | some j => simpa [Json.objectsOfMembers] using hslot

theorem Slot.forall₂_writtenAs : {k : Content} → (slot : Slot k) → {value : Option Json} →
    slot.toJson? = .ok value →
    List.Forall₂ AnyNode.WrittenAs slot.subtrees (value.elim [] Json.objects)
  | _, .node n, _, h => by
    obtain ⟨j, hj, rfl⟩ := Except.map_eq_ok_iff.mp h
    exact Node.forall₂_writtenAs n hj
  | _, .absent, _, h => by
    obtain rfl := Except.ok.inj h
    exact .nil
  | _, .present n, _, h => by
    obtain ⟨j, hj, rfl⟩ := Except.map_eq_ok_iff.mp h
    exact Node.forall₂_writtenAs n hj
  | _, .list ns, _, h => by
    obtain ⟨items, hitems, rfl⟩ := Except.map_eq_ok_iff.mp h
    exact Nodes.forall₂_writtenAs ns hitems
  | .scalar s, .scalar v, value, h => by
    cases value with
    | none => exact .nil
    | some j =>
      rw [Option.elim_some, Scalar.objects_of_toJson? h]
      exact .nil

theorem Nodes.forall₂_writtenAs : {c : Category} → {gaps : Bool} → (ns : Nodes c gaps) →
    {items : List Json} → ns.items = .ok items →
    List.Forall₂ AnyNode.WrittenAs ns.subtrees (Json.objectsOfItems items)
  | _, _, .nil, _, h => by
    obtain rfl := Except.ok.inj h
    exact .nil
  | _, _, .cons n rest, _, h => by
    obtain ⟨j, hj, h⟩ := Except.bind_eq_ok_iff.mp h
    obtain ⟨items, hitems, h⟩ := Except.bind_eq_ok_iff.mp h
    obtain rfl := Except.ok.inj h
    exact List.rel_append (Node.forall₂_writtenAs n hj) (Nodes.forall₂_writtenAs rest hitems)
  | _, _, .gap rest, _, h => by
    obtain ⟨items, hitems, h⟩ := Except.bind_eq_ok_iff.mp h
    obtain rfl := Except.ok.inj h
    rw [Json.objectsOfItems]
    exact Nodes.forall₂_writtenAs rest hitems

end

/-- If a tree is written, the objects in its document, each before those inside it, are the
documents of its nodes in preorder. Each has the name of the class first, unless it is that of a
helper node, then every field that is there with its value, then the known parts of the location. -/
theorem Tree.objects_describe_subtrees {t : Tree Root} {j : Json} (h : t.toJson = .ok j) :
    List.Forall₂ AnyNode.WrittenAs t.subtrees j.objects := by
  have hroot {r : Root} {j : Json} (h : r.toJson = .ok j) :
      List.Forall₂ AnyNode.WrittenAs r.subtrees j.objects :=
    Node.forall₂_writtenAs r.toNode.2 (r.toJson_eq ▸ h)
  cases t with
  | single r => simpa [Tree.subtrees, Tree.nodes] using hroot h
  | many rs =>
    obtain ⟨items, hitems, rfl⟩ := Except.map_eq_ok_iff.mp h
    clear h
    rw [Tree.subtrees, Tree.nodes, Json.objects]
    induction rs generalizing items with
    | nil =>
      obtain rfl := Except.ok.inj hitems
      exact .nil
    | cons r rs ih =>
      obtain ⟨j, rest, hj, hrest, rfl⟩ := mapM_cons_eq_ok_iff.mp hitems
      rw [List.flatMap_cons, Json.objectsOfItems]
      exact List.rel_append (hroot hj) (ih rest hrest)

/-- A module, whose type comments are not written, and a dictionary with a gap among its keys, of
whose location two parts are known. -/
theorem Tree.objects_describe_sequence :
    let t : Tree Root := .many
      [.mod (Mod.module [Stmt.importNames [Node.importAlias "os" none]]),
        .expr ((Expr.dict [none] [Expr.name "d"]).at_ ⟨some 1, none, none, some 9⟩)]
    let j : Json := .arr
      [.obj [("_type", .str "Module"), ("body", .arr
          [.obj [("_type", .str "Import"), ("names", .arr [.obj [("name", .str "os")]])]])],
        .obj [("_type", .str "Dict"), ("keys", .arr [.null]), ("values", .arr
          [.obj [("_type", .str "Name"), ("id", .str "d"), ("ctx", .obj [("_type", .str "Load")])]]),
          ("lineno", .int 1), ("end_col_offset", .int 9)]]
    t.toJson = .ok j ∧ List.Forall₂ AnyNode.WrittenAs t.subtrees j.objects := by
  intro t j
  have hwrite : t.toJson = .ok j := rfl
  exact ⟨hwrite, Tree.objects_describe_subtrees hwrite⟩

end SyntaxDump
