import SyntaxDump.Build
import SyntaxDump.Proofs.Document.Loading

/-!
# How documents name classes

Every value in a document that is read as a node has to say which class the node is of, unless the
category of the node has a single class. At the top the reader insists on an object whose `_type` is
the name of the class. Below the top it accepts more: `_type` may be the position of the class among
those of its category, and a node without fields may be an array that holds nothing but the name or
the position.

## Main statements

- `Json.Decodes`: which values in a document are read as which nodes;
- `Json.Decodes.mem_subtrees`, `Tree.decodes_of_mem_subtrees`: these nodes make up the tree,
  together with defaults of fields that are left out;
- `Tree.tagged_of_ofJson`: how each of the values gives the class of its node.
-/

namespace SyntaxDump

open Json (member?)

/-! ## Positions -/

/-- The values that are to be read as nodes, with the categories of these, where a value is given
for a field. -/
inductive Content.Holds : Content → Json → Category → Json → Prop
  | node {c : Category} {j : Json} : Holds (.node c) j c j
  | optional {c : Category} {j : Json} : Holds (.optional c) j c j
  | item {c : Category} {gaps : Bool} {items : List Json} {j : Json} (hj : j ∈ items) :
    Holds (.list c gaps) (.arr items) c j

/-- The value is given for a field of the class when a node of the class is read from the value
`j`. -/
def Kind.Gives {c : Category} (k : Kind c) (j : Json) (f : Field) (value : Json) : Prop :=
  (f, some value) ∈ k.fields.zip (j.fieldValues k)

/-- In the document `v` the value `j` is read as the node `n`; `inside` tells whether it stands
below the top. -/
inductive Json.Decodes (v : Json) : Bool → Json → AnyNode → Prop
  | single {r : Root} (h : Root.ofJson v = .ok r) : Decodes v false v r.toNode
  | item {items : List Json} {j : Json} {r : Root} (hv : v = .arr items) (hj : j ∈ items)
    (h : Root.ofJson j = .ok r) : Decodes v false j r.toNode
  | field {inside : Bool} {j value j' : Json} {n : AnyNode} {f : Field} {d : Category} {m : Node d}
    (hn : Decodes v inside j n) (hgiven : n.2.kind.Gives j f value)
    (hheld : f.content.Holds value d j') (h : Node.ofJson true j' d = .ok m) :
    Decodes v true j' ⟨d, m⟩

/-- The nodes of a list are read from the items of the array. -/
theorem Nodes.mem_toList_iff_of_ofItems {c : Category} {gaps : Bool} {items : List Json}
    {ns : Nodes c gaps} (h : Nodes.ofItems items c gaps = .ok ns) (n : Node c) :
    n ∈ ns.toList ↔ ∃ j ∈ items, Node.ofJson true j c = .ok n := by
  induction items generalizing ns with
  | nil =>
    rw [Nodes.ofItems] at h
    obtain rfl := Except.ok.inj h
    simp [Nodes.toList]
  | cons j items ih =>
    simp only [List.mem_cons, exists_eq_or_imp]
    rcases Nodes.ofItems_cons_eq_ok h with
      ⟨rfl, rest, rfl, hread, rfl⟩ | ⟨n', rest, hn', hread, rfl⟩
    · -- no node is read from `null`
      have hnull : Node.ofJson true .null c ≠ .ok n := by
        intro h
        cases h
      rw [← ih hread, or_iff_right hnull]
      rfl
    · rw [← ih hread, hn', Nodes.toList, List.mem_cons, Except.ok.injEq, eq_comm]

/-- The nodes in a field are read from the values that its value holds. -/
theorem Slot.mem_children_iff_of_ofJson {value : Json} {k : Content} {slot : Slot k}
    (h : Slot.ofJson value k = .ok slot) {d : Category} (m : Node d) :
    ⟨d, m⟩ ∈ slot.children ↔ ∃ j, k.Holds value d j ∧ Node.ofJson true j d = .ok m := by
  cases k with
  | node c =>
    rw [Slot.ofJson_node] at h
    obtain ⟨n, hn, rfl⟩ := Except.map_eq_ok_iff.mp h
    rw [Slot.children, List.mem_singleton]
    constructor
    · rintro ⟨rfl, rfl⟩
      exact ⟨value, .node, hn⟩
    · rintro ⟨j, ⟨⟩, hm⟩
      rw [hn] at hm
      rw [Except.ok.inj hm]
  | optional c =>
    rcases Slot.ofJson_optional_eq_ok h with ⟨rfl, rfl⟩ | ⟨n, hn, rfl⟩
    · -- `null` stands for no node, and no node is read from it
      constructor
      · exact fun hm => absurd hm List.not_mem_nil
      · rintro ⟨j, ⟨⟩, hm⟩
        cases hm
    · rw [Slot.children, List.mem_singleton]
      constructor
      · rintro ⟨rfl, rfl⟩
        exact ⟨value, .optional, hn⟩
      · rintro ⟨j, ⟨⟩, hm⟩
        rw [hn] at hm
        rw [Except.ok.inj hm]
  | list c gaps =>
    obtain ⟨items, ns, rfl, hns, rfl⟩ := Slot.ofJson_list_eq_ok h
    rw [Slot.children, List.mem_map]
    constructor
    · rintro ⟨n, hn, ⟨⟩⟩
      obtain ⟨j, hj, hread⟩ := (Nodes.mem_toList_iff_of_ofItems hns _).mp hn
      exact ⟨j, .item hj, hread⟩
    · rintro ⟨j, ⟨⟩, hm⟩
      next hj => exact ⟨m, (Nodes.mem_toList_iff_of_ofItems hns m).mpr ⟨j, hj, hm⟩, rfl⟩
  | scalar s =>
    rw [Slot.ofJson_scalar] at h
    obtain ⟨v, -, rfl⟩ := Except.map_eq_ok_iff.mp h
    constructor
    · exact fun hm => absurd hm List.not_mem_nil
    · rintro ⟨j, ⟨⟩, -⟩

/-- A node that stands where a field is left out. -/
def AnyNode.IsDefault (n : AnyNode) : Prop :=
  n = ⟨.context, Node.load⟩ ∨ n = ⟨.arguments, Node.noArguments⟩

private theorem Slot.isDefault_of_default? {k : Content} {slot : Slot k}
    (h : Slot.default? k = some slot) : ∀ m ∈ slot.children, m.IsDefault := by
  cases slot with
  | @node c n =>
    cases c
    case context =>
      cases h
      exact List.forall_mem_singleton.mpr (.inl rfl)
    case arguments =>
      cases h
      exact List.forall_mem_singleton.mpr (.inr rfl)
    all_goals cases h
  | absent => exact List.forall_mem_nil _
  | present n => cases h
  | list ns =>
    cases h
    exact List.forall_mem_nil _
  | scalar v => exact List.forall_mem_nil _

/-- Nothing is below a default. -/
private theorem AnyNode.IsDefault.children_eq_nil {n : AnyNode} (h : n.IsDefault) :
    n.children = [] := by
  rcases h with rfl | rfl <;> rfl

/-- What is held by a value that is given for a field and is read as a node is in the fields. -/
theorem Fields.ReadFrom.mem_children {fs : List Field} {values : List (Option Json)} {v : Fields fs}
    (h : v.ReadFrom values) {f : Field} {value j : Json} {d : Category} {m : Node d}
    (hgiven : (f, some value) ∈ fs.zip values) (hheld : f.content.Holds value d j)
    (hread : Node.ofJson true j d = .ok m) : ⟨d, m⟩ ∈ v.children := by
  induction h with
  | nil => cases hgiven
  | read hslot _ ih =>
    rw [Fields.children_cons, List.mem_append]
    rcases List.mem_cons.mp hgiven with heq | hgiven
    · cases heq
      exact .inl ((Slot.mem_children_iff_of_ofJson hslot m).mpr ⟨j, hheld, hread⟩)
    · exact .inr (ih hgiven)
  | default _ _ _ ih =>
    rw [Fields.children_cons, List.mem_append]
    rcases List.mem_cons.mp hgiven with heq | hgiven
    · cases heq
    · exact .inr (ih hgiven)

/-- Whatever is in the fields is a default or was read. -/
theorem Fields.ReadFrom.held_of_mem_children {fs : List Field} {values : List (Option Json)}
    {v : Fields fs} (h : v.ReadFrom values) :
    ∀ m ∈ v.children, m.IsDefault ∨ ∃ f value j, (f, some value) ∈ fs.zip values ∧
      f.content.Holds value m.1 j ∧ Node.ofJson true j m.1 = .ok m.2 := by
  induction h with
  | nil => exact List.forall_mem_nil _
  | @read f fs value values slot rest hslot _ ih =>
    intro m hm
    rcases List.mem_append.mp hm with hm | hm
    · obtain ⟨j, hheld, hread⟩ := (Slot.mem_children_iff_of_ofJson hslot m.2).mp hm
      exact .inr ⟨f, value, j, List.mem_cons_self, hheld, hread⟩
    · rcases ih m hm with hdefault | ⟨g, value', j, hgiven, hread⟩
      · exact .inl hdefault
      · exact .inr ⟨g, value', j, List.mem_cons_of_mem _ hgiven, hread⟩
  | default _ hslot _ ih =>
    intro m hm
    rcases List.mem_append.mp hm with hm | hm
    · exact .inl (Slot.isDefault_of_default? hslot m hm)
    · rcases ih m hm with hdefault | ⟨g, value', j, hgiven, hread⟩
      · exact .inl hdefault
      · exact .inr ⟨g, value', j, List.mem_cons_of_mem _ hgiven, hread⟩

/-- Each item of a sequence is read as a node of it. -/
private theorem Root.mem_of_ofItems {index : Nat} {items : List Json} {rs : List Root}
    (h : Root.ofItems index items = .ok rs) {j : Json} (hj : j ∈ items) {r : Root}
    (hread : Root.ofJson j = .ok r) : r ∈ rs := by
  induction items generalizing index rs with
  | nil => cases hj
  | cons first items ih =>
    obtain ⟨r', hr', h⟩ := Except.bind_eq_ok_iff.mp h
    obtain ⟨rest, hrest, h⟩ := Except.bind_eq_ok_iff.mp h
    obtain rfl := Except.ok.inj h
    rcases List.mem_cons.mp hj with rfl | hj
    · cases j with
      | obj members =>
        have hsame := Except.mapError_eq_ok_iff.mp hr'
        rw [hread] at hsame
        rw [Except.ok.inj hsame]
        exact List.mem_cons_self
      | _ => cases hr'
    · exact List.mem_cons_of_mem r' (ih hrest hj)

/-- A node is among the subtrees of a tree if it is below one of the nodes at the top. -/
private theorem Tree.mem_subtrees_iff {t : Tree Root} {n : AnyNode} :
    n ∈ t.subtrees ↔ ∃ r ∈ t.nodes, n ∈ r.toNode.2.subtrees := List.mem_flatMap

namespace Json.Decodes

variable {v j : Json} {inside : Bool} {n : AnyNode}

/-- The node at a position is read from the value there. -/
theorem ofJson_eq_ok (h : v.Decodes inside j n) : Node.ofJson inside j n.1 = .ok n.2 := by
  cases h with
  | single h => exact Root.ofJson_eq_ok h
  | item _ _ h => exact Root.ofJson_eq_ok h
  | field _ _ _ h => exact h

/-- The node at a position belongs to the tree. -/
theorem mem_subtrees {t : Tree Root} (ht : Tree.ofJson v = .ok t) (h : v.Decodes inside j n) :
    n ∈ t.subtrees := by
  rw [Tree.mem_subtrees_iff]
  induction h with
  | @single r h =>
    refine ⟨r, ?_, r.toNode.mem_subtrees_self⟩
    cases v with
    | obj members =>
      obtain ⟨r', hread, rfl⟩ := Except.map_eq_ok_iff.mp ht
      rw [Except.mapError_eq_ok_iff, h] at hread
      exact List.mem_singleton.mpr (Except.ok.inj hread)
    | _ => cases h
  | @item items j r hv hj h =>
    subst hv
    obtain ⟨rs, hread, rfl⟩ := Except.map_eq_ok_iff.mp ht
    exact ⟨r, Root.mem_of_ofItems hread hj h, r.toNode.mem_subtrees_self⟩
  | @field inside j value j' n f d m hn hgiven hheld h ih =>
    have hchild : ⟨d, m⟩ ∈ n.children := by
      rw [n.children_eq]
      exact (Node.readFrom_of_ofJson hn.ofJson_eq_ok).mem_children hgiven hheld h
    obtain ⟨r, hr, hbelow⟩ := ih
    exact ⟨r, hr, AnyNode.mem_subtrees_of_mem_children hbelow hchild⟩

end Json.Decodes

/-- The nodes at the top of a tree are read from the document or from its items. -/
private theorem Root.decodes_of_mem_nodes {v : Json} {t : Tree Root} (ht : Tree.ofJson v = .ok t)
    {r : Root} (hr : r ∈ t.nodes) : ∃ j, v.Decodes false j r.toNode := by
  cases v with
  | obj members =>
    obtain ⟨r', hread, rfl⟩ := Except.map_eq_ok_iff.mp ht
    obtain rfl := List.mem_singleton.mp hr
    exact ⟨_, .single (Except.mapError_eq_ok_iff.mp hread)⟩
  | arr items =>
    obtain ⟨rs, hread, rfl⟩ := Except.map_eq_ok_iff.mp ht
    obtain ⟨j, hj, hroot⟩ := Root.exists_of_mem_ofItems hread r hr
    exact ⟨j, .item rfl hj hroot⟩
  | _ => cases ht

/-- Every node of a tree is read from a value in the document or is a default. -/
theorem Tree.decodes_of_mem_subtrees {v : Json} {t : Tree Root} (ht : Tree.ofJson v = .ok t) :
    ∀ n ∈ t.subtrees, n.IsDefault ∨ ∃ inside j, v.Decodes inside j n := by
  intro n hn
  obtain ⟨r, hr, hn⟩ := Tree.mem_subtrees_iff.mp hn
  obtain ⟨j, htop⟩ := Root.decodes_of_mem_nodes ht hr
  refine AnyNode.forall_mem_subtrees (P := fun n => n.IsDefault ∨ ∃ inside j, v.Decodes inside j n)
    (.inr ⟨false, j, htop⟩) ?_ n hn
  -- whatever is below a position is read from a value that the one at the position gives
  rintro n (hdefault | ⟨inside, j, hposition⟩) m hm
  · rw [hdefault.children_eq_nil] at hm
    cases hm
  · rw [n.children_eq] at hm
    have hfields := Node.readFrom_of_ofJson hposition.ofJson_eq_ok
    refine (hfields.held_of_mem_children m hm).imp_right ?_
    rintro ⟨f, value, j', hgiven, hheld, hread⟩
    exact ⟨true, j', .field hposition hgiven hheld hread⟩

/-! ## Tags -/

/-- The value is an object whose `_type` is the name of the class of the node. -/
def Json.Names (j : Json) (n : AnyNode) : Prop :=
  ∃ members, j = .obj members ∧ member? members "_type" = some (.str n.className)

/-- The tag is the position of the class of the node among those of its category. -/
def Json.Indexes (tag : Json) (n : AnyNode) : Prop :=
  ∃ i : Int, tag = .int i ∧ 0 ≤ i ∧ (Kind.all n.1)[i.toNat]? = some n.2.kind

/-- The other forms that are accepted below the top: an object whose `_type` is the position of the
class, or, for classes without fields, an array that holds the name or the position. -/
def Json.Abbreviates (j : Json) (n : AnyNode) : Prop :=
  (∃ members tag, j = .obj members ∧ member? members "_type" = some tag ∧ tag.Indexes n) ∨
    n.2.kind.fields = [] ∧ ∃ tag, j = .arr [tag] ∧ (tag = .str n.className ∨ tag.Indexes n)

/-- The tags that give a class. -/
private theorem Kind.tag_of_ofTag {index : Bool} {c : Category} {tag : Json} {k : Kind c}
    (h : Kind.ofTag index c tag = .ok k) :
    tag = .str k.className ∨
      index = true ∧ ∃ i : Int, tag = .int i ∧ 0 ≤ i ∧ (Kind.all c)[i.toNat]? = some k := by
  cases tag with
  | str s =>
    rw [ofTag] at h
    split at h
    · next k' hname =>
      obtain rfl := Except.ok.inj h
      exact .inl (congrArg _ (Kind.className_of_ofName? hname).symm)
    · cases h
  | int i =>
    rw [ofTag] at h
    -- a position counts only below the top, and only if it is not negative
    split at h
    · next hindex =>
      rw [Bool.and_eq_true, decide_eq_true_iff] at hindex
      split at h
      · next k' hk =>
        obtain rfl := Except.ok.inj h
        exact .inr ⟨hindex.1, i, rfl, hindex.2, hk⟩
      · cases h
    · cases h
  | _ => cases h

/-- No field holds modules. -/
private theorem Kind.not_holds_mod {c : Category} (k : Kind c) {f : Field} (hf : f ∈ k.fields)
    {value j : Json} : ¬ f.content.Holds value .mod j := by
  have hcontent : ∀ f ∈ k.fields, f.content ∉
      [.node .mod, .optional .mod, .list .mod true, .list .mod false] := by
    cases k <;> decide +kernel
  have hmod := hcontent f hf
  -- the kinds of content that could hold a module are the four that no field has
  intro h
  generalize f.content = content at h hmod
  cases h with
  | node | optional => simp at hmod
  | @item _ gaps => cases gaps <;> simp at hmod

/-- A node below the top is no module. -/
private theorem Json.Decodes.ne_mod {v j : Json} {n : AnyNode} (h : v.Decodes true j n) :
    n.1 ≠ .mod := by
  cases h with
  | @field inside j value j' n f d m hn hgiven hheld h =>
    rintro rfl
    exact Kind.not_holds_mod _ (List.of_mem_zip hgiven).1 hheld

/-- An object that is read as a node has a tag, unless there is no choice. -/
private theorem Kind.exists_tag_of_ofMembers {index : Bool} {c : Category}
    {members : List (String × Json)} {k : Kind c} (honly : Kind.only? c = none)
    (h : Kind.ofMembers index c members = .ok k) :
    ∃ tag, member? members "_type" = some tag ∧ Kind.ofTag index c tag = .ok k := by
  rw [ofMembers, honly] at h
  cases hmember : member? members "_type" with
  | none => simp [hmember] at h
  | some tag => exact ⟨tag, rfl, by simpa [hmember] using h⟩

/-- At the top of a tree the tag is the name of the class. -/
private theorem Root.names_of_ofJson {j : Json} {r : Root} (h : Root.ofJson j = .ok r) :
    j.Names r.toNode := by
  have hread := Root.ofJson_eq_ok h
  have honly : Kind.only? r.toNode.1 = none := by cases r <;> rfl
  cases j with
  | obj members =>
    refine ⟨members, rfl, ?_⟩
    obtain ⟨kind, fields, place, hkind, -, -, hnode⟩ := Node.ofJson_obj_eq_ok_iff.mp hread
    obtain ⟨tag, htag, hkind⟩ := Kind.exists_tag_of_ofMembers honly hkind
    have hname : r.toNode.className = kind.className := by rw [AnyNode.className, hnode]; rfl
    rw [htag, hname]
    rcases Kind.tag_of_ofTag hkind with rfl | ⟨-, i, rfl, -⟩
    · rfl
    · -- the reader has checked before that the tag is a text
      rw [Root.ofJson, htag] at h
      cases h
  | _ => cases h

/-- Below the top the tag may have other forms. -/
private theorem Node.names_or_abbreviates_of_ofJson {inside : Bool} {j : Json} {c : Category}
    {n : Node c} (hmod : c ≠ .mod) (honly : Kind.only? c = none)
    (h : Node.ofJson inside j c = .ok n) : j.Names ⟨c, n⟩ ∨ j.Abbreviates ⟨c, n⟩ := by
  rcases Node.ofJson_eq_ok_cases h with ⟨members, rfl⟩ | ⟨items, rfl⟩
  · obtain ⟨kind, fields, place, hkind, -, -, rfl⟩ := Node.ofJson_obj_eq_ok_iff.mp h
    obtain ⟨tag, htag, hkind⟩ := Kind.exists_tag_of_ofMembers honly hkind
    rcases Kind.tag_of_ofTag hkind with rfl | ⟨-, hindex⟩
    · exact .inl ⟨members, rfl, htag⟩
    · exact .inr (.inl ⟨members, tag, rfl, htag, hindex⟩)
  · obtain ⟨kind, fields, hlocated, htag, -, hlength, rfl⟩ := Node.ofJson_arr_eq_ok h
    obtain ⟨tag, hhead, hkind⟩ := htag honly
    -- the other categories have a location or a single class
    have hfieldless : c.isFieldless = true := by
      cases c <;> simp_all [Category.isFieldless, Category.isLocated, Kind.only?]
    have hfields := kind.fields_eq_nil hfieldless
    -- there is nothing after the tag, as there are no fields
    have hitems : items = [tag] := by
      cases items with
      | nil => cases hhead
      | cons first rest =>
        obtain rfl := Option.some.inj hhead
        have hrest : rest = [] := by simpa [Category.fieldItems, honly, hfields] using hlength
        rw [hrest]
    refine .inr (.inr ⟨hfields, tag, by rw [hitems], ?_⟩)
    exact (Kind.tag_of_ofTag hkind).imp_right And.right

/-! ## Documents -/

/-- A document that is read as a tree says at each position which class the node there is of. At the
top, and wherever an object has a text for its `_type`, this is the name of the class. Below the top
`_type` may be a position in the category instead, and an array with nothing but a name or a
position is accepted for a node without fields. The positions are those of all nodes of the tree, up
to defaults. -/
theorem Tree.tagged_of_ofJson {v : Json} {t : Tree Root} (ht : Tree.ofJson v = .ok t) :
    (∀ n ∈ t.subtrees, n.IsDefault ∨ ∃ inside j, v.Decodes inside j n) ∧
      ∀ inside j n, v.Decodes inside j n → n ∈ t.subtrees ∧
        (Kind.only? n.1 = none → j.Names n ∨ inside = true ∧ j.Abbreviates n) := by
  refine ⟨Tree.decodes_of_mem_subtrees ht, fun inside j n h => ⟨h.mem_subtrees ht, fun honly => ?_⟩⟩
  -- at the top the reader checks the tag itself, below it leaves this to the category
  cases inside with
  | false =>
    left
    cases h with
    | single h => exact Root.names_of_ofJson h
    | item _ _ h => exact Root.names_of_ofJson h
  | true =>
    have hforms := Node.names_or_abbreviates_of_ofJson h.ne_mod honly h.ofJson_eq_ok
    exact hforms.imp_right fun habbreviates => ⟨rfl, habbreviates⟩

/-- A negation whose operator is an array that holds the name of the class. -/
def Json.negation : Json :=
  .obj [("_type", .str "UnaryOp"), ("op", .arr [.str "Not"]),
    ("operand", .obj [("_type", .str "Name"), ("id", .str "x")])]

/-- The negation that is read. -/
def Tree.negation : Tree Root := .single (.expr (Expr.unaryOp .not (Expr.name "x")))

private theorem Tree.ofJson_negation : Tree.ofJson Json.negation = .ok Tree.negation := rfl

/-- The document is accepted, and what was said about all of them holds of its positions. -/
theorem Tree.tagged_of_ofJson_negation :
    Tree.ofJson Json.negation = .ok Tree.negation ∧
      (∀ n ∈ Tree.negation.subtrees, n.IsDefault ∨ ∃ inside j, Json.negation.Decodes inside j n) ∧
        ∀ inside j n, Json.negation.Decodes inside j n → n ∈ Tree.negation.subtrees ∧
          (Kind.only? n.1 = none → j.Names n ∨ inside = true ∧ j.Abbreviates n) :=
  ⟨Tree.ofJson_negation, Tree.tagged_of_ofJson Tree.ofJson_negation⟩

/-- The array in the place of the operator is read as an operator, and is not an object with its
name. -/
theorem Tree.negation_not_names :
    Tree.ofJson Json.negation = .ok Tree.negation ∧
      Json.negation.Decodes true (.arr [.str "Not"]) ⟨.unaryOperator, Node.plain .not⟩ ∧
      ¬ (Json.arr [.str "Not"]).Names ⟨.unaryOperator, Node.plain .not⟩ := by
  refine ⟨Tree.ofJson_negation, ?_, ?_⟩
  · have hroot : Root.ofJson Json.negation = .ok (.expr (Expr.unaryOp .not (Expr.name "x"))) := rfl
    have hgiven : (Expr.unaryOp .not (Expr.name "x")).kind.Gives Json.negation
        (.must "op" (.node .unaryOperator)) (.arr [.str "Not"]) := .head _
    exact .field (.single hroot) hgiven .node rfl
  · rintro ⟨members, heq, -⟩
    cases heq

end SyntaxDump
