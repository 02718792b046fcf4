import SyntaxDump.Build
import SyntaxDump.Proofs.Document.Reread
import SyntaxDump.Proofs.Json.Words

/-!
# The constants that a document spells

A tree has a document unless one of its constants is an integer that does not fit into 128 bits, at
any depth; the first of these in the order of the fields is then named. Otherwise the words that
stand under `value` in the text of the document are those of the constants, in the same order, and
the word of an integer consists of its decimal digits.

## Main statements

- `Node.allConstants_eq`: the order of the fields is the order of the nodes;
- `Node.fault?_toJson`: the fault of a document is that of its first constant that has one;
- `Node.wordsUnder_toJson`: the words of a document are those of its constants;
- `Tree.serialize_json_integers`: what becomes of the integers of a tree.
-/

namespace SyntaxDump

open Json (wordsUnderItems wordsUnderMembers wordsUnderItems_eq wordsUnderMembers_append)

/-! ## Constants in the order of the fields -/

mutual

/-- The constants in a tree, field by field. -/
def Node.allConstants : {c : Category} → Node c → List Constant
  | _, .mk _ fs _ => fs.allConstants

/-- The constants in a list of fields, at any depth. -/
def Fields.allConstants : {fs : List Field} → Fields fs → List Constant
  | _, .nil => []
  | _, .cons slot rest => slot.allConstants ++ rest.allConstants

/-- The constants in a field, at any depth. -/
def Slot.allConstants : {k : Content} → Slot k → List Constant
  | _, .node n => n.allConstants
  | _, .absent => []
  | _, .present n => n.allConstants
  | _, .list ns => ns.allConstants
  | .scalar s, .scalar v => s.constants v

/-- The constants in a list of trees. -/
def Nodes.allConstants : {c : Category} → {gaps : Bool} → Nodes c gaps → List Constant
  | _, _, .nil => []
  | _, _, .cons n rest => n.allConstants ++ rest.allConstants
  | _, _, .gap rest => rest.allConstants

end

mutual

/-- Field by field the constants come in the order of the nodes: a node that holds one itself has no
nodes below it. -/
theorem Node.allConstants_eq : {c : Category} → (n : Node c) →
    n.allConstants = n.subtrees.flatMap AnyNode.constants
  | c, .mk k fs place => by
    rw [Node.allConstants, Node.subtrees, List.flatMap_cons]
    cases hown : AnyNode.constants ⟨c, .mk k fs place⟩ with
    | nil => exact Fields.allConstants_eq fs hown
    | cons value rest =>
      -- the node is a constant, and its fields hold no nodes
      have hmem : value ∈ AnyNode.constants ⟨c, .mk k fs place⟩ := hown ▸ List.mem_cons_self
      obtain ⟨kind, place', hnode⟩ := AnyNode.eq_constant_of_mem_constants hmem
      cases hnode
      rw [← hown]
      rfl

theorem Fields.allConstants_eq : {fs : List Field} → (v : Fields fs) → v.constants = [] →
    v.allConstants = v.subtrees.flatMap AnyNode.constants
  | _, .nil, _ => rfl
  | _, .cons slot rest, h => by
    obtain ⟨hslot, hrest⟩ := List.append_eq_nil_iff.mp h
    rw [Fields.allConstants, Fields.subtrees, List.flatMap_append, Slot.allConstants_eq slot hslot,
      Fields.allConstants_eq rest hrest]

theorem Slot.allConstants_eq : {k : Content} → (slot : Slot k) → slot.constants = [] →
    slot.allConstants = slot.subtrees.flatMap AnyNode.constants
  | _, .node n, _ => Node.allConstants_eq n
  | _, .absent, _ => rfl
  | _, .present n, _ => Node.allConstants_eq n
  | _, .list ns, _ => Nodes.allConstants_eq ns
  | .scalar _, .scalar _, h => h

theorem Nodes.allConstants_eq : {c : Category} → {gaps : Bool} → (ns : Nodes c gaps) →
    ns.allConstants = ns.subtrees.flatMap AnyNode.constants
  | _, _, .nil => rfl
  | _, _, .cons n rest => by
    rw [Nodes.allConstants, Nodes.subtrees, List.flatMap_append, Node.allConstants_eq n,
      Nodes.allConstants_eq rest]
  | _, _, .gap rest => Nodes.allConstants_eq rest

end

/-- The constants of a tree, in the order of its nodes. -/
def Tree.constants (t : Tree Root) : List Constant := t.subtrees.flatMap AnyNode.constants

/-- The integer that a constant is, if it is one. -/
def Constant.integer? : Constant → Option ℤ
  | .int n => some n
  | _ => .none

/-- The integer constants of a tree, in the order of its nodes. -/
def Tree.integers (t : Tree Root) : List ℤ := t.constants.filterMap Constant.integer?

/-- The constants of a tree are those of the nodes at its top, one after the other. -/
private theorem Tree.constants_eq (t : Tree Root) :
    t.constants = t.nodes.flatMap fun r => r.toNode.2.allConstants := by
  simp only [Tree.constants, Tree.subtrees, Root.subtrees, List.flatMap_assoc,
    Node.allConstants_eq]

/-! ## Faults -/

/-- Why a constant has no document. -/
def Constant.fault? (c : Constant) : Option EncodeError := Except.fault? c.toJson

/-- Why an integer has no document. -/
def integerFault? (n : ℤ) : Option EncodeError :=
  if fitsDocument n then none else some (.integerTooWide n)

/-- Only integers have no document. -/
private theorem Constant.fault?_eq (c : Constant) : c.fault? = c.integer?.bind integerFault? := by
  cases c with
  | int n =>
    rw [Constant.fault?, Constant.toJson, integer?, Option.bind_some, integerFault?]
    split <;> rfl
  | _ => rfl

/-- The first constant without a document is the first integer without one. -/
private theorem findSome?_fault? (cs : List Constant) :
    cs.findSome? Constant.fault? = (cs.filterMap Constant.integer?).findSome? integerFault? := by
  induction cs with
  | nil => rfl
  | cons c cs ih =>
    rw [List.findSome?_cons, ih, c.fault?_eq, List.filterMap_cons]
    cases c.integer? with
    | none => rfl
    | some n => rw [List.findSome?_cons]; rfl

/-- A scalar has a document unless it is a constant that has none. -/
private theorem Scalar.fault?_toJson? (s : Scalar) (v : s.Value) :
    Except.fault? (s.toJson? v) = (s.constants v).findSome? Constant.fault? := by
  cases s with
  | constant =>
    rw [Scalar.toJson?, Except.fault?_map, Scalar.constants, List.findSome?_singleton]
    rfl
  | _ => rfl

mutual

/-- A node has a document unless one of its constants has none; the first of them is named. -/
theorem Node.fault?_toJson : {c : Category} → (n : Node c) →
    Except.fault? n.toJson = n.allConstants.findSome? Constant.fault?
  | _, .mk k fs place => by
    rw [Node.toJson, Except.fault?_bind_pure, Node.allConstants, Fields.fault?_members fs]

theorem Fields.fault?_members : {fs : List Field} → (v : Fields fs) →
    Except.fault? v.members = v.allConstants.findSome? Constant.fault?
  | _, .nil => rfl
  | f :: _, .cons slot rest => by
    rw [Fields.members, Except.fault?_bind fun _ => Except.fault?_bind_pure rest.members _,
      Slot.fault?_toJson? slot, Fields.fault?_members rest, Fields.allConstants,
      List.findSome?_append]

theorem Slot.fault?_toJson? : {k : Content} → (slot : Slot k) →
    Except.fault? slot.toJson? = slot.allConstants.findSome? Constant.fault?
  | _, .node n => by
    rw [Slot.toJson?, Except.fault?_map, Slot.allConstants, Node.fault?_toJson n]
  | _, .absent => rfl
  | _, .present n => by
    rw [Slot.toJson?, Except.fault?_map, Slot.allConstants, Node.fault?_toJson n]
  | _, .list ns => by
    rw [Slot.toJson?, Except.fault?_map, Slot.allConstants, Nodes.fault?_items ns]
  | .scalar s, .scalar v => s.fault?_toJson? v

theorem Nodes.fault?_items : {c : Category} → {gaps : Bool} → (ns : Nodes c gaps) →
    Except.fault? ns.items = ns.allConstants.findSome? Constant.fault?
  | _, _, .nil => rfl
  | _, _, .cons n rest => by
    rw [Nodes.items, Except.fault?_bind fun j => Except.fault?_bind_pure rest.items (j :: ·),
      Node.fault?_toJson n, Nodes.fault?_items rest, Nodes.allConstants, List.findSome?_append]
  | _, _, .gap rest => by
    rw [Nodes.items, Except.fault?_bind_pure, Nodes.allConstants, Nodes.fault?_items rest]

end

/-- A tree has a document unless one of its integers does not fit; the first of them is named. -/
theorem Tree.fault?_toJson (t : Tree Root) :
    Except.fault? t.toJson = t.integers.findSome? integerFault? := by
  rw [Tree.integers, ← findSome?_fault?, t.constants_eq]
  cases t with
  | single r =>
    rw [Tree.toJson, Root.toJson_eq, Node.fault?_toJson, Tree.nodes, List.flatMap_singleton]
  | many rs =>
    rw [Tree.toJson, Except.fault?_map, Except.fault?_mapM, Tree.nodes]
    induction rs with
    | nil => rfl
    | cons r rs ih =>
      rw [List.findSome?_cons, ih, Root.toJson_eq, Node.fault?_toJson, List.flatMap_cons,
        List.findSome?_append]
      cases r.toNode.2.allConstants.findSome? Constant.fault? <;> rfl

/-! ## Words -/

/-- What is written of a constant, unless that has quotes or brackets. -/
def Constant.word? : Constant → Option String
  | .none => some "null"
  | .bool b => some (if b then "true" else "false")
  | .int n => some (toString n)
  | .float x => some (if x.isFinite then x.text Json.floatStyle else "null")
  | .str _ => .none
  | .bytes _ => .none

/-- An array holds the words that its items hold. -/
private theorem wordsUnder_arr_eq_nil {key : String} {items : List Json}
    (h : ∀ j ∈ items, j.wordsUnder key = []) : (Json.arr items).wordsUnder key = [] := by
  rw [Json.wordsUnder, wordsUnderItems_eq, List.flatMap_eq_nil_iff]
  exact h

/-- The document of a constant is written as a word if the constant is, and it holds no members. -/
private theorem Constant.word?_toJson (key : String) {c : Constant} {j : Json}
    (h : c.toJson = .ok j) : j.word? = c.word? ∧ j.wordsUnder key = [] := by
  cases c with
  | none | str s =>
    obtain rfl := Except.ok.inj h
    exact ⟨rfl, rfl⟩
  | bool b =>
    obtain rfl := Except.ok.inj h
    cases b <;> exact ⟨rfl, rfl⟩
  | int n =>
    rw [toJson] at h
    split at h
    · obtain rfl := Except.ok.inj h
      exact ⟨congrArg some (Json.compact_int n), rfl⟩
    · cases h
  | float x =>
    obtain rfl := Except.ok.inj h
    rw [word?]
    split
    · next hx =>
      have hcompact := Json.compact_float x
      rw [if_pos hx] at hcompact
      exact ⟨congrArg some hcompact, rfl⟩
    · exact ⟨rfl, rfl⟩
  | bytes bs =>
    obtain rfl := Except.ok.inj h
    exact ⟨rfl, wordsUnder_arr_eq_nil (List.forall_mem_map.mpr fun _ _ => rfl)⟩

/-- Neither does the document of any other scalar. -/
private theorem Scalar.wordsUnder_toJson? (key : String) {s : Scalar} {v : s.Value} {j : Json}
    (h : s.toJson? v = .ok (some j)) : j.wordsUnder key = [] := by
  cases s with
  | identifier | dottedName | level | conversion =>
    obtain rfl := Option.some.inj (Except.ok.inj h)
    rfl
  | optionalIdentifier | optionalDottedName | optionalText =>
    obtain ⟨text, -, rfl⟩ := Option.map_eq_some_iff.mp (Except.ok.inj h)
    rfl
  | identifiers =>
    obtain rfl := Option.some.inj (Except.ok.inj h)
    exact wordsUnder_arr_eq_nil (List.forall_mem_map.mpr fun _ _ => rfl)
  | constant =>
    obtain ⟨j', hj', heq⟩ := Except.map_eq_ok_iff.mp h
    obtain rfl := Option.some.inj heq
    exact (Constant.word?_toJson key hj').2

/-- A field for a constant is called `value`, and no other field for scalars is. -/
private theorem Kind.name_eq_value_iff {c : Category} (k : Kind c) : ∀ f ∈ k.fields,
    ∀ s, f.content = .scalar s → (f.name = "value" ↔ s = .constant) := by
  cases k <;> simp [fields, functionFields, Field.must, Field.may]

/-- The member of a scalar shows the word of a constant. -/
private theorem Scalar.wordsUnderMembers_toJson? {s : Scalar} {v : s.Value} {name : String}
    (hname : name = "value" ↔ s = .constant) {value : Option Json} (h : s.toJson? v = .ok value) :
    wordsUnderMembers "value" (value.map (name, ·)).toList =
      (s.constants v).filterMap Constant.word? := by
  cases value with
  | none =>
    -- a constant is never left out
    cases s with
    | constant =>
      obtain ⟨j, -, heq⟩ := Except.map_eq_ok_iff.mp h
      cases heq
    | _ => rfl
  | some j =>
    have hmember : wordsUnderMembers "value" [(name, j)] =
        if name = "value" then j.word?.toList else [] := by
      rw [wordsUnderMembers, wordsUnderMembers, wordsUnder_toJson? _ h, List.append_nil,
        List.append_nil]
    rw [Option.map_some, Option.toList_some, hmember]
    cases s with
    | constant =>
      obtain ⟨j', hj', heq⟩ := Except.map_eq_ok_iff.mp h
      obtain rfl := Option.some.inj heq
      rw [if_pos (hname.mpr rfl), (Constant.word?_toJson "value" hj').1, Scalar.constants]
      rw [List.filterMap_cons, List.filterMap_nil]
      cases v.word? <;> rfl
    | _ =>
      rw [if_neg fun heq => by cases hname.mp heq]
      rfl

/-- A member that is no word shows what its value holds. -/
private theorem wordsUnderMembers_singleton {key name : String} {j : Json} (h : j.word? = none) :
    wordsUnderMembers key [(name, j)] = j.wordsUnder key := by
  rw [wordsUnderMembers, wordsUnderMembers, h, List.append_nil]
  split <;> rfl

/-- The members for the class and for the place of a node are not called `value`. -/
private theorem Kind.wordsUnderMembers_tagMembers {c : Category} (k : Kind c) :
    wordsUnderMembers "value" k.tagMembers = [] := by
  rw [tagMembers_eq]
  split <;> rfl

private theorem Category.wordsUnderMembers_placeMembers (c : Category) (place : c.Place) :
    wordsUnderMembers "value" (c.placeMembers place) = [] := by
  rw [placeMembers_eq]
  split
  · rfl
  · next l _ =>
    have hnames : ∀ a ∈ l.attributes, a.1 ≠ "value" := fun a ha =>
      ne_of_mem_of_not_mem (l.names_attributes_sublist.subset (List.mem_map_of_mem ha)) (by decide)
    rw [Location.members_eq]
    generalize l.attributes = parts at hnames ⊢
    induction parts with
    | nil => rfl
    | cons a rest ih =>
      obtain ⟨ha, hrest⟩ := List.forall_mem_cons.mp hnames
      rw [List.map_cons, wordsUnderMembers, if_neg ha, ih hrest]
      rfl

/-- The document of a node is no word. -/
private theorem Node.word?_toJson {c : Category} {n : Node c} {j : Json} (h : n.toJson = .ok j) :
    j.word? = none := by
  cases n with
  | mk k fs place =>
    obtain ⟨members, -, rfl⟩ := Node.toJson_mk_eq_ok_iff.mp h
    rfl

mutual

/-- The words of the document of a node are those of its constants, in order. -/
theorem Node.wordsUnder_toJson : {c : Category} → (n : Node c) → {j : Json} → n.toJson = .ok j →
    j.wordsUnder "value" = n.allConstants.filterMap Constant.word?
  | c, .mk k fs place, _, h => by
    obtain ⟨members, hmembers, rfl⟩ := Node.toJson_mk_eq_ok_iff.mp h
    rw [Json.wordsUnder, wordsUnderMembers_append, wordsUnderMembers_append,
      k.wordsUnderMembers_tagMembers, c.wordsUnderMembers_placeMembers place, List.nil_append,
      List.append_nil, Fields.wordsUnderMembers_members fs k.name_eq_value_iff hmembers,
      Node.allConstants]

theorem Fields.wordsUnderMembers_members : {fs : List Field} → (v : Fields fs) →
    (∀ f ∈ fs, ∀ s, f.content = .scalar s → (f.name = "value" ↔ s = .constant)) →
    {members : List (String × Json)} → v.members = .ok members →
    wordsUnderMembers "value" members = v.allConstants.filterMap Constant.word?
  | _, .nil, _, _, h => by
    obtain rfl := Except.ok.inj h
    rfl
  | f :: _, .cons slot rest, hnames, _, h => by
    obtain ⟨hname, hnames⟩ := List.forall_mem_cons.mp hnames
    obtain ⟨value, others, hvalue, hothers, rfl⟩ := Fields.members_cons_eq_ok_iff.mp h
    rw [wordsUnderMembers_append, Slot.wordsUnderMembers_toJson? slot hname hvalue,
      Fields.wordsUnderMembers_members rest hnames hothers, Fields.allConstants,
      List.filterMap_append]

theorem Slot.wordsUnderMembers_toJson? : {k : Content} → (slot : Slot k) → {name : String} →
    (∀ s, k = .scalar s → (name = "value" ↔ s = .constant)) →
    {value : Option Json} → slot.toJson? = .ok value →
    wordsUnderMembers "value" (value.map (name, ·)).toList =
      slot.allConstants.filterMap Constant.word?
  | _, .node n, _, _, _, h => by
    obtain ⟨j, hj, rfl⟩ := Except.map_eq_ok_iff.mp h
    exact (wordsUnderMembers_singleton (Node.word?_toJson hj)).trans (Node.wordsUnder_toJson n hj)
  | _, .absent, _, _, _, h => by
    obtain rfl := Except.ok.inj h
    rfl
  | _, .present n, _, _, _, h => by
    obtain ⟨j, hj, rfl⟩ := Except.map_eq_ok_iff.mp h
    exact (wordsUnderMembers_singleton (Node.word?_toJson hj)).trans (Node.wordsUnder_toJson n hj)
  | _, .list ns, _, _, _, h => by
    obtain ⟨items, hitems, rfl⟩ := Except.map_eq_ok_iff.mp h
    refine (wordsUnderMembers_singleton rfl).trans ?_
    rw [Json.wordsUnder, Nodes.wordsUnderItems_items ns hitems, Slot.allConstants]
  | .scalar s, .scalar v, _, hname, _, h => Scalar.wordsUnderMembers_toJson? (hname s rfl) h

theorem Nodes.wordsUnderItems_items : {c : Category} → {gaps : Bool} → (ns : Nodes c gaps) →
    {items : List Json} → ns.items = .ok items →
    wordsUnderItems "value" items = ns.allConstants.filterMap Constant.word?
  | _, _, .nil, _, h => by
    obtain rfl := Except.ok.inj h
    rfl
  | _, _, .cons n rest, _, h => by
    obtain ⟨j, hj, h⟩ := Except.bind_eq_ok_iff.mp h
    obtain ⟨items, hitems, h⟩ := Except.bind_eq_ok_iff.mp h
    obtain rfl := Except.ok.inj h
    rw [wordsUnderItems, Node.wordsUnder_toJson n hj, Nodes.wordsUnderItems_items rest hitems,
      Nodes.allConstants, List.filterMap_append]
  | _, _, .gap rest, _, h => by
    obtain ⟨items, hitems, h⟩ := Except.bind_eq_ok_iff.mp h
    obtain rfl := Except.ok.inj h
    rw [wordsUnderItems, Nodes.wordsUnderItems_items rest hitems]
    rfl

end

/-- The words of the document of a tree are those of its constants, in order. -/
theorem Tree.wordsUnder_toJson {t : Tree Root} {j : Json} (h : t.toJson = .ok j) :
    j.wordsUnder "value" = t.constants.filterMap Constant.word? := by
  rw [t.constants_eq]
  cases t with
  | single r =>
    rw [Tree.toJson, Root.toJson_eq] at h
    rw [Node.wordsUnder_toJson _ h, Tree.nodes, List.flatMap_singleton]
  | many rs =>
    obtain ⟨items, hitems, rfl⟩ := Except.map_eq_ok_iff.mp h
    rw [Json.wordsUnder, Tree.nodes]
    clear h
    induction rs generalizing items with
    | nil =>
      obtain rfl := Except.ok.inj hitems
      rfl
    | cons r rs ih =>
      obtain ⟨j, rest, hj, hrest, rfl⟩ := mapM_cons_eq_ok_iff.mp hitems
      rw [Root.toJson_eq] at hj
      rw [wordsUnderItems, Node.wordsUnder_toJson _ hj, ih rest hrest, List.flatMap_cons,
        List.filterMap_append]

/-! ## Texts -/

/-- Which integers have no document. -/
private theorem integerFault?_eq_none_iff {n : ℤ} :
    integerFault? n = none ↔ -2 ^ 127 ≤ n ∧ n < 2 ^ 128 := by
  rw [← fitsDocument_iff, integerFault?]
  split <;> simp [*]

private theorem integerFault?_eq_some_iff {n : ℤ} {e : EncodeError} :
    integerFault? n = some e ↔ (n < -2 ^ 127 ∨ 2 ^ 128 ≤ n) ∧ e = .integerTooWide n := by
  have hwide : (n < -2 ^ 127 ∨ 2 ^ 128 ≤ n) ↔ ¬ fitsDocument n := by
    rw [fitsDocument_iff]
    omega
  rw [hwide, integerFault?]
  split <;> simp [*, eq_comm]

/-- The fault of a tree as JSON is that of its document. -/
private theorem Tree.fault?_serialize_json (t : Tree Root) :
    Except.fault? (Format.json.serialize t) =
      (t.integers.findSome? integerFault?).map fun e => .serialization e.message := by
  rw [← t.fault?_toJson]
  cases hwrite : t.toJson <;> simp [Format.json, hwrite, Except.fault?]

/-- What is named when a tree is not written. -/
private theorem Tree.exists_first_of_serialize_json_eq_error {t : Tree Root} {e : FormatError}
    (h : Format.json.serialize t = .error e) :
    ∃ before n after, t.integers = before ++ n :: after ∧
      (∀ m ∈ before, -2 ^ 127 ≤ m ∧ m < 2 ^ 128) ∧ (n < -2 ^ 127 ∨ 2 ^ 128 ≤ n) ∧
      e = .serialization ("integer constant " ++ toString n ++ " does not fit in 128 bits") := by
  have hfault := t.fault?_serialize_json
  rw [Except.fault?_eq_some_iff.mpr h, eq_comm, Option.map_eq_some_iff] at hfault
  obtain ⟨_, hsome, rfl⟩ := hfault
  -- the integers before the one that is named have no fault of their own
  obtain ⟨before, n, after, hsplit, hn, hbefore⟩ := List.findSome?_eq_some_iff.mp hsome
  obtain ⟨hwide, rfl⟩ := integerFault?_eq_some_iff.mp hn
  exact ⟨before, n, after, hsplit, fun m hm => integerFault?_eq_none_iff.mp (hbefore m hm), hwide,
    rfl⟩

/-- In a tree that is written all integers fit. -/
private theorem Tree.forall_mem_integers_of_serialize_json_eq_ok {t : Tree Root} {text : String}
    (h : Format.json.serialize t = .ok text) : ∀ n ∈ t.integers, -2 ^ 127 ≤ n ∧ n < 2 ^ 128 := by
  have hfault := t.fault?_serialize_json
  rw [Except.fault?_eq_none_iff.mpr ⟨text, h⟩, eq_comm, Option.map_eq_none_iff,
    List.findSome?_eq_none_iff] at hfault
  exact fun n hn => integerFault?_eq_none_iff.mp (hfault n hn)

/-- A tree is not written as JSON if and only if it holds an integer that does not fit into 128
bits, and the first one in the order of its nodes is named then. What is written otherwise shows all
constants in this order, and integers with exactly their decimal digits. -/
theorem Tree.serialize_json_integers (t : Tree Root) :
    ((∃ e, Format.json.serialize t = .error e) ↔ ∃ n ∈ t.integers, n < -2 ^ 127 ∨ 2 ^ 128 ≤ n) ∧
      (∀ e, Format.json.serialize t = .error e → ∃ before n after,
        t.integers = before ++ n :: after ∧ (∀ m ∈ before, -2 ^ 127 ≤ m ∧ m < 2 ^ 128) ∧
          (n < -2 ^ 127 ∨ 2 ^ 128 ≤ n) ∧
          e = .serialization ("integer constant " ++ toString n ++ " does not fit in 128 bits")) ∧
      ∀ text, Format.json.serialize t = .ok text →
        Json.scanWords "value" text = t.constants.filterMap Constant.word? := by
  refine ⟨⟨?_, ?_⟩, fun e he => exists_first_of_serialize_json_eq_error he, fun text htext => ?_⟩
  · rintro ⟨e, he⟩
    obtain ⟨before, n, after, hsplit, -, hwide, -⟩ := exists_first_of_serialize_json_eq_error he
    exact ⟨n, hsplit ▸ List.mem_append_right before List.mem_cons_self, hwide⟩
  · rintro ⟨n, hn, hwide⟩
    cases hserialize : Format.json.serialize t with
    | error e => exact ⟨e, rfl⟩
    | ok text =>
      have hfits := forall_mem_integers_of_serialize_json_eq_ok hserialize n hn
      omega
  · obtain ⟨j, hj, rfl⟩ := Format.serialize_json_eq_ok_iff.mp htext
    rw [Json.scanWords_pretty, Tree.wordsUnder_toJson hj]

/-- The ends of the range are written. Of two integers beyond them the first one is named, which is
below a list here. -/
theorem Tree.serialize_json_integers_at_ends :
    let value (n : ℤ) : Expr := Expr.constant (.int n)
    let ends : Tree Root := .single (.expr (Expr.tuple [value (-2 ^ 127), value (2 ^ 128 - 1)]))
    let beyond : Tree Root := .many [
      .stmt (Stmt.exprStmt (Expr.list [value (2 ^ 128 - 1), value (2 ^ 128)])),
      .expr (value (-2 ^ 127 - 1))]
    (∃ text, Format.json.serialize ends = .ok text ∧ Json.scanWords "value" text =
        ["-170141183460469231731687303715884105728", "340282366920938463463374607431768211455"]) ∧
      Format.json.serialize beyond = .error (.serialization
        ("integer constant " ++ "340282366920938463463374607431768211456" ++
          " does not fit in 128 bits")) := by
  intro value ends beyond
  have hends : ends.integers = [-2 ^ 127, 2 ^ 128 - 1] := rfl
  have hbeyond : beyond.integers = [2 ^ 128 - 1, 2 ^ 128, -2 ^ 127 - 1] := rfl
  constructor
  · obtain ⟨hiff, -, hwords⟩ := Tree.serialize_json_integers ends
    cases hserialize : Format.json.serialize ends with
    | error e =>
      obtain ⟨n, hn, hwide⟩ := hiff.mp ⟨e, hserialize⟩
      simp only [hends, List.mem_cons, List.not_mem_nil, or_false] at hn
      omega
    | ok text =>
      refine ⟨text, rfl, ?_⟩
      rw [hwords text hserialize]
      decide +kernel
  · obtain ⟨hiff, hfirst, -⟩ := Tree.serialize_json_integers beyond
    obtain ⟨e, he⟩ := hiff.mpr ⟨2 ^ 128, by rw [hbeyond]; simp, by omega⟩
    obtain ⟨before, n, after, hsplit, hbefore, hwide, rfl⟩ := hfirst e he
    -- only the second of the three has one before it that fits and does not fit itself
    rw [hbeyond] at hsplit
    have hn : n = 2 ^ 128 := by
      match before, hsplit, hbefore with
      | [], hsplit, _ =>
        obtain rfl := (List.cons.inj hsplit).1
        omega
      | [_], hsplit, _ => exact (List.cons.inj (List.cons.inj hsplit).2).1.symm
      | [_, m], hsplit, hbefore =>
        obtain rfl := (List.cons.inj (List.cons.inj hsplit).2).1
        have hm := hbefore (2 ^ 128) (by simp)
        omega
      | _ :: _ :: _ :: _, hsplit, _ => simp at hsplit
    rw [he, hn]
    decide +kernel

end SyntaxDump
