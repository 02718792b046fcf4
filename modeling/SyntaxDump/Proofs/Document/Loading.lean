import SyntaxDump.Proofs.Document.RoundTrip
import SyntaxDump.Proofs.Format
import SyntaxDump.Proofs.Json.Parts

/-!
# What loading establishes

A tree that was read from a value is valid at every depth: each reader of a scalar checks what its
field asks for, the defaults of fields that are left out pass these checks, and the numbers of the
tree are numbers of the value. Such a tree can be written in every format.

## Main statements

- `Slot.loaded_of_ofJson`: what is read in a field is sound, by induction on the parts of the value;
- `Tree.loaded_of_ofJson`: every node of a tree that was read is sound;
- `Tree.valid_and_serializes_of_ofJson`: the tree is valid, and no format fails on it.
-/

namespace SyntaxDump

/-! ## Scalars -/

/-- A text that is accepted as a name is one. -/
private theorem isIdentifier_of_asIdentifier {s text : String} (h : asIdentifier s = .ok text) :
    Name.isIdentifier text := by
  rw [asIdentifier] at h
  split at h
  · next hname => exact Except.ok.inj h ▸ hname
  · cases h

/-- A text that is accepted as a dotted name is one. -/
private theorem isDotted_of_asDottedName {s text : String} (h : asDottedName s = .ok text) :
    Name.isDotted text := by
  rw [asDottedName] at h
  split at h
  · next hname => exact Except.ok.inj h ▸ hname
  · cases h

/-- In a list of texts that is accepted each text is a name. -/
private theorem isIdentifier_of_asIdentifiers {ss texts : List String}
    (h : asIdentifiers ss = .ok texts) : ∀ text ∈ texts, Name.isIdentifier text := by
  rw [asIdentifiers] at h
  split at h
  · cases h
  · next hnone =>
    obtain rfl := Except.ok.inj h
    intro text htext
    simpa using List.find?_eq_none.mp hnone text htext

/-- A value that may be `null` is absent or read as such. -/
private theorem Json.toOption_eq_ok {α : Type} {read : Json → Except DecodeError α} {j : Json}
    {a : α} (h : j.toOption read = .ok (some a)) : read j = .ok a := by
  cases j with
  | null => cases h
  | _ =>
    obtain ⟨b, hb, heq⟩ := Except.map_eq_ok_iff.mp h
    exact Option.some.inj heq ▸ hb

/-- A constant that was read is within the range of documents if the numbers of the value are. -/
theorem Constant.inRange_of_ofJson {j : Json} {c : Constant} (h : Constant.ofJson j = .ok c)
    (hnumbers : ∀ number ∈ j.numbers, number.InRange) : c.InRange := by
  cases j with
  | int n =>
    obtain rfl := Except.ok.inj h
    exact hnumbers _ List.mem_cons_self
  | float x =>
    obtain rfl := Except.ok.inj h
    exact hnumbers _ List.mem_cons_self
  | arr items =>
    obtain ⟨bs, -, rfl⟩ := Except.map_eq_ok_iff.mp h
    trivial
  | obj members => cases h
  | _ =>
    obtain rfl := Except.ok.inj h
    trivial

/-- A scalar that was read is sound if the numbers of the value are in range. -/
theorem Scalar.sound_of_ofJson {s : Scalar} {j : Json} {v : s.Value} (h : s.ofJson j = .ok v)
    (hnumbers : ∀ number ∈ j.numbers, number.InRange) : s.Sound v := by
  cases s with
  | identifier =>
    obtain ⟨text, -, hname⟩ := Except.bind_eq_ok_iff.mp h
    exact ⟨fun _ => by simpa [Scalar.texts] using isIdentifier_of_asIdentifier hname, nofun, nofun⟩
  | optionalIdentifier =>
    refine ⟨fun _ text htext => ?_, nofun, nofun⟩
    obtain rfl : v = some text := Option.mem_toList.mp htext
    obtain ⟨_, _, hname⟩ := Except.bind_eq_ok_iff.mp (Json.toOption_eq_ok h)
    exact isIdentifier_of_asIdentifier hname
  | identifiers =>
    obtain ⟨items, -, h⟩ := Except.bind_eq_ok_iff.mp h
    obtain ⟨texts, -, hnames⟩ := Except.bind_eq_ok_iff.mp h
    exact ⟨fun _ => isIdentifier_of_asIdentifiers hnames, nofun, nofun⟩
  | dottedName =>
    obtain ⟨text, -, hname⟩ := Except.bind_eq_ok_iff.mp h
    exact ⟨nofun, fun _ => by simpa [Scalar.texts] using isDotted_of_asDottedName hname, nofun⟩
  | optionalDottedName =>
    refine ⟨nofun, fun _ text htext => ?_, nofun⟩
    obtain rfl : v = some text := Option.mem_toList.mp htext
    obtain ⟨_, _, hname⟩ := Except.bind_eq_ok_iff.mp (Json.toOption_eq_ok h)
    exact isDotted_of_asDottedName hname
  | constant =>
    refine ⟨nofun, nofun, ?_⟩
    simpa [Scalar.constants] using Constant.inRange_of_ofJson h hnumbers
  | _ => exact ⟨nofun, nofun, nofun⟩

/-- The defaults of scalars are sound. -/
theorem Scalar.sound_of_default? {s : Scalar} {v : s.Value} (h : s.default? = some v) :
    s.Sound v := by
  cases s with
  | identifier | identifiers | dottedName | constant => cases h
  | _ =>
    -- an absent text, or a number
    obtain rfl := Option.some.inj h
    exact ⟨nofun, nofun, nofun⟩

/-! ## Locations -/

/-- A word is read from the number that it is, which is not cut short. -/
theorem Json.toWord_eq_ok {j : Json} {n : UInt64} (h : j.toWord = .ok n) : j = .int n.toNat := by
  cases j with
  | int m =>
    rw [Json.toWord] at h
    split at h
    · next hfits =>
      obtain rfl := Except.ok.inj h
      -- the number was checked to be a word, so making it one does not wrap around
      obtain ⟨hlow, hhigh⟩ := Width.unsigned_iff.mp hfits
      have hlt : m.toNat < UInt64.size := (Int.toNat_lt hlow).mpr hhigh
      rw [UInt64.toNat_ofNat_of_lt' hlt, Int.toNat_of_nonneg hlow]
    · cases h
  | _ => cases h

/-- A part of a location is a number of the object. -/
private theorem Location.mem_numbers_of_readPart {members : List (String × Json)} {key : String}
    {n : UInt64} (h : Location.readPart members key = .ok (some n)) :
    .int n.toNat ∈ (Json.obj members).numbers := by
  rw [Location.readPart] at h
  split at h
  · cases h
  · next j hj =>
    obtain rfl := Json.toWord_eq_ok (Json.toOption_eq_ok h)
    exact Json.numbers_subset_of_mem_parts (Json.mem_parts_of_member? hj) List.mem_cons_self

/-- The known parts of a location that was read are numbers of the object. -/
theorem Location.mem_numbers_of_ofMembers {members : List (String × Json)} {l : Location}
    (h : Location.ofMembers members = .ok l) :
    ∀ a ∈ l.attributes, .int a.2.toNat ∈ (Json.obj members).numbers := by
  obtain ⟨column, hcolumn, h⟩ := Except.bind_eq_ok_iff.mp h
  obtain ⟨endColumn, hendColumn, h⟩ := Except.bind_eq_ok_iff.mp h
  obtain ⟨endLine, hendLine, h⟩ := Except.bind_eq_ok_iff.mp h
  obtain ⟨line, hline, h⟩ := Except.bind_eq_ok_iff.mp h
  obtain rfl := Except.ok.inj h
  intro a ha
  obtain ⟨⟨name, part⟩, hpart, ha⟩ := List.mem_filterMap.mp ha
  obtain ⟨n, rfl, rfl⟩ := Option.map_eq_some_iff.mp ha
  simp only [List.mem_cons, Prod.mk.injEq, List.not_mem_nil, or_false] at hpart
  -- every part was read from a member of its own
  rcases hpart with ⟨-, rfl⟩ | ⟨-, rfl⟩ | ⟨-, rfl⟩ | ⟨-, rfl⟩
  · exact mem_numbers_of_readPart hline
  · exact mem_numbers_of_readPart hcolumn
  · exact mem_numbers_of_readPart hendLine
  · exact mem_numbers_of_readPart hendColumn

/-! ## Nodes -/

section Loaded

variable (numbers : List Constant)

/-- A node is as readers leave it: its scalars are sound, and the numbers of its location are among
those of the value that was read. -/
structure AnyNode.Loaded (n : AnyNode) : Prop where
  scalars : n.2.fields.OwnScalars Scalar.Sound
  location : ∀ a ∈ n.2.attributes, .int a.2.toNat ∈ numbers

/-- A field is as readers leave it. -/
structure Slot.Loaded {k : Content} (slot : Slot k) : Prop where
  scalar : slot.OwnScalar Scalar.Sound
  nodes : ∀ m ∈ slot.subtrees, m.Loaded numbers

/-- A list of fields is as readers leave it. -/
structure Fields.Loaded {fs : List Field} (v : Fields fs) : Prop where
  scalars : v.OwnScalars Scalar.Sound
  nodes : ∀ m ∈ v.subtrees, m.Loaded numbers

variable {numbers}

theorem Fields.Loaded.nil : (Fields.nil).Loaded numbers := ⟨trivial, nofun⟩

theorem Fields.Loaded.cons {f : Field} {fs : List Field} {slot : Slot f.content} {rest : Fields fs}
    (hslot : slot.Loaded numbers) (hrest : rest.Loaded numbers) :
    (Fields.cons slot rest).Loaded numbers :=
  ⟨⟨hslot.scalar, hrest.scalars⟩, List.forall_mem_append.mpr ⟨hslot.nodes, hrest.nodes⟩⟩

/-- A node is as readers leave it if its fields and its location are. -/
theorem Node.loaded_mk {c : Category} {kind : Kind c} {fields : Fields kind.fields}
    {place : c.Place} (hfields : fields.Loaded numbers)
    (hplace : ∀ a ∈ (Node.mk kind fields place).attributes, .int a.2.toNat ∈ numbers) :
    ∀ m ∈ (Node.mk kind fields place).subtrees, m.Loaded numbers := by
  rw [Node.subtrees, List.forall_mem_cons]
  exact ⟨⟨hfields.scalars, hplace⟩, hfields.nodes⟩

/-- Without a location there are no numbers of one. -/
private theorem Node.attributes_place_unknown {c : Category} (kind : Kind c)
    (fields : Fields kind.fields) :
    (Node.mk kind fields (c.place .unknown)).attributes = [] := by
  cases c <;> rfl

/-- The known parts of the location of a node are numbers of the object that it is read from. -/
private theorem Node.mem_numbers_of_readPlace {members : List (String × Json)} {c : Category}
    {kind : Kind c} {fields : Fields kind.fields} {place : c.Place}
    (h : c.readPlace members = .ok place) :
    ∀ a ∈ (Node.mk kind fields place).attributes, .int a.2.toNat ∈ (Json.obj members).numbers := by
  cases c
  case stmt | expr | arg | keyword | «alias» =>
    obtain ⟨l, hl, rfl⟩ := Except.map_eq_ok_iff.mp h
    exact Location.mem_numbers_of_ofMembers hl
  all_goals exact fun _ ha => absurd ha List.not_mem_nil

/-- The defaults of fields are as readers leave them. -/
theorem Slot.loaded_of_default? {k : Content} {slot : Slot k} (h : Slot.default? k = some slot) :
    slot.Loaded numbers := by
  have hlist {c : Category} {gaps : Bool} :
      (Slot.list (.nil : Nodes c gaps)).Loaded numbers := ⟨trivial, nofun⟩
  have habsent {c : Category} : (Slot.absent (c := c)).Loaded numbers := ⟨trivial, nofun⟩
  cases slot with
  | @node c n =>
    cases c
    -- only contexts and parameter lists have defaults
    case context =>
      cases h
      refine ⟨trivial, ?_⟩
      rw [Slot.subtrees, Node.load]
      exact Node.loaded_mk .nil fun _ ha => absurd ha List.not_mem_nil
    case arguments =>
      cases h
      refine ⟨trivial, ?_⟩
      rw [Slot.subtrees, Node.noArguments]
      refine Node.loaded_mk ?_ fun _ ha => absurd ha List.not_mem_nil
      exact .cons hlist (.cons hlist (.cons habsent (.cons hlist
        (.cons hlist (.cons habsent (.cons hlist .nil))))))
    all_goals cases h
  | absent => exact habsent
  | present n => cases h
  | list ns =>
    cases h
    exact hlist
  | scalar v =>
    obtain ⟨v', hv', heq⟩ := Option.map_eq_some_iff.mp h
    cases heq
    exact ⟨Scalar.sound_of_default? hv', nofun⟩

variable (numbers) in
/-- Whatever field is read from the value is as readers leave it. -/
def Json.ReadsLoaded (j : Json) : Prop :=
  ∀ {k : Content} {slot : Slot k}, Slot.ofJson j k = .ok slot → slot.Loaded numbers

/-- Fields that are read from such values or take their defaults. -/
theorem Fields.loaded_of_readFrom {fs : List Field} {values : List (Option Json)} {v : Fields fs}
    (h : v.ReadFrom values) (hvalues : ∀ j, some j ∈ values → j.ReadsLoaded numbers) :
    v.Loaded numbers := by
  induction h with
  | nil => exact .nil
  | read hslot _ ih =>
    exact .cons (hvalues _ List.mem_cons_self hslot)
      (ih fun j hj => hvalues j (List.mem_cons_of_mem _ hj))
  | default _ hslot _ ih =>
    exact .cons (Slot.loaded_of_default? hslot)
      (ih fun j hj => hvalues j (List.mem_cons_of_mem _ hj))

/-- The nodes of a list. -/
theorem Nodes.loaded_of_ofItems {c : Category} {gaps : Bool} {items : List Json}
    {ns : Nodes c gaps} (hitems : ∀ j ∈ items, j.ReadsLoaded numbers)
    (h : Nodes.ofItems items c gaps = .ok ns) : ∀ m ∈ ns.subtrees, m.Loaded numbers := by
  induction items generalizing ns with
  | nil =>
    rw [Nodes.ofItems] at h
    obtain rfl := Except.ok.inj h
    exact fun m hm => absurd hm List.not_mem_nil
  | cons j items ih =>
    have hrest : ∀ part ∈ items, part.ReadsLoaded numbers :=
      fun part hpart => hitems part (List.mem_cons_of_mem j hpart)
    rcases Nodes.ofItems_cons_eq_ok h with ⟨hgaps, rest, -, hread, hns⟩ | ⟨n, rest, hn, hread, rfl⟩
    · subst hgaps hns
      have hbelow : ∀ m ∈ rest.subtrees, m.Loaded numbers := ih hrest hread
      exact hbelow
    · -- an item is read like a field that holds a node
      have hnode : (Slot.node n).Loaded numbers := by
        refine hitems j List.mem_cons_self ?_
        rw [Slot.ofJson_node, hn]
        rfl
      exact List.forall_mem_append.mpr ⟨hnode.nodes, ih hrest hread⟩

/-- A node is as readers leave it if whatever is read from the parts of its value is. -/
theorem Node.loaded_of_parts {inside : Bool} {j : Json} {c : Category} {n : Node c}
    (hparts : ∀ part ∈ j.parts, part.ReadsLoaded numbers) (hnumbers : j.numbers ⊆ numbers)
    (h : Node.ofJson inside j c = .ok n) : ∀ m ∈ n.subtrees, m.Loaded numbers := by
  have hfields : n.fields.Loaded numbers :=
    Fields.loaded_of_readFrom (Node.readFrom_of_ofJson h) fun part hpart =>
      hparts part (Json.mem_parts_of_mem_fieldValues hpart)
  rcases Node.ofJson_eq_ok_cases h with ⟨members, rfl⟩ | ⟨items, rfl⟩
  · obtain ⟨kind, fields, place, -, -, hplace, rfl⟩ := Node.ofJson_obj_eq_ok_iff.mp h
    exact Node.loaded_mk hfields fun a ha => hnumbers (Node.mem_numbers_of_readPlace hplace a ha)
  · obtain ⟨kind, fields, -, -, -, -, rfl⟩ := Node.ofJson_arr_eq_ok h
    refine Node.loaded_mk hfields ?_
    -- an array has no members for a location
    rw [Node.attributes_place_unknown]
    nofun

/-- What is read in a field is sound, and its locations are those of the value. The induction is on
the parts of the value; the numbers that may occur stay the same all the way down. -/
theorem Slot.loaded_of_ofJson (hrange : ∀ number ∈ numbers, number.InRange) (j : Json)
    (hnumbers : j.numbers ⊆ numbers) : j.ReadsLoaded numbers := by
  induction j using Json.induction_on_parts with
  | step j ih =>
    have hparts : ∀ part ∈ j.parts, part.ReadsLoaded numbers := fun part hpart =>
      ih part hpart fun _ hmem => hnumbers (Json.numbers_subset_of_mem_parts hpart hmem)
    intro k slot h
    -- the readers of nodes and lists go down to the parts, that of scalars checks what it reads
    cases k with
    | node c =>
      rw [Slot.ofJson_node] at h
      obtain ⟨n, hn, rfl⟩ := Except.map_eq_ok_iff.mp h
      exact ⟨trivial, Node.loaded_of_parts hparts hnumbers hn⟩
    | optional c =>
      rcases Slot.ofJson_optional_eq_ok h with ⟨-, rfl⟩ | ⟨n, hn, rfl⟩
      · exact ⟨trivial, nofun⟩
      · exact ⟨trivial, Node.loaded_of_parts hparts hnumbers hn⟩
    | list c gaps =>
      obtain ⟨items, ns, rfl, hns, rfl⟩ := Slot.ofJson_list_eq_ok h
      exact ⟨trivial, Nodes.loaded_of_ofItems hparts hns⟩
    | scalar s =>
      rw [Slot.ofJson_scalar] at h
      obtain ⟨v, hv, rfl⟩ := Except.map_eq_ok_iff.mp h
      exact ⟨Scalar.sound_of_ofJson hv fun number hmem => hrange number (hnumbers hmem), nofun⟩

end Loaded

/-! ## Trees -/

/-- A node at the top is read as a node of the category to which its class belongs. -/
theorem Root.ofJson_eq_ok {j : Json} {r : Root} (h : Root.ofJson j = .ok r) :
    Node.ofJson false j r.toNode.1 = .ok r.toNode.2 := by
  have hread {c : Category} {toRoot : Node c → Root} {inNode : DecodeError → DecodeError}
      (h : ((Node.ofJson false j c).map toRoot).mapError inNode = .ok r) :
      ∃ n, Node.ofJson false j c = .ok n ∧ toRoot n = r :=
    Except.map_eq_ok_iff.mp (Except.mapError_eq_ok_iff.mp h)
  cases j with
  | obj members =>
    rw [Root.ofJson] at h
    split at h
    · cases h
    · next name _ =>
      -- whichever category has the class, its reader was used
      rw [Root.ofClass] at h
      split at h
      · obtain ⟨n, hn, rfl⟩ := hread h
        exact hn
      split at h
      · obtain ⟨n, hn, rfl⟩ := hread h
        exact hn
      split at h
      · obtain ⟨n, hn, rfl⟩ := hread h
        exact hn
      · cases h
    · cases h
  | _ => cases h

/-- A node at the top of a tree is as readers leave it. -/
theorem Root.loaded_of_ofJson {j : Json} {numbers : List Constant} {r : Root}
    (hrange : ∀ number ∈ numbers, number.InRange) (hnumbers : j.numbers ⊆ numbers)
    (h : Root.ofJson j = .ok r) : ∀ m ∈ r.subtrees, m.Loaded numbers := by
  refine Node.loaded_of_parts (fun part hpart => ?_) hnumbers (Root.ofJson_eq_ok h)
  exact Slot.loaded_of_ofJson hrange part fun _ hmem =>
    hnumbers (Json.numbers_subset_of_mem_parts hpart hmem)

/-- The nodes of a sequence are read one by one, each from an item of the array. -/
theorem Root.exists_of_mem_ofItems {index : Nat} {items : List Json} {rs : List Root}
    (h : Root.ofItems index items = .ok rs) : ∀ r ∈ rs, ∃ j ∈ items, Root.ofJson j = .ok r := by
  induction items generalizing index rs with
  | nil =>
    obtain rfl := Except.ok.inj h
    nofun
  | cons j items ih =>
    obtain ⟨first, hfirst, h⟩ := Except.bind_eq_ok_iff.mp h
    obtain ⟨rest, hrest, h⟩ := Except.bind_eq_ok_iff.mp h
    obtain rfl := Except.ok.inj h
    intro r hr
    rcases List.mem_cons.mp hr with rfl | hmem
    · refine ⟨j, List.mem_cons_self, ?_⟩
      cases j with
      | obj members => exact Except.mapError_eq_ok_iff.mp hfirst
      | _ => cases hfirst
    · obtain ⟨j', hj', hread⟩ := ih hrest r hmem
      exact ⟨j', List.mem_cons_of_mem j hj', hread⟩

/-- Every node of a tree that was read is sound, and its location is that of the document. -/
theorem Tree.loaded_of_ofJson {v : Json} {t : Tree Root}
    (hrange : ∀ number ∈ v.numbers, number.InRange) (h : Tree.ofJson v = .ok t) :
    ∀ n ∈ t.subtrees, n.Loaded v.numbers := by
  intro n hn
  -- each root is read from the whole value or from an item of it
  obtain ⟨r, hr, hbelow⟩ := List.mem_flatMap.mp hn
  cases v with
  | obj members =>
    obtain ⟨r', hread, rfl⟩ := Except.map_eq_ok_iff.mp h
    obtain rfl := List.mem_singleton.mp hr
    exact Root.loaded_of_ofJson hrange (fun _ h => h) (Except.mapError_eq_ok_iff.mp hread) n hbelow
  | arr items =>
    obtain ⟨rs, hread, rfl⟩ := Except.map_eq_ok_iff.mp h
    obtain ⟨j, hj, hread⟩ := Root.exists_of_mem_ofItems hread r hr
    exact Root.loaded_of_ofJson hrange
      (Json.numbers_subset_of_mem_parts (j := .arr items) hj) hread n hbelow
  | _ => cases h

/-! ## Formats -/

/-- No format fails on a valid tree. -/
theorem Tree.exists_serialize_eq_ok {t : Tree Root} (h : t.Valid) (options : DumpOptions) :
    ∀ name ∈ ["dump", "json", "treeviz"],
      ∃ text, (Registry.withOptions options).serialize t name = .ok text := by
  -- only the format of documents can fail, and a valid tree has a document
  obtain ⟨j, hj, -⟩ := Tree.ofJson_rearrange_toJson id Json.keepsLookups_id t h
  simp only [List.mem_cons, List.not_mem_nil, or_false]
  rintro name (rfl | rfl | rfl)
  · exact ⟨_, by rw [Registry.serialize, Registry.get?_withOptions]; rfl⟩
  · refine ⟨j.pretty, ?_⟩
    rw [Registry.serialize, Registry.get?_withOptions]
    simp [Format.json, hj]
  · exact ⟨_, by rw [Registry.serialize, Registry.get?_withOptions]; rfl⟩

/-- Loading establishes validity: if a tree was read from a value whose numbers are integers of 64
bits and finite floats, each of its nodes is valid, the parts of the locations are numbers of the
value and fit into 64 bits, and every format turns the tree into text. -/
theorem Tree.valid_and_serializes_of_ofJson {v : Json} {t : Tree Root}
    (hrange : ∀ number ∈ v.numbers, number.InRange) (h : Tree.ofJson v = .ok t) :
    (∀ n ∈ t.subtrees, n.Valid ∧
      ∀ a ∈ n.2.attributes, .int a.2.toNat ∈ v.numbers ∧ a.2.toNat < 2 ^ 64) ∧
    ∀ options, ∀ name ∈ ["dump", "json", "treeviz"],
      ∃ text, (Registry.withOptions options).serialize t name = .ok text := by
  have hloaded := Tree.loaded_of_ofJson hrange h
  have hvalid : t.Valid := fun n hn => (AnyNode.valid_iff n).mpr (hloaded n hn).scalars
  refine ⟨fun n hn => ⟨hvalid n hn, fun a ha => ?_⟩, Tree.exists_serialize_eq_ok hvalid⟩
  exact ⟨(hloaded n hn).location a ha, a.2.toNat_lt⟩

/-- A sequence with a list of names, the greatest integer and a node whose line is known. -/
theorem Tree.valid_and_serializes_sequence :
    let v : Json := .arr
      [.obj [("_type", .str "Global"), ("names", .arr [.str "x", .str "y"])],
        .obj [("_type", .str "Constant"), ("value", .int (2 ^ 64 - 1)), ("lineno", .int 3)]]
    let t : Tree Root := .many
      [.stmt (Stmt.globalNames ["x", "y"]),
        .expr ((Expr.constant (.int (2 ^ 64 - 1))).at_ ⟨some 3, none, none, none⟩)]
    (∀ number ∈ v.numbers, number.InRange) ∧ Tree.ofJson v = .ok t ∧
      (∀ n ∈ t.subtrees, n.Valid ∧
        ∀ a ∈ n.2.attributes, .int a.2.toNat ∈ v.numbers ∧ a.2.toNat < 2 ^ 64) ∧
      ∀ options, ∀ name ∈ ["dump", "json", "treeviz"],
        ∃ text, (Registry.withOptions options).serialize t name = .ok text := by
  intro v t
  have hrange : ∀ number ∈ v.numbers, number.InRange := by decide +kernel
  have hread : Tree.ofJson v = .ok t := rfl
  exact ⟨hrange, hread, Tree.valid_and_serializes_of_ofJson hrange hread⟩

end SyntaxDump
