import Mathlib.Logic.Relation
import SyntaxDump.Proofs.Document.RoundTrip
import SyntaxDump.Proofs.Document.Routing

/-!
# Members that make no difference

A document may say more than a reader needs: members that the grammar does not know, `null` where
something may be absent, and what would be assumed anyway. Such members are idle: wherever an object
stands that describes a node, adding or removing them does not change which tree is loaded, nor
whether one is.

What is idle depends on the class that an object names at its position, as one key can be that of a
list in one class and that of an expression in another, and a location is known only to some.

## Main statements

- `Kind.Idle`: the members that a node of a class does not depend on;
- `Json.Pads`: a document with one more idle member, at any depth;
- `Kind.Idle.readsAlike`, `Json.PadsAt.agree`: what is read with and without the member;
- `Tree.ofJson_eq_ok_iff_of_pads`: documents that differ in idle members describe the same tree.
-/

namespace SyntaxDump

open Json (member?)

/-! ## Idle members -/

/-- A class of any category. -/
abbrev AnyKind := (c : Category) × Kind c

/-- The positions of nodes in a document. -/
inductive Position where
  /-- The document itself, or an item of it. -/
  | top
  /-- Inside another node, where one of the category is expected. -/
  | below (c : Category)

/-- The class that an object names at a position, if it describes a node that may stand there. -/
def Position.class? : Position → List (String × Json) → Option AnyKind
  | .top, members =>
    match member? members "_type" with
    | some (.str name) => Category.topmost.findSome? fun c => (Kind.ofName? c name).map (⟨c, ·⟩)
    | _ => none
  | .below c, members =>
    match Kind.ofMembers true c members with
    | .ok k => some ⟨c, k⟩
    | .error _ => none

/-- Members that a node of the class does not depend on. -/
inductive Kind.Idle {c : Category} (k : Kind c) : String → Json → Prop
  /-- The key is not that of the tag, of a field or of a part of the location. -/
  | unknown {key : String} {j : Json} (htype : key ≠ "_type")
    (hfield : key ∉ k.fields.map Field.name)
    (hpart : c.isLocated → key ∉ Location.partNames) : Idle k key j
  /-- A field that may hold nothing is `null`. -/
  | absent {f : Field} (hf : f ∈ k.fields) (habsent : f.content.canBeAbsent) : Idle k f.name .null
  /-- A part of the location is `null`. -/
  | unplaced {name : String} (hlocated : c.isLocated) (hname : name ∈ Location.partNames) :
    Idle k name .null
  /-- A field that may be left out is what its default is written as, with the members in any
  order. -/
  | default {f : Field} {slot : Slot f.content} {j : Json}
    {arrange : List (String × Json) → List (String × Json)} (hf : f ∈ k.fields)
    (hrequired : f.required = false) (hslot : Slot.default? f.content = some slot)
    (hj : slot.toJson? = .ok (some j)) (harrange : Json.KeepsLookups arrange) :
    Idle k f.name (j.rearrange arrange)

/-- Two objects whose members are the same but for those under a key. -/
def Json.AgreeBut (key : String) (members members' : List (String × Json)) : Prop :=
  ∀ other, other ≠ key → member? members' other = member? members other

/-- Two values of a field that differ in one value that is read as a node of the category. -/
inductive Content.Replaces (c : Category) (a b : Json) : Content → Json → Json → Prop
  | node : Replaces c a b (.node c) a b
  | optional : Replaces c a b (.optional c) a b
  | item {gaps : Bool} {before after : List Json} :
    Replaces c a b (.list c gaps) (.arr (before ++ a :: after)) (.arr (before ++ b :: after))

/-- The second value is the first with one more idle member, in the object at the position or in one
at a position inside it. -/
inductive Json.PadsAt : Position → Json → Json → Prop
  /-- The member is added to the object itself. -/
  | member {p : Position} {members members' : List (String × Json)} {k : AnyKind} {key : String}
    {j : Json} (hk : p.class? members = some k) (hidle : k.2.Idle key j)
    (hnone : member? members key = none) (hsome : member? members' key = some j)
    (hothers : AgreeBut key members members') : PadsAt p (.obj members) (.obj members')
  /-- An object that describes no node at its position may have any members, but no other tag. -/
  | classless {p : Position} {members members' : List (String × Json)} {key : String}
    (hk : p.class? members = none) (htype : key ≠ "_type")
    (hothers : AgreeBut key members members') : PadsAt p (.obj members) (.obj members')
  /-- The member is added inside a field. -/
  | field {p : Position} {members members' : List (String × Json)} {k : AnyKind} {f : Field}
    {c : Category} {a b value value' : Json} (hk : p.class? members = some k) (hf : f ∈ k.2.fields)
    (hvalue : member? members f.name = some value)
    (hvalue' : member? members' f.name = some value')
    (hothers : AgreeBut f.name members members') (hreplaced : f.content.Replaces c a b value value')
    (h : PadsAt (.below c) a b) : PadsAt p (.obj members) (.obj members')
  /-- The member is added inside a field of a node that is given as an array of its fields. -/
  | element {d : Category} {k : Kind d} {f : Field} {before after : List Json} {c : Category}
    {a b value value' : Json} (hk : Kind.only? d = some k) (hf : k.fields[before.length]? = some f)
    (hreplaced : f.content.Replaces c a b value value') (h : PadsAt (.below c) a b) :
    PadsAt (.below d) (.arr (before ++ value :: after)) (.arr (before ++ value' :: after))

/-- The second document is the first with one more idle member, at any depth. -/
inductive Json.Pads : Json → Json → Prop
  | single {v w : Json} (h : PadsAt .top v w) : Pads v w
  | item {before after : List Json} {a b : Json} (h : PadsAt .top a b) :
    Pads (.arr (before ++ a :: after)) (.arr (before ++ b :: after))

/-! ## Values of idle members -/

/-- Where a field may hold nothing, `null` is read as its default. -/
private theorem Slot.ofJson_null {k : Content} (h : k.canBeAbsent) :
    ∃ slot, Slot.default? k = some slot ∧ Slot.ofJson .null k = .ok slot := by
  cases k with
  | node c => cases h
  | optional c => exact ⟨_, rfl, rfl⟩
  | list c gaps => cases h
  | scalar s =>
    cases s
    case optionalIdentifier | optionalDottedName | optionalText => exact ⟨_, rfl, rfl⟩
    all_goals cases h

/-- What a field holds if it is left out can be written. -/
private theorem Slot.allScalars_of_default? {k : Content} {slot : Slot k}
    (h : Slot.default? k = some slot) : slot.AllScalars Scalar.Sound := by
  cases slot with
  | @node c n =>
    cases c
    case context =>
      cases h
      trivial
    case arguments =>
      cases h
      exact ⟨trivial, trivial, trivial, trivial, trivial, trivial, trivial, trivial⟩
    all_goals cases h
  | absent => trivial
  | present n => cases h
  | list ns =>
    cases h
    trivial
  | scalar v =>
    obtain ⟨v', hv', heq⟩ := Option.map_eq_some_iff.mp h
    cases heq
    exact Scalar.sound_of_default? hv'

/-- A default is read from what it is written as, whatever the order of the members. -/
private theorem Slot.ofJson_of_default? {arrange : List (String × Json) → List (String × Json)}
    (harrange : Json.KeepsLookups arrange) {k : Content} {slot : Slot k} {j : Json}
    (hslot : Slot.default? k = some slot) (hj : slot.toJson? = .ok (some j)) :
    Slot.ofJson (j.rearrange arrange) k = .ok slot := by
  obtain ⟨value, hvalue, hread⟩ :=
    Slot.readFrom_toJson? arrange harrange slot (Slot.allScalars_of_default? hslot)
  rw [hj] at hvalue
  obtain rfl := Except.ok.inj hvalue
  exact hread

namespace Kind.Idle

variable {c : Category} {k : Kind c} {key : String} {j : Json}

/-- A tag is not idle. -/
theorem ne_type (h : k.Idle key j) : key ≠ "_type" := by
  cases h with
  | unknown htype _ _ => exact htype
  | absent hf _ => exact k.name_ne_type hf
  | unplaced _ hname =>
    rintro rfl
    exact absurd hname (by decide)
  | default hf _ _ _ _ => exact k.name_ne_type hf

/-- An idle member of a field is read as the default of the field. -/
theorem ofJson_field {f : Field} (h : k.Idle f.name j) (hf : f ∈ k.fields) :
    f.required = false ∧ ∃ slot, Slot.default? f.content = some slot ∧
      Slot.ofJson j f.content = .ok slot := by
  have hname := List.mem_map_of_mem (f := Field.name) hf
  -- the name of the field is the index of `h`, which has to be a variable to be taken apart
  generalize hkey : f.name = key at h hname
  cases h with
  | unknown _ hfield _ => exact absurd hname hfield
  | absent hg habsent =>
    obtain rfl := k.field_eq_of_name_eq hf hg hkey
    exact ⟨k.required_eq_false_of_canBeAbsent f hf habsent, Slot.ofJson_null habsent⟩
  | unplaced _ hpart => exact absurd hpart (k.not_mem_partNames hname)
  | default hg hrequired hslot hj harrange =>
    obtain rfl := k.field_eq_of_name_eq hf hg hkey
    exact ⟨hrequired, _, hslot, Slot.ofJson_of_default? harrange hslot hj⟩

/-- An idle member of a location says that nothing is known of the part. -/
theorem toOption_part (h : k.Idle key j) (hlocated : c.isLocated)
    (hpart : key ∈ Location.partNames) : Json.toOption Json.toWord j = .ok none := by
  have hfield {f : Field} (hf : f ∈ k.fields) : f.name ∉ Location.partNames :=
    k.not_mem_partNames (List.mem_map_of_mem hf)
  cases h with
  | unknown _ _ hnot => exact absurd hpart (hnot hlocated)
  | absent hf _ => exact absurd hpart (hfield hf)
  | unplaced _ _ => rfl
  | default hf _ _ _ _ => exact absurd hpart (hfield hf)

end Kind.Idle

/-! ## Objects -/

/-- The objects give the same values to the fields of a class and to the parts of a location. -/
structure Kind.ReadsAlike {c : Category} (k : Kind c) (members members' : List (String × Json)) :
    Prop where
  fields : ∀ f ∈ k.fields, Except.Agree (f.read (Slot.ofMembers members f.name f.content))
    (f.read (Slot.ofMembers members' f.name f.content))
  parts : c.isLocated → ∀ name ∈ Location.partNames,
    Except.Agree (Location.readPart members name) (Location.readPart members' name)

variable {members members' : List (String × Json)} {key : String}

/-- A field with another name is not affected. -/
private theorem Json.AgreeBut.read_field (h : Json.AgreeBut key members members') {f : Field}
    (hf : f.name ≠ key) : Except.Agree (f.read (Slot.ofMembers members f.name f.content))
      (f.read (Slot.ofMembers members' f.name f.content)) := by
  rw [Slot.ofMembers_eq, Slot.ofMembers_eq, h f.name hf]
  exact .refl _

/-- Nor is a part of a location with another name. -/
private theorem Json.AgreeBut.readPart (h : Json.AgreeBut key members members') {name : String}
    (hname : name ≠ key) :
    Except.Agree (Location.readPart members name) (Location.readPart members' name) := by
  rw [Location.readPart, Location.readPart, h name hname]
  exact .refl _

/-- An idle member does not change what is read. -/
theorem Kind.Idle.readsAlike {c : Category} {k : Kind c} {j : Json} (h : k.Idle key j)
    (hnone : member? members key = none) (hsome : member? members' key = some j)
    (hothers : Json.AgreeBut key members members') : k.ReadsAlike members members' where
  fields f hf := by
    by_cases hkey : f.name = key
    · subst hkey
      obtain ⟨hrequired, slot, hdefault, hread⟩ := h.ofJson_field hf
      rw [Slot.ofMembers_eq, Slot.ofMembers_eq, hnone, hsome]
      intro slot'
      simp [Field.read, hrequired, hdefault, hread]
    · exact hothers.read_field hkey
  parts hlocated name hname := by
    by_cases hkey : name = key
    · subst hkey
      rw [Location.readPart, Location.readPart, hnone, hsome]
      simp only [h.toOption_part hlocated hname]
      exact .refl _
    · exact hothers.readPart hkey

/-- Two values of a field that are read alike. -/
private theorem Kind.readsAlike_of_field {c : Category} {k : Kind c} {f : Field}
    {value value' : Json} (hf : f ∈ k.fields) (hvalue : member? members f.name = some value)
    (hvalue' : member? members' f.name = some value')
    (hothers : Json.AgreeBut f.name members members')
    (h : Except.Agree (Slot.ofJson value f.content) (Slot.ofJson value' f.content)) :
    k.ReadsAlike members members' where
  fields g hg := by
    by_cases hname : g.name = f.name
    · obtain rfl := k.field_eq_of_name_eq hg hf hname
      rw [Slot.ofMembers_eq, Slot.ofMembers_eq, hvalue, hvalue']
      intro slot
      simp [Field.read_eq_ok_iff, h slot]
    · exact hothers.read_field hname
  parts _ name hname := by
    refine hothers.readPart ?_
    rintro rfl
    exact k.not_mem_partNames (List.mem_map_of_mem hf) hname

private theorem Fields.read_agree {fs : List Field}
    (h : ∀ f ∈ fs, Except.Agree (f.read (Slot.ofMembers members f.name f.content))
      (f.read (Slot.ofMembers members' f.name f.content))) :
    Except.Agree (Fields.read (Slot.ofMembers members) fs)
      (Fields.read (Slot.ofMembers members') fs) := by
  induction fs with
  | nil => exact .refl _
  | cons f fs ih =>
    obtain ⟨hf, hfs⟩ := List.forall_mem_cons.mp h
    intro v
    simp only [Fields.read_cons_eq_ok_iff, hf _, ih hfs _]

private theorem Category.readPlace_agree {c : Category}
    (h : c.isLocated → ∀ name ∈ Location.partNames,
      Except.Agree (Location.readPart members name) (Location.readPart members' name)) :
    Except.Agree (c.readPlace members) (c.readPlace members') := by
  -- only the categories with a location look at the parts
  rw [readPlace, readPlace]
  split
  · next hlocated =>
    have hpart := h hlocated
    refine Except.Agree.map ?_ _
    rw [Location.ofMembers, Location.ofMembers]
    refine (hpart "col_offset" (by decide)).bind fun column => ?_
    refine (hpart "end_col_offset" (by decide)).bind fun endColumn => ?_
    refine (hpart "end_lineno" (by decide)).bind fun endLine => ?_
    exact (hpart "lineno" (by decide)).bind fun line => .refl _
  · exact .refl _

/-- Objects with the same tag whose fields and locations are read alike are the same node. -/
theorem Node.ofJson_obj_agree {inside : Bool} {c : Category}
    (htype : member? members' "_type" = member? members "_type")
    (h : ∀ k : Kind c, Kind.ofMembers (c.takesIndex inside) c members = .ok k →
      k.ReadsAlike members members') :
    Except.Agree (Node.ofJson inside (.obj members) c) (Node.ofJson inside (.obj members') c) := by
  have hkind : Kind.ofMembers (c.takesIndex inside) c members' =
      Kind.ofMembers (c.takesIndex inside) c members := by
    rw [Kind.ofMembers, Kind.ofMembers, htype]
  intro n
  -- the class is the same, so the fields and the place of that class are compared
  simp only [Node.ofJson_obj_eq_ok_iff, hkind]
  refine exists_congr fun k => exists_congr fun fields => exists_congr fun place => ?_
  refine and_congr_right fun hk => ?_
  have halike := h k hk
  rw [Fields.read_agree halike.fields fields, Category.readPlace_agree halike.parts place]

/-! ## Positions -/

/-- A member is added inside objects and arrays. -/
private theorem Json.PadsAt.ne_null {p : Position} {a b : Json} (h : PadsAt p a b) :
    a ≠ .null ∧ b ≠ .null := by
  cases h <;> exact ⟨nofun, nofun⟩

/-- At the top members are added inside objects. -/
private theorem Json.PadsAt.exists_obj {a b : Json} (h : PadsAt .top a b) :
    ∃ members members', a = .obj members ∧ b = .obj members' := by
  cases h <;> exact ⟨_, _, rfl, rfl⟩

private theorem Nodes.ofItems_agree {c : Category} {gaps : Bool} {before after : List Json}
    {a b : Json} (ha : a ≠ .null) (hb : b ≠ .null)
    (h : Except.Agree (Node.ofJson true a c) (Node.ofJson true b c)) :
    Except.Agree (Nodes.ofItems (before ++ a :: after) c gaps)
      (Nodes.ofItems (before ++ b :: after) c gaps) := by
  induction before with
  | nil =>
    rw [List.nil_append, List.nil_append, Nodes.ofItems_cons (fun hgap => ha hgap.2),
      Nodes.ofItems_cons (fun hgap => hb hgap.2)]
    exact h.bind fun n => .refl _
  | cons j before ih =>
    -- what stands before is the same in both lists, be it a gap or a node
    by_cases hgap : gaps = true ∧ j = .null
    · obtain ⟨rfl, rfl⟩ := hgap
      exact ih.map _
    · rw [List.cons_append, List.cons_append, Nodes.ofItems_cons hgap, Nodes.ofItems_cons hgap]
      exact Except.Agree.bind (.refl _) fun n => ih.bind fun rest => .refl _

/-- The values of a field agree if the values that they differ in do. -/
private theorem Content.Replaces.agree {c : Category} {a b value value' : Json} {k : Content}
    (h : k.Replaces c a b value value') (ha : a ≠ .null) (hb : b ≠ .null)
    (hab : Except.Agree (Node.ofJson true a c) (Node.ofJson true b c)) :
    Except.Agree (Slot.ofJson value k) (Slot.ofJson value' k) := by
  cases h with
  | node =>
    rw [Slot.ofJson_node, Slot.ofJson_node]
    exact hab.map _
  | optional =>
    rw [Slot.ofJson_optional ha, Slot.ofJson_optional hb]
    exact hab.map _
  | item => exact (Nodes.ofItems_agree ha hb hab).map _

private theorem Fields.ofItems_agree {d : Category} {kind : Kind d} {fs : List Field} {f : Field}
    {index : Nat} {before after : List Json} {value value' : Json}
    (hf : fs[before.length]? = some f)
    (h : Except.Agree (Slot.ofJson value f.content) (Slot.ofJson value' f.content)) :
    Except.Agree (Fields.ofItems kind index (before ++ value :: after) fs)
      (Fields.ofItems kind index (before ++ value' :: after) fs) := by
  induction before generalizing fs index with
  | nil =>
    cases fs with
    | nil => cases hf
    | cons g fs =>
      obtain rfl := Option.some.inj hf
      rw [List.nil_append, List.nil_append, Fields.ofItems_cons, Fields.ofItems_cons]
      exact h.bind fun slot => .refl _
  | cons j before ih =>
    cases fs with
    | nil => cases hf
    | cons g fs =>
      rw [List.cons_append, List.cons_append, Fields.ofItems_cons, Fields.ofItems_cons]
      exact Except.Agree.bind (.refl _) fun slot => (ih hf).bind fun rest => .refl _

/-- Arrays of the fields of a node agree if the values of one field do. -/
private theorem Node.ofJson_arr_agree {inside : Bool} {d : Category} {k : Kind d} {f : Field}
    {before after : List Json} {value value' : Json} (hk : Kind.only? d = some k)
    (hf : k.fields[before.length]? = some f)
    (h : Except.Agree (Slot.ofJson value f.content) (Slot.ofJson value' f.content)) :
    Except.Agree (Node.ofJson inside (.arr (before ++ value :: after)) d)
      (Node.ofJson inside (.arr (before ++ value' :: after)) d) := by
  rw [Node.ofJson.eq_def, Node.ofJson.eq_def]
  simp only [hk, List.length_append, List.length_cons]
  split
  · exact .error _ _
  · exact (Fields.ofItems_agree hf h).bind fun fields => .refl _

/-- The values are read as the same node at the position, or neither is. -/
def Position.Agree (v w : Json) : Position → Prop
  | .top => Except.Agree (Root.ofJson v) (Root.ofJson w)
  | .below c => Except.Agree (Node.ofJson true v c) (Node.ofJson true w c)

/-- A node that is read at the top is of the class that the object names there. -/
private theorem Position.class?_top {name : String} {index : Bool} {c : Category} {k : Kind c}
    (hc : c ∈ Category.topmost) (htag : member? members "_type" = some (.str name))
    (hk : Kind.ofMembers index c members = .ok k) : Position.top.class? members = some ⟨c, k⟩ := by
  rw [Kind.ofMembers_eq_ok_iff hc htag] at hk
  have hname : name ∈ c.topNames := by
    rw [← Kind.isSome_ofName?_iff hc, hk]
    rfl
  -- the categories before have no class of the name
  have hother {d : Category} (hd : d ∈ Category.topmost) (hdc : d ≠ c) :
      Kind.ofName? d name = none := by
    rw [← Option.not_isSome_iff_eq_none, Kind.isSome_ofName?_iff hd]
    exact fun hmem => hdc (Category.eq_of_mem_topNames hmem hname)
  simp only [class?, htag, Category.topmost, List.findSome?_cons]
  rcases Category.eq_of_mem_topmost hc with rfl | rfl | rfl
  · rw [hk]
    rfl
  · rw [hother (d := .mod) (by decide) (by decide), hk]
    rfl
  · rw [hother (d := .mod) (by decide) (by decide), hother (d := .stmt) (by decide) (by decide), hk]
    rfl

/-- Objects with the same tag agree if they are read alike as nodes of the class they name. -/
private theorem Position.agree_obj {p : Position}
    (htype : member? members' "_type" = member? members "_type")
    (h : ∀ k, p.class? members = some k → k.2.ReadsAlike members members') :
    p.Agree (.obj members) (.obj members') := by
  cases p with
  | below c =>
    refine Node.ofJson_obj_agree htype fun k hk => h ⟨c, k⟩ ?_
    have hk : Kind.ofMembers true c members = .ok k := hk
    rw [class?, hk]
  | top =>
    rw [Agree]
    cases htag : member? members "_type" with
    | none =>
      rw [Root.ofJson, Root.ofJson, htype, htag]
      exact .error _ _
    | some tag =>
      cases tag with
      | str name =>
        -- with a name for its tag the object is read by the category of the node that comes out
        intro r
        have hread {ms : List (String × Json)} (hms : member? ms "_type" = some (.str name)) :
            Root.ofJson (.obj ms) = .ok r ↔
              Node.ofJson false (.obj ms) r.toNode.1 = .ok r.toNode.2 :=
          ⟨Root.ofJson_eq_ok, fun h => Root.ofJson_of_isReadFrom hms (Root.isReadFrom_iff.mpr h)⟩
        rw [hread htag, hread (htype.trans htag)]
        refine Node.ofJson_obj_agree htype (fun k hk => h ⟨_, k⟩ ?_) _
        exact class?_top r.category_mem_topmost htag hk
      | _ =>
        rw [Root.ofJson, Root.ofJson, htype, htag]
        exact .error _ _

/-- One more idle member does not change what is read at a position. -/
theorem Json.PadsAt.agree {p : Position} {v w : Json} (h : PadsAt p v w) : p.Agree v w := by
  -- the induction goes from the object with the member outwards
  induction h with
  | member hk hidle hnone hsome hothers =>
    refine Position.agree_obj (hothers _ hidle.ne_type.symm) fun k' hk' => ?_
    rw [hk] at hk'
    obtain rfl := Option.some.inj hk'
    exact hidle.readsAlike hnone hsome hothers
  | classless hk htype hothers =>
    refine Position.agree_obj (hothers _ htype.symm) fun k' hk' => ?_
    rw [hk] at hk'
    cases hk'
  | @field p members members' k f c a b value value' hk hf hvalue hvalue' hothers hreplaced h ih =>
    refine Position.agree_obj (hothers _ (k.2.name_ne_type hf).symm) fun k' hk' => ?_
    rw [hk] at hk'
    obtain rfl := Option.some.inj hk'
    exact Kind.readsAlike_of_field hf hvalue hvalue' hothers
      (hreplaced.agree h.ne_null.1 h.ne_null.2 ih)
  | element hk hf hreplaced h ih =>
    exact Node.ofJson_arr_agree hk hf (hreplaced.agree h.ne_null.1 h.ne_null.2 ih)

/-! ## Documents -/

private theorem Root.ofItems_agree {before after : List Json} {index : Nat} {a b : Json}
    (h : Json.PadsAt .top a b) :
    Except.Agree (Root.ofItems index (before ++ a :: after))
      (Root.ofItems index (before ++ b :: after)) := by
  induction before generalizing index with
  | nil =>
    obtain ⟨members, members', rfl, rfl⟩ := h.exists_obj
    exact (h.agree.mapError _ _).bind fun r => .refl _
  | cons j before ih => exact Except.Agree.bind (.refl _) fun r => ih.bind fun rs => .refl _

/-- One more idle member does not change which tree is loaded. -/
theorem Json.Pads.agree {v w : Json} (h : v.Pads w) :
    Except.Agree (Tree.ofJson v) (Tree.ofJson w) := by
  cases h with
  | single h =>
    obtain ⟨members, members', rfl, rfl⟩ := h.exists_obj
    exact (h.agree.mapError _ _).map _
  | item h => exact (Root.ofItems_agree h).map _

/-- Documents that come from one another by adding and removing idle members, at any depth and any
number of times, describe the same tree, or none of them describes one. -/
theorem Tree.ofJson_eq_ok_iff_of_pads {v w : Json} (h : Relation.EqvGen Json.Pads v w)
    (t : Tree Root) : Tree.ofJson v = .ok t ↔ Tree.ofJson w = .ok t := by
  induction h with
  | rel v w h => exact h.agree t
  | refl v => rfl
  | symm v w _ ih => exact ih.symm
  | trans u v w _ _ hfirst hsecond => exact hfirst.trans hsecond

/-- A statement whose expression has a comment, and one whose expression has a context instead and
whose line is not known. -/
theorem Tree.ofJson_eq_ok_iff_of_pads_exprStmt :
    let name : List (String × Json) := [("_type", .str "Name"), ("id", .str "x")]
    let stmt (value : List (String × Json)) : List (String × Json) :=
      [("_type", .str "Expr"), ("value", .obj value)]
    let v : Json := .obj (stmt (("comment", .int 1) :: name))
    let w : Json :=
      .obj (("lineno", .null) :: stmt (("ctx", .obj [("_type", .str "Load")]) :: name))
    Relation.EqvGen Json.Pads v w ∧
      Tree.ofJson v = .ok (.single (.stmt (Stmt.exprStmt (Expr.name "x")))) ∧
      ∀ t, Tree.ofJson v = .ok t ↔ Tree.ofJson w = .ok t := by
  intro name stmt v w
  have hcons {members : List (String × Json)} {key : String} {j : Json} :
      Json.AgreeBut key members ((key, j) :: members) := fun other hother => by
    rw [Json.member?_cons, if_neg hother.symm]
  -- what is added to the expression is added to the document
  have hinside {a b : List (String × Json)} (h : Json.PadsAt (.below .expr) (.obj a) (.obj b)) :
      Json.Pads (.obj (stmt a)) (.obj (stmt b)) := by
    refine .single (.field (k := ⟨.stmt, .exprStmt⟩) (f := .must "value" (.node .expr)) rfl
      (List.mem_singleton_self _) rfl rfl (fun other hother => ?_) .node h)
    have hvalue : "value" ≠ other := Ne.symm hother
    simp [stmt, Json.member?_cons, hvalue]
  have hcomment : Json.Pads (.obj (stmt name)) v :=
    hinside (.member (k := ⟨.expr, .name⟩) rfl
      (.unknown (by decide) (by decide) fun _ => by decide) rfl rfl hcons)
  have hctx : Json.Pads (.obj (stmt name))
      (.obj (stmt (("ctx", .obj [("_type", .str "Load")]) :: name))) :=
    hinside (.member (k := ⟨.expr, .name⟩) rfl
      (.default (f := .may "ctx" (.node .context)) (List.mem_cons_of_mem _ List.mem_cons_self) rfl
        rfl rfl Json.keepsLookups_id) rfl rfl hcons)
  have hline : Json.Pads (.obj (stmt (("ctx", .obj [("_type", .str "Load")]) :: name))) w :=
    .single (.member (k := ⟨.stmt, .exprStmt⟩) rfl (.unplaced rfl (by decide)) rfl rfl hcons)
  have hedits : Relation.EqvGen Json.Pads v w :=
    .trans _ _ _ (.symm _ _ (.rel _ _ hcomment)) (.trans _ _ _ (.rel _ _ hctx) (.rel _ _ hline))
  exact ⟨hedits, rfl, Tree.ofJson_eq_ok_iff_of_pads hedits⟩

end SyntaxDump
