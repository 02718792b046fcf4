import SyntaxDump.Build
import SyntaxDump.Document.Load
import SyntaxDump.Proofs.Document.Decode
import SyntaxDump.Proofs.Document.Encode
import SyntaxDump.Proofs.Validity

/-!
# Reading what was written

A valid tree is written as a value, and from this value the same tree is read: the same nodes at
the same places, floats with the same bits, a single node or a sequence as before. The value may
list the members of its objects in any order that lookups do not notice, in particular in the order
of keys, in which readers of texts hand them over.

## Main statements

- `Scalar.readFrom_toJson?`, `Location.ofMembers_eq_ok`: scalars and locations are read back;
- `Node.ofJson_toJson`: so are nodes, by recursion over the tree;
- `Tree.ofJson_toJson_of_valid`: so are trees.
-/

namespace SyntaxDump

open Json (member? keys rearrange rearrangeMembers rearrangeItems KeepsLookups)

/-! ## Numbers -/

/-- A word is read back. -/
theorem Json.toWord_toNat (n : UInt64) : Json.toWord (.int n.toNat) = .ok n := by
  have hfits : Width.unsigned 64 n.toNat = true := by
    rw [Width.unsigned_iff]
    exact ⟨Int.natCast_nonneg _, Int.ofNat_lt.mpr n.toNat_lt⟩
  simp [Json.toWord, hfits]

/-- An integer of 64 bits is read back. -/
theorem Json.toInteger_toInt (n : Int64) : Json.toInteger (.int n.toInt) = .ok n := by
  have hfits : Width.signed 64 n.toInt = true := by
    rw [Width.signed_iff]
    exact ⟨n.le_toInt, n.toInt_lt⟩
  simp [Json.toInteger, hfits]

/-- A byte is read back. -/
theorem Json.toByte_toNat (b : UInt8) : Json.toByte (.int b.toNat) = .ok b := by
  have hlt := b.toNat_lt
  have hfits : (0 : Int) ≤ b.toNat ∧ (b.toNat : Int) < 256 := by omega
  simp [Json.toByte, hfits]

/-- The integers that fit into documents: the ranges of the widths leave no gap between them. -/
theorem fitsDocument_iff {n : Int} : fitsDocument n ↔ -2 ^ 127 ≤ n ∧ n < 2 ^ 128 := by
  simp only [fitsDocument, Bool.or_eq_true, Width.signed_iff, Width.unsigned_iff, Width.values,
    Nat.pow_eq]
  omega

/-- Integers of 64 bits fit into documents. -/
theorem fitsDocument_of_inRange {n : Int} (h : (Constant.int n).InRange) : fitsDocument n := by
  obtain ⟨hlow, hhigh⟩ := h
  rw [fitsDocument_iff]
  omega

/-! ## Scalars -/

variable (arrange : List (String × Json) → List (String × Json))

/-- What a field is written as, and what is made of it when it is read: a value from which the
field is read, or nothing where the field may be left out and takes its default. -/
def Slot.ReadFrom {k : Content} (slot : Slot k) : Option Json → Prop
  | some j => Slot.ofJson (j.rearrange arrange) k = .ok slot
  | none => k.canBeAbsent ∧ Slot.default? k = some slot

/-- Texts in an array are read back. -/
private theorem mapM_toText_map_str (ss : List String) :
    (ss.map Json.str).mapM Json.toText = .ok ss :=
  mapM_map_eq_ok fun _ _ => rfl

private theorem rearrangeItems_map_str (ss : List String) :
    rearrangeItems arrange (ss.map Json.str) = ss.map .str := by
  rw [Json.rearrangeItems_eq_map, List.map_map]
  exact List.map_congr_left fun s _ => by rw [Function.comp, rearrange]

/-- A constant within the range of documents is read back. -/
theorem Constant.ofJson_toJson (c : Constant) (h : c.InRange) :
    ∃ j, c.toJson = .ok j ∧ Constant.ofJson (j.rearrange arrange) = .ok c := by
  cases c with
  | none => exact ⟨_, rfl, rfl⟩
  | bool b => exact ⟨_, rfl, rfl⟩
  | int n => exact ⟨.int n, if_pos (fitsDocument_of_inRange h), rfl⟩
  | float x =>
    have hx : x.isFinite = true := h
    exact ⟨.float x, by rw [Constant.toJson, if_pos hx], rfl⟩
  | str s => exact ⟨_, rfl, rfl⟩
  | bytes bs =>
    refine ⟨_, rfl, ?_⟩
    -- numbers have no members to rearrange
    have hitems : rearrangeItems arrange (bs.map fun b => .int b.toNat) =
        bs.map fun b => .int b.toNat := by
      rw [Json.rearrangeItems_eq_map, List.map_map]
      exact List.map_congr_left fun b _ => by rw [Function.comp, rearrange]
    rw [rearrange, hitems, Constant.ofJson, mapM_map_eq_ok fun b _ => Json.toByte_toNat b]
    rfl

private theorem asIdentifier_eq_ok {s : String} (h : Name.isIdentifier s) :
    asIdentifier s = .ok s := if_pos h

private theorem asDottedName_eq_ok {s : String} (h : Name.isDotted s) :
    asDottedName s = .ok s := if_pos h

private theorem asIdentifiers_eq_ok {ss : List String} (h : ∀ s ∈ ss, Name.isIdentifier s) :
    asIdentifiers ss = .ok ss := by
  have hnone : ss.find? (!Name.isIdentifier ·) = none := by
    rw [List.find?_eq_none]
    intro s hs
    simp [h s hs]
  rw [asIdentifiers, hnone]

/-- A sound scalar is read back. -/
theorem Scalar.readFrom_toJson? (s : Scalar) (v : s.Value) (h : s.Sound v) :
    ∃ value, s.toJson? v = .ok value ∧ (Slot.scalar v).ReadFrom arrange value := by
  cases s with
  | identifier =>
    have hname := h.identifiers rfl v List.mem_cons_self
    refine ⟨_, rfl, ?_⟩
    rw [Slot.ReadFrom, rearrange, Slot.ofJson_scalar]
    exact Except.map_eq_ok_iff.mpr ⟨v, asIdentifier_eq_ok hname, rfl⟩
  | optionalIdentifier =>
    cases v with
    | none => exact ⟨_, rfl, rfl, rfl⟩
    | some text =>
      have hname := h.identifiers rfl text List.mem_cons_self
      refine ⟨_, rfl, ?_⟩
      rw [Option.map_some, Slot.ReadFrom, rearrange, Slot.ofJson_scalar]
      exact Except.map_eq_ok_iff.mpr
        ⟨some text, Except.map_eq_ok_iff.mpr ⟨text, asIdentifier_eq_ok hname, rfl⟩, rfl⟩
  | identifiers =>
    have hnames := h.identifiers rfl
    refine ⟨_, rfl, ?_⟩
    rw [Slot.ReadFrom, rearrange, rearrangeItems_map_str, Slot.ofJson_scalar]
    refine Except.map_eq_ok_iff.mpr ⟨v, ?_, rfl⟩
    refine Except.bind_eq_ok_iff.mpr ⟨_, rfl, ?_⟩
    exact Except.bind_eq_ok_iff.mpr ⟨v, mapM_toText_map_str v, asIdentifiers_eq_ok hnames⟩
  | dottedName =>
    have hname := h.dottedNames rfl v List.mem_cons_self
    refine ⟨_, rfl, ?_⟩
    rw [Slot.ReadFrom, rearrange, Slot.ofJson_scalar]
    exact Except.map_eq_ok_iff.mpr ⟨v, asDottedName_eq_ok hname, rfl⟩
  | optionalDottedName =>
    cases v with
    | none => exact ⟨_, rfl, rfl, rfl⟩
    | some text =>
      have hname := h.dottedNames rfl text List.mem_cons_self
      refine ⟨_, rfl, ?_⟩
      rw [Option.map_some, Slot.ReadFrom, rearrange, Slot.ofJson_scalar]
      exact Except.map_eq_ok_iff.mpr
        ⟨some text, Except.map_eq_ok_iff.mpr ⟨text, asDottedName_eq_ok hname, rfl⟩, rfl⟩
  | constant =>
    obtain ⟨j, hj, hread⟩ := Constant.ofJson_toJson arrange v
      (h.constants v List.mem_cons_self)
    refine ⟨some j, Except.map_eq_ok_iff.mpr ⟨j, hj, rfl⟩, ?_⟩
    rw [Slot.ReadFrom, Slot.ofJson_scalar]
    exact Except.map_eq_ok_iff.mpr ⟨v, hread, rfl⟩
  | optionalText =>
    cases v with
    | none => exact ⟨_, rfl, rfl, rfl⟩
    | some text => exact ⟨_, rfl, rfl⟩
  | level =>
    refine ⟨_, rfl, ?_⟩
    rw [Slot.ReadFrom, rearrange, Slot.ofJson_scalar]
    exact Except.map_eq_ok_iff.mpr ⟨v, Json.toWord_toNat v, rfl⟩
  | conversion =>
    refine ⟨_, rfl, ?_⟩
    rw [Slot.ReadFrom, rearrange, Slot.ofJson_scalar]
    exact Except.map_eq_ok_iff.mpr ⟨v, Json.toInteger_toInt v, rfl⟩

/-! ## Locations -/

/-- A part of a location is read back. -/
private theorem Location.readPart_eq_ok {members : List (String × Json)} {key : String}
    {part : Option UInt64}
    (h : member? members key = (part.map fun n => .int n.toNat).map (rearrange arrange)) :
    Location.readPart members key = .ok part := by
  rw [Location.readPart, h]
  cases part with
  | none => rfl
  | some n =>
    simp only [Option.map_some, rearrange, Json.toOption, Json.toWord_toNat]
    rfl

/-- A location is read back from any members among which its parts are found. -/
theorem Location.ofMembers_eq_ok {members : List (String × Json)} (l : Location)
    (h : ∀ key ∈ partNames, member? members key =
      (member? l.members key).map (rearrange arrange)) :
    Location.ofMembers members = .ok l := by
  -- the reader asks for the parts in another order than the writer lists them
  have hpart (key : String) (hkey : key ∈ partNames) :
      Location.readPart members key = .ok (l.attributes.lookup key) :=
    Location.readPart_eq_ok arrange (l.member?_members key ▸ h key hkey)
  obtain ⟨hline, hcolumn, hendLine, hendColumn⟩ := l.lookup_attributes
  rw [Location.ofMembers, hpart "col_offset" (by decide), hpart "end_col_offset" (by decide),
    hpart "end_lineno" (by decide), hpart "lineno" (by decide), hline, hcolumn, hendLine,
    hendColumn]
  rfl

/-- The place of a node is read back from any members among which its parts are found. -/
theorem Category.readPlace_eq_ok {c : Category} {members : List (String × Json)} (place : c.Place)
    (h : ∀ key ∈ Location.partNames, member? members key =
      (member? (c.placeMembers place) key).map (rearrange arrange)) :
    c.readPlace members = .ok place := by
  cases c
  case stmt | expr | arg | keyword | «alias» =>
    exact Except.map_eq_ok_iff.mpr ⟨place, Location.ofMembers_eq_ok arrange place h, rfl⟩
  all_goals rfl

/-! ## Nodes -/

/-- The class of a node is read back from any members among which its name is found. -/
theorem Kind.ofMembers_eq_ok {c : Category} (k : Kind c) (index : Bool)
    {members : List (String × Json)}
    (h : member? members "_type" = (member? k.tagMembers "_type").map (rearrange arrange)) :
    Kind.ofMembers index c members = .ok k := by
  cases honly : Kind.only? c with
  | some k' =>
    have hk : Kind.only? c = some k := Kind.only?_eq_some (by rw [honly]; rfl)
    rw [Kind.ofMembers, hk]
  | none =>
    have htag : member? members "_type" = some (.str k.className) := by
      rw [h, Kind.tagMembers_eq, honly]
      rfl
    simp only [Kind.ofMembers, honly, htag, Kind.ofTag, Kind.ofName?_className]

/-- A member of the document of a node is found among the rearranged members. -/
private theorem Node.member?_arranged (harrange : KeepsLookups arrange) {c : Category} {k : Kind c}
    {fs : Fields k.fields} {members : List (String × Json)} (hmembers : fs.members = .ok members)
    (place : c.Place) (key : String) :
    member? (arrange (rearrangeMembers arrange
      (k.tagMembers ++ members ++ c.placeMembers place))) key =
    (member? (k.tagMembers ++ members ++ c.placeMembers place) key).map (rearrange arrange) := by
  have hnodup : (keys (rearrangeMembers arrange
      (k.tagMembers ++ members ++ c.placeMembers place))).Nodup := by
    rw [Json.keys_rearrangeMembers]
    exact Node.keys_nodup hmembers place
  rw [harrange _ hnodup key, Json.member?_rearrangeMembers]

mutual

/-- A tree whose scalars are sound is written as an object and read back from it, also after its
members have been rearranged. -/
theorem Node.ofJson_toJson (harrange : KeepsLookups arrange) (inside : Bool) :
    {c : Category} → (n : Node c) → n.AllScalars Scalar.Sound →
    ∃ members, n.toJson = .ok (.obj members) ∧
      Node.ofJson inside (rearrange arrange (.obj members)) c = .ok n
  | c, .mk k fs place, h => by
    obtain ⟨members, hmembers, hread⟩ := Fields.read_members harrange fs h
      k.fieldNames_nodup k.required_eq_false_of_canBeAbsent
    refine ⟨_, Node.toJson_mk_eq_ok_iff.mpr ⟨members, hmembers, rfl⟩, ?_⟩
    -- class, fields and place are looked up in one object, each among its own members
    have hlookup := Node.member?_arranged arrange harrange hmembers place
    rw [rearrange, Node.ofJson_obj_eq_ok_iff]
    refine ⟨k, fs, place, ?_, ?_, ?_, rfl⟩
    · exact k.ofMembers_eq_ok arrange _
        ((hlookup _).trans (by rw [Node.member?_type hmembers]))
    · exact hread _ fun f hf => (hlookup _).trans (by rw [Node.member?_field place hf])
    · exact c.readPlace_eq_ok arrange place fun key hkey =>
        (hlookup _).trans (by rw [Node.member?_part hmembers place hkey])

/-- The fields of a node are read back from any members among which their own are found. -/
theorem Fields.read_members (harrange : KeepsLookups arrange) :
    {fs : List Field} → (v : Fields fs) → v.AllScalars Scalar.Sound →
    (fs.map Field.name).Nodup → (∀ f ∈ fs, f.content.canBeAbsent → f.required = false) →
    ∃ members, v.members = .ok members ∧
      ∀ all, (∀ f ∈ fs, member? all f.name = (member? members f.name).map (rearrange arrange)) →
        Fields.read (Slot.ofMembers all) fs = .ok v
  | [], .nil, _, _, _ => ⟨[], rfl, fun _ _ => rfl⟩
  | f :: fs, .cons slot rest, h, hnodup, habsent => by
    obtain ⟨hslot, hrest⟩ := h
    obtain ⟨hname, hnodup⟩ := List.nodup_cons.mp hnodup
    obtain ⟨value, hvalue, hreadSlot⟩ := Slot.readFrom_toJson? harrange slot hslot
    obtain ⟨members, hmembers, hread⟩ := Fields.read_members harrange rest hrest hnodup
      fun g hg => habsent g (List.mem_cons_of_mem f hg)
    -- the name of the field is not taken by another one
    have hnone : member? members f.name = none :=
      Json.member?_eq_none_iff.mpr fun hmem => hname ((rest.keys_members hmembers).mem hmem)
    cases value with
    | none =>
      -- what was left out is not required and is its own default
      obtain ⟨habsent', hdefault⟩ := hreadSlot
      refine ⟨members, ?_, fun all hall => ?_⟩
      · exact Fields.members_cons_eq_ok_iff.mpr ⟨none, members, hvalue, hmembers, rfl⟩
      · have hf : member? all f.name = none := by rw [hall f List.mem_cons_self, hnone]; rfl
        refine Fields.read_cons_eq_ok_iff.mpr ⟨slot, rest, ?_, ?_, rfl⟩
        · rw [Slot.ofMembers_eq, hf]
          exact Field.read_eq_ok_iff.mpr
            (.inr ⟨rfl, habsent f List.mem_cons_self habsent', hdefault⟩)
        · exact hread all fun g hg => hall g (List.mem_cons_of_mem f hg)
    | some j =>
      refine ⟨(f.name, j) :: members, ?_, fun all hall => ?_⟩
      · exact Fields.members_cons_eq_ok_iff.mpr ⟨some j, members, hvalue, hmembers, rfl⟩
      · have hf : member? all f.name = some (rearrange arrange j) := by
          rw [hall f List.mem_cons_self, Json.member?_cons, if_pos rfl]
          rfl
        refine Fields.read_cons_eq_ok_iff.mpr ⟨slot, rest, ?_, ?_, rfl⟩
        · rw [Slot.ofMembers_eq, hf]
          exact Field.read_eq_ok_iff.mpr (.inl (congrArg some hreadSlot))
        · refine hread all fun g hg => ?_
          have hne : ¬ f.name = g.name := fun heq => hname (heq ▸ List.mem_map_of_mem hg)
          rw [hall g (List.mem_cons_of_mem f hg), Json.member?_cons, if_neg hne]

/-- A field is written and read back. -/
theorem Slot.readFrom_toJson? (harrange : KeepsLookups arrange) :
    {k : Content} → (slot : Slot k) → slot.AllScalars Scalar.Sound →
    ∃ value, slot.toJson? = .ok value ∧ slot.ReadFrom arrange value
  | .node c, .node n, h => by
    obtain ⟨members, hwrite, hread⟩ := Node.ofJson_toJson harrange true n h
    refine ⟨some (.obj members), Except.map_eq_ok_iff.mpr ⟨_, hwrite, rfl⟩, ?_⟩
    rw [Slot.ReadFrom, Slot.ofJson_node]
    exact Except.map_eq_ok_iff.mpr ⟨n, hread, rfl⟩
  | .optional c, .absent, _ => ⟨none, rfl, rfl, rfl⟩
  | .optional c, .present n, h => by
    obtain ⟨members, hwrite, hread⟩ := Node.ofJson_toJson harrange true n h
    refine ⟨some (.obj members), Except.map_eq_ok_iff.mpr ⟨_, hwrite, rfl⟩, ?_⟩
    rw [Slot.ReadFrom, Slot.ofJson_optional (by rw [rearrange]; nofun)]
    exact Except.map_eq_ok_iff.mpr ⟨n, hread, rfl⟩
  | .list c gaps, .list ns, h => by
    obtain ⟨items, hwrite, hread⟩ := Nodes.ofItems_items harrange ns h
    refine ⟨some (.arr items), Except.map_eq_ok_iff.mpr ⟨_, hwrite, rfl⟩, ?_⟩
    rw [Slot.ReadFrom, rearrange]
    exact Except.map_eq_ok_iff.mpr ⟨ns, hread, rfl⟩
  | .scalar s, .scalar v, h => Scalar.readFrom_toJson? arrange s v h

/-- The items of a list are written and read back, the gaps as `null`. -/
theorem Nodes.ofItems_items (harrange : KeepsLookups arrange) :
    {c : Category} → {gaps : Bool} → (ns : Nodes c gaps) → ns.AllScalars Scalar.Sound →
    ∃ items, ns.items = .ok items ∧
      Nodes.ofItems (rearrangeItems arrange items) c gaps = .ok ns
  | _, _, .nil, _ => ⟨[], rfl, rfl⟩
  | _, _, .cons n rest, h => by
    obtain ⟨members, hwrite, hread⟩ := Node.ofJson_toJson harrange true n h.1
    obtain ⟨items, hitems, hreadRest⟩ := Nodes.ofItems_items harrange rest h.2
    refine ⟨.obj members :: items, ?_, ?_⟩
    · exact Except.bind_eq_ok_iff.mpr ⟨_, hwrite, Except.bind_eq_ok_iff.mpr ⟨items, hitems, rfl⟩⟩
    · rw [rearrangeItems, rearrange] at *
      exact Nodes.ofItems_obj_cons hread hreadRest
  | _, _, .gap rest, h => by
    obtain ⟨items, hitems, hread⟩ := Nodes.ofItems_items harrange rest h
    refine ⟨.null :: items, Except.bind_eq_ok_iff.mpr ⟨items, hitems, rfl⟩, ?_⟩
    exact Except.map_eq_ok_iff.mpr ⟨rest, hread, rfl⟩

end

/-! ## Trees -/

/-- The document of a node of a category with several classes names the class. -/
private theorem Node.member?_className (harrange : KeepsLookups arrange) {c : Category}
    (n : Node c) {members : List (String × Json)} (hwrite : n.toJson = .ok (.obj members))
    (honly : Kind.only? c = none) :
    member? (arrange (rearrangeMembers arrange members)) "_type" = some (.str n.className) := by
  obtain ⟨k, fs, place⟩ := n
  obtain ⟨own, hown, heq⟩ := Node.toJson_mk_eq_ok_iff.mp hwrite
  obtain rfl := Json.obj.inj heq
  rw [Node.member?_arranged arrange harrange hown, Node.member?_type hown, Kind.tagMembers_eq,
    honly]
  rfl

/-- A node that names its class is read by the category of that class. -/
theorem Root.ofJson_obj {members : List (String × Json)} {name : String}
    (htype : member? members "_type" = some (.str name)) :
    Root.ofJson (.obj members) = Root.ofClass name (.obj members) := by
  rw [Root.ofJson, htype]

/-- A name is given to the reader of its own category, and the fault of that reader is reported with
the name before it. -/
theorem Root.ofJson_obj_eq {members : List (String × Json)} {name : String}
    (htype : member? members "_type" = some (.str name)) :
    (name ∈ Category.topNames .mod → Root.ofJson (.obj members) =
      ((Node.ofJson false (.obj members) .mod).map .mod).mapError (.inNode name)) ∧
    (name ∈ Category.topNames .stmt → Root.ofJson (.obj members) =
      ((Node.ofJson false (.obj members) .stmt).map .stmt).mapError (.inNode name)) ∧
    (name ∈ Category.topNames .expr → Root.ofJson (.obj members) =
      ((Node.ofJson false (.obj members) .expr).map .expr).mapError (.inNode name)) := by
  rw [Root.ofJson_obj htype, Root.ofClass]
  -- the categories are tried in turn, and none that is tried before has the name
  have hother {c d : Category} (hname : name ∈ c.topNames) (hcd : c ≠ d) : name ∉ d.topNames :=
    fun hmem => hcd (Category.eq_of_mem_topNames hname hmem)
  refine ⟨fun hname => ?_, fun hname => ?_, fun hname => ?_⟩
  · rw [if_pos hname]
  · rw [if_neg (hother hname (by decide)), if_pos hname]
  · rw [if_neg (hother hname (by decide)), if_neg (hother hname (by decide)), if_pos hname]

/-- A node at the top of a tree is written as an object and read back from it. -/
theorem Root.ofJson_toJson (harrange : KeepsLookups arrange) (r : Root)
    (h : r.toNode.2.AllScalars Scalar.Sound) :
    ∃ members, r.toJson = .ok (.obj members) ∧
      Root.ofJson (rearrange arrange (.obj members)) = .ok r := by
  obtain ⟨members, hwrite, hread⟩ := Node.ofJson_toJson arrange harrange false r.toNode.2 h
  refine ⟨members, by cases r <;> exact hwrite, ?_⟩
  rw [rearrange] at hread ⊢
  -- the name of the class leads to the reader that has read the node
  cases r with
  | mod n =>
    rw [(Root.ofJson_obj_eq (Node.member?_className arrange harrange n hwrite rfl)).1
      (n.kind.className_mem_topNames (by decide)), Except.mapError_eq_ok_iff]
    exact Except.map_eq_ok_iff.mpr ⟨n, hread, rfl⟩
  | stmt n =>
    rw [(Root.ofJson_obj_eq (Node.member?_className arrange harrange n hwrite rfl)).2.1
      (n.kind.className_mem_topNames (by decide)), Except.mapError_eq_ok_iff]
    exact Except.map_eq_ok_iff.mpr ⟨n, hread, rfl⟩
  | expr n =>
    rw [(Root.ofJson_obj_eq (Node.member?_className arrange harrange n hwrite rfl)).2.2
      (n.kind.className_mem_topNames (by decide)), Except.mapError_eq_ok_iff]
    exact Except.map_eq_ok_iff.mpr ⟨n, hread, rfl⟩

/-- The nodes of a sequence are written and read back one by one, whatever stands before them. -/
theorem Root.ofItems_toJson (harrange : KeepsLookups arrange) (rs : List Root)
    (h : ∀ r ∈ rs, r.toNode.2.AllScalars Scalar.Sound) :
    ∃ items, rs.mapM Root.toJson = .ok items ∧
      ∀ index, Root.ofItems index (rearrangeItems arrange items) = .ok rs := by
  induction rs with
  | nil => exact ⟨[], rfl, fun _ => rfl⟩
  | cons r rs ih =>
    have hr := h r List.mem_cons_self
    obtain ⟨members, hwrite, hread⟩ := Root.ofJson_toJson arrange harrange r hr
    obtain ⟨items, hitems, hreadRest⟩ := ih fun r' hr' => h r' (List.mem_cons_of_mem r hr')
    refine ⟨.obj members :: items, mapM_cons_eq_ok_iff.mpr ⟨_, _, hwrite, hitems, rfl⟩, ?_⟩
    intro index
    rw [rearrange] at hread
    rw [rearrangeItems, rearrange]
    refine Except.bind_eq_ok_iff.mpr ⟨r, Except.mapError_eq_ok_iff.mpr hread, ?_⟩
    exact Except.bind_eq_ok_iff.mpr ⟨rs, hreadRest (index + 1), rfl⟩

/-- A valid tree is written as a value and read back from it, also after the members of its objects
have been rearranged. -/
theorem Tree.ofJson_rearrange_toJson (harrange : KeepsLookups arrange) (t : Tree Root)
    (h : t.Valid) :
    ∃ j, t.toJson = .ok j ∧ Tree.ofJson (j.rearrange arrange) = .ok t := by
  rw [Tree.valid_iff] at h
  cases t with
  | single r =>
    have hr := h r List.mem_cons_self
    obtain ⟨members, hwrite, hread⟩ := Root.ofJson_toJson arrange harrange r hr
    refine ⟨.obj members, hwrite, ?_⟩
    rw [rearrange] at hread ⊢
    exact Except.map_eq_ok_iff.mpr ⟨r, Except.mapError_eq_ok_iff.mpr hread, rfl⟩
  | many rs =>
    obtain ⟨items, hwrite, hread⟩ := Root.ofItems_toJson arrange harrange rs h
    refine ⟨.arr items, Except.map_eq_ok_iff.mpr ⟨items, hwrite, rfl⟩, ?_⟩
    rw [rearrange]
    exact Except.map_eq_ok_iff.mpr ⟨rs, hread 0, rfl⟩

/-- Reading undoes writing: a valid tree is written as a value, and the same tree is read from this
value and from the value whose members are in the order of their keys. -/
theorem Tree.ofJson_toJson_of_valid (t : Tree Root) (h : t.Valid) :
    ∃ j, t.toJson = .ok j ∧ Tree.ofJson j = .ok t ∧ Tree.ofJson j.ordered = .ok t := by
  -- the order of the writer and the order of keys are both arrangements that keep lookups
  obtain ⟨j, hwrite, hread⟩ := Tree.ofJson_rearrange_toJson id Json.keepsLookups_id t h
  obtain ⟨j', hwrite', hread'⟩ :=
    Tree.ofJson_rearrange_toJson Json.orderedMembers Json.keepsLookups_orderedMembers t h
  obtain rfl : j = j' := Except.ok.inj (hwrite.symm.trans hwrite')
  rw [Json.rearrange_id] at hread
  exact ⟨j, hwrite, hread, hread'⟩

/-- A sequence with a missing key of a dictionary, both ends of the range of integers, a negative
zero and a node whose place is known is read back. -/
theorem Tree.ofJson_toJson_sequence :
    let t : Tree Root := .many
      [.stmt (.importFrom (some "os.path") [.importAlias "a.b" (some "c")] 1),
        .expr (.dict [some (.constant (.int (-2 ^ 63))), none]
          [.constant (.int (2 ^ 64 - 1)), .constant (.float (.zero true))]),
        .expr ((Expr.name "x").at_ ⟨some 1, some 0, none, some 1⟩)]
    t.Valid ∧ ∃ j, t.toJson = .ok j ∧ Tree.ofJson j = .ok t ∧ Tree.ofJson j.ordered = .ok t := by
  intro t
  have hvalid : t.Valid := by decide +kernel
  exact ⟨hvalid, Tree.ofJson_toJson_of_valid t hvalid⟩

end SyntaxDump
