import Mathlib.Data.String.Basic
import SyntaxDump.Proofs.Document.Routing

/-!
# Which fault is reported

A malformed object can have several faults at once: members whose values cannot be read, required
fields that are left out, and parts of a location that cannot be read. The one that is reported does
not depend on the order in which the members stand or in which the reader comes across the faults
(`Kind.FirstFault`): values of fields come before missing fields and these before the location, and
among faults of one sort the order of keys or of the grammar decides.

## Main statements

- `Kind.FirstFault.unique`: an object has only one fault that comes first;
- `Node.ofJson_obj_cases`: a reader of nodes accepts an object or reports its first fault;
- `Tree.ofJson_reports_first_fault`: loading an object fails with its first fault or not at all.
-/

namespace SyntaxDump

open Json (member?)

/-! ## Faults of an object -/

/-- The value that is given for the field, if there is one, can be read. -/
def Field.Readable (members : List (String × Json)) (f : Field) : Prop :=
  ∀ j, member? members f.name = some j → ∃ slot, Slot.ofJson j f.content = .ok slot

/-- The value that is given for a part of a location, if there is one, can be read. -/
def Location.Readable (members : List (String × Json)) (name : String) : Prop :=
  ∀ j, member? members name = some j → ∃ part, Json.toOption Json.toWord j = .ok part

/-- The field has to be given and is not. -/
def Field.isMissing (members : List (String × Json)) (f : Field) : Bool :=
  f.required && (member? members f.name).isNone

/-- The fault of an object that comes before all others when it is read as a node of the class. -/
inductive Kind.FirstFault {c : Category} (k : Kind c) (members : List (String × Json)) :
    DecodeError → Prop
  /-- The value of a field, if those of all fields with smaller keys can be read. -/
  | value {f : Field} {j : Json} {e : DecodeError} (hf : f ∈ k.fields)
    (hj : member? members f.name = some j) (he : Slot.ofJson j f.content = .error e)
    (hfirst : ∀ g ∈ k.fields, g.name < f.name → g.Readable members) : FirstFault k members e
  /-- The first missing field of the grammar, if all values of fields can be read. -/
  | missing {f : Field} (hvalues : ∀ g ∈ k.fields, g.Readable members)
    (hf : k.fields.find? (Field.isMissing members) = some f) :
    FirstFault k members (.missingField f.name)
  /-- A part of the location, if the fields are complete and their values and those of all parts
  with smaller keys can be read. -/
  | place {name : String} {j : Json} {e : DecodeError}
    (hvalues : ∀ g ∈ k.fields, g.Readable members)
    (hgiven : k.fields.find? (Field.isMissing members) = none) (hlocated : c.isLocated)
    (hname : name ∈ Location.partNames) (hj : member? members name = some j)
    (he : Json.toOption Json.toWord j = .error e)
    (hfirst : ∀ part ∈ Location.partNames, part < name → Location.Readable members part) :
    FirstFault k members e

/-- A value that can be read is not at fault. -/
private theorem Field.Readable.not_error {members : List (String × Json)} {f : Field}
    (h : f.Readable members) {j : Json} {e : DecodeError} (hj : member? members f.name = some j) :
    Slot.ofJson j f.content ≠ .error e := by
  obtain ⟨slot, hslot⟩ := h j hj
  rw [hslot]
  exact nofun

/-- A part of a location that can be read is not at fault. -/
private theorem Location.Readable.not_error {members : List (String × Json)} {name : String}
    (h : Location.Readable members name) {j : Json} {e : DecodeError}
    (hj : member? members name = some j) : Json.toOption Json.toWord j ≠ .error e := by
  obtain ⟨part, hpart⟩ := h j hj
  rw [hpart]
  exact nofun

/-- An object has only one fault that comes first. -/
theorem Kind.FirstFault.unique {c : Category} {k : Kind c} {members : List (String × Json)}
    {e e' : DecodeError} (h : k.FirstFault members e) (h' : k.FirstFault members e') : e = e' := by
  -- two faults of one sort are compared by their keys, of two sorts only one can come first
  cases h with
  | @value f j e hf hj he hfirst =>
    cases h' with
    | @value f' j' e' hf' hj' he' hfirst' =>
      -- of two fields the one with the greater key would not come first
      rcases lt_trichotomy f.name f'.name with hlt | heq | hlt
      · exact absurd he ((hfirst' f hf hlt).not_error hj)
      · obtain rfl := k.field_eq_of_name_eq hf hf' heq
        rw [hj] at hj'
        obtain rfl := Option.some.inj hj'
        rw [he] at he'
        exact Except.error.inj he'
      · exact absurd he' ((hfirst f' hf' hlt).not_error hj')
    | missing hvalues _ => exact absurd he ((hvalues f hf).not_error hj)
    | place hvalues _ _ _ _ _ _ => exact absurd he ((hvalues f hf).not_error hj)
  | @missing f hvalues hf =>
    cases h' with
    | @value f' j' e' hf' hj' he' _ => exact absurd he' ((hvalues f' hf').not_error hj')
    | missing _ hf' =>
      rw [hf] at hf'
      rw [Option.some.inj hf']
    | place _ hgiven _ _ _ _ _ =>
      rw [hf] at hgiven
      cases hgiven
  | @place name j e hvalues hgiven _ hname hj he hfirst =>
    cases h' with
    | @value f' j' e' hf' hj' he' _ => exact absurd he' ((hvalues f' hf').not_error hj')
    | missing _ hf' =>
      rw [hgiven] at hf'
      cases hf'
    | @place name' j' e' _ _ _ hname' hj' he' hfirst' =>
      -- as before, but the parts of a location are told apart by their names alone
      rcases lt_trichotomy name name' with hlt | rfl | hlt
      · exact absurd he ((hfirst' name hname hlt).not_error hj)
      · rw [hj] at hj'
        obtain rfl := Option.some.inj hj'
        rw [he] at he'
        exact Except.error.inj he'
      · exact absurd he' ((hfirst name' hname' hlt).not_error hj')

variable {members : List (String × Json)}

/-- An object that is complete and whose values can all be read has no fault. -/
private theorem Kind.not_firstFault {c : Category} {k : Kind c}
    (hvalues : ∀ f ∈ k.fields, f.Readable members)
    (hgiven : k.fields.find? (Field.isMissing members) = none)
    (hparts : c.isLocated → ∀ name ∈ Location.partNames, Location.Readable members name)
    (e : DecodeError) : ¬ k.FirstFault members e := by
  intro h
  cases h with
  | @value f _ _ hf hj he _ => exact (hvalues f hf).not_error hj he
  | missing _ hf =>
    rw [hgiven] at hf
    cases hf
  | @place name _ _ _ _ hlocated hname hj he _ => exact (hparts hlocated name hname).not_error hj he

/-! ## Fields -/

/-- A field is read, has a value that cannot be read, or is missing. -/
private theorem Field.read_cases (members : List (String × Json)) {f : Field}
    (hdefault : f.required = false → (Slot.default? f.content).isSome) :
    (∃ slot, f.read (Slot.ofMembers members f.name f.content) = .ok slot ∧ f.Readable members ∧
      f.isMissing members = false) ∨
    (∃ j e, f.read (Slot.ofMembers members f.name f.content) = .error (.invalid f.name e) ∧
      member? members f.name = some j ∧ Slot.ofJson j f.content = .error e ∧
      f.isMissing members = false) ∨
    f.read (Slot.ofMembers members f.name f.content) = .error (.missing f.name) ∧
      f.Readable members ∧ f.isMissing members = true := by
  rw [Slot.ofMembers_eq]
  cases hmember : member? members f.name with
  | some j =>
    have hgiven : f.isMissing members = false := by simp [isMissing, hmember]
    cases hread : Slot.ofJson j f.content with
    | ok slot =>
      refine .inl ⟨slot, by simp [read, hread], fun j' hj' => ?_, hgiven⟩
      rw [hmember] at hj'
      obtain rfl := Option.some.inj hj'
      exact ⟨slot, hread⟩
    | error e => exact .inr (.inl ⟨j, e, by simp [read, hread], rfl, hread, hgiven⟩)
  | none =>
    have hreadable : f.Readable members := fun j' hj' => by
      rw [hmember] at hj'
      cases hj'
    cases hrequired : f.required with
    | true =>
      exact .inr (.inr ⟨by simp [read, hrequired], hreadable, by simp [isMissing, *]⟩)
    | false =>
      obtain ⟨slot, hslot⟩ := Option.isSome_iff_exists.mp (hdefault hrequired)
      refine .inl ⟨slot, ?_, hreadable, by simp [isMissing, hrequired]⟩
      simp [read, hrequired, hslot]

/-- What is wrong with the fields of an object, of several faults the one that comes first. -/
private inductive Fields.Fault (members : List (String × Json)) (fs : List Field) :
    FieldFault → Prop
  | invalid {f : Field} {j : Json} {e : DecodeError} (hf : f ∈ fs)
    (hj : member? members f.name = some j) (he : Slot.ofJson j f.content = .error e)
    (hfirst : ∀ g ∈ fs, g.name < f.name → g.Readable members) : Fault members fs (.invalid f.name e)
  | missing {f : Field} (hvalues : ∀ g ∈ fs, g.Readable members)
    (hf : fs.find? (Field.isMissing members) = some f) : Fault members fs (.missing f.name)

/-- Another field that is read does not change what is wrong with the others. -/
private theorem Fields.Fault.cons {f : Field} {fs : List Field} {fault : FieldFault}
    (h : Fault members fs fault) (hread : f.Readable members)
    (hgiven : f.isMissing members = false) : Fault members (f :: fs) fault := by
  cases h with
  | invalid hg hj he hfirst =>
    refine .invalid (List.mem_cons_of_mem f hg) hj he ?_
    exact List.forall_mem_cons.mpr ⟨fun _ => hread, hfirst⟩
  | missing hvalues hg =>
    refine .missing (List.forall_mem_cons.mpr ⟨hread, hvalues⟩) ?_
    rwa [List.find?_cons, hgiven]

/-- A field with a value that cannot be read comes before or after what is wrong with the others. -/
private theorem Fields.Fault.cons_invalid {f : Field} {fs : List Field} {fault : FieldFault}
    (h : Fault members fs fault) {j : Json} {e : DecodeError}
    (hj : member? members f.name = some j) (he : Slot.ofJson j f.content = .error e) :
    Fault members (f :: fs) ((FieldFault.invalid f.name e).dominant fault) := by
  cases h with
  | @invalid g j' e' hg hj' he' hfirst =>
    -- the smaller key wins, and the fields with smaller keys than that one are read in either list
    rw [FieldFault.dominant]
    split
    · next hlt =>
      refine .invalid (List.mem_cons_of_mem f hg) hj' he' ?_
      exact List.forall_mem_cons.mpr ⟨fun hlt' => absurd hlt' hlt.asymm, hfirst⟩
    · next hle =>
      refine .invalid List.mem_cons_self hj he ?_
      refine List.forall_mem_cons.mpr ⟨fun hlt => absurd hlt (lt_irrefl _), fun g' hg' hlt => ?_⟩
      exact hfirst g' hg' (lt_of_lt_of_le hlt (not_lt.mp hle))
  | missing hvalues _ =>
    refine .invalid List.mem_cons_self hj he ?_
    exact List.forall_mem_cons.mpr
      ⟨fun hlt => absurd hlt (lt_irrefl _), fun g hg _ => hvalues g hg⟩

/-- A missing field comes before other missing fields and after values that cannot be read. -/
private theorem Fields.Fault.cons_missing {f : Field} {fs : List Field} {fault : FieldFault}
    (h : Fault members fs fault) (hread : f.Readable members)
    (hmissing : f.isMissing members = true) :
    Fault members (f :: fs) ((FieldFault.missing f.name).dominant fault) := by
  cases h with
  | invalid hg hj he hfirst =>
    refine .invalid (List.mem_cons_of_mem f hg) hj he ?_
    exact List.forall_mem_cons.mpr ⟨fun _ => hread, hfirst⟩
  | missing hvalues _ =>
    refine .missing (List.forall_mem_cons.mpr ⟨hread, hvalues⟩) ?_
    rw [List.find?_cons, hmissing]

/-- The fields of an object are read if nothing is wrong with them, and otherwise the fault that
comes first is reported. -/
private theorem Fields.read_cases (members : List (String × Json)) {fs : List Field}
    (hdefault : ∀ f ∈ fs, f.required = false → (Slot.default? f.content).isSome) :
    (∃ v, Fields.read (Slot.ofMembers members) fs = .ok v ∧ (∀ f ∈ fs, f.Readable members) ∧
      fs.find? (Field.isMissing members) = none) ∨
    ∃ fault, Fields.read (Slot.ofMembers members) fs = .error fault ∧ Fault members fs fault := by
  induction fs with
  | nil => exact .inl ⟨.nil, rfl, List.forall_mem_nil _, rfl⟩
  | cons f fs ih =>
    obtain ⟨hf, hfs⟩ := List.forall_mem_cons.mp hdefault
    have hhead := Field.read_cases members hf
    rw [Fields.read]
    rcases ih hfs with ⟨v, hrest, hvalues, hgiven⟩ | ⟨fault, hrest, hfault⟩
    · -- nothing is wrong with the other fields
      rcases hhead with ⟨slot, hslot, hread, hnot⟩ | ⟨j, e, hslot, hj, he, hnot⟩ |
        ⟨hslot, hread, hmissing⟩
      · rw [hslot, hrest]
        refine .inl ⟨_, rfl, List.forall_mem_cons.mpr ⟨hread, hvalues⟩, ?_⟩
        rwa [List.find?_cons, hnot]
      · rw [hslot, hrest]
        refine .inr ⟨_, rfl, .invalid List.mem_cons_self hj he ?_⟩
        exact List.forall_mem_cons.mpr
          ⟨fun hlt => absurd hlt (lt_irrefl _), fun g hg _ => hvalues g hg⟩
      · rw [hslot, hrest]
        refine .inr ⟨_, rfl, .missing (List.forall_mem_cons.mpr ⟨hread, hvalues⟩) ?_⟩
        rw [List.find?_cons, hmissing]
    · -- the first field can only add to what is wrong with the others
      right
      rcases hhead with ⟨slot, hslot, hread, hnot⟩ | ⟨j, e, hslot, hj, he, hnot⟩ |
        ⟨hslot, hread, hmissing⟩
      · rw [hslot, hrest]
        exact ⟨_, rfl, hfault.cons hread hnot⟩
      · rw [hslot, hrest]
        exact ⟨_, rfl, hfault.cons_invalid hj he⟩
      · rw [hslot, hrest]
        exact ⟨_, rfl, hfault.cons_missing hread hmissing⟩

/-- A field that may be left out has a default. -/
private theorem Kind.isSome_default? {c : Category} (k : Kind c) :
    ∀ f ∈ k.fields, f.required = false → (Slot.default? f.content).isSome := by
  cases k <;> simp [Kind.fields, Kind.functionFields, Field.must, Field.may, Slot.default?,
    Scalar.default?]

/-! ## Locations -/

/-- The order in which the parts of a location are read, that of their keys. -/
def Location.readOrder : List String := ["col_offset", "end_col_offset", "end_lineno", "lineno"]

private theorem Location.mem_readOrder {name : String} : name ∈ readOrder ↔ name ∈ partNames := by
  simp only [readOrder, partNames, List.mem_cons, List.not_mem_nil, or_false]
  tauto

private theorem Location.pairwise_readOrder : readOrder.Pairwise (· < ·) := by decide

/-- The parts are read one after the other. -/
private theorem Location.ofMembers_eq (members : List (String × Json)) :
    ofMembers members = (readOrder.mapM (readPart members)).map fun parts =>
      ⟨parts[3]?.join, parts[0]?.join, parts[2]?.join, parts[1]?.join⟩ := by
  simp only [ofMembers, readOrder, List.mapM_cons, List.mapM_nil]
  cases readPart members "col_offset"
  · rfl
  cases readPart members "end_col_offset"
  · rfl
  cases readPart members "end_lineno"
  · rfl
  cases readPart members "lineno" <;> rfl

/-- A part is left out or read, or has a value that cannot be read. -/
private theorem Location.readPart_cases (members : List (String × Json)) (name : String) :
    (∃ part, readPart members name = .ok part) ∧ Readable members name ∨
      ∃ j e, readPart members name = .error e ∧ member? members name = some j ∧
        Json.toOption Json.toWord j = .error e := by
  rw [readPart, Readable]
  cases hmember : member? members name with
  | none =>
    refine .inl ⟨⟨none, rfl⟩, fun j hj => ?_⟩
    cases hj
  | some j =>
    cases hread : Json.toOption Json.toWord j with
    | ok part =>
      refine .inl ⟨⟨part, hread⟩, fun j' hj' => ?_⟩
      obtain rfl := Option.some.inj hj'
      exact ⟨part, hread⟩
    | error e => exact .inr ⟨j, e, hread, rfl, hread⟩

/-- Of the parts that cannot be read the first is reported. -/
private theorem Location.mapM_readPart_cases (members : List (String × Json)) {names : List String}
    (hsorted : names.Pairwise (· < ·)) :
    (∃ parts, names.mapM (readPart members) = .ok parts) ∧
      (∀ name ∈ names, Readable members name) ∨
    ∃ name ∈ names, ∃ j e, names.mapM (readPart members) = .error e ∧
      member? members name = some j ∧ Json.toOption Json.toWord j = .error e ∧
      ∀ part ∈ names, part < name → Readable members part := by
  induction names with
  | nil => exact .inl ⟨⟨[], rfl⟩, List.forall_mem_nil _⟩
  | cons name names ih =>
    obtain ⟨hleast, hsorted⟩ := List.pairwise_cons.mp hsorted
    rw [List.mapM_cons]
    rcases readPart_cases members name with ⟨⟨part, hpart⟩, hread⟩ | ⟨j, e, hpart, hj, he⟩
    · rw [hpart]
      rcases ih hsorted with ⟨⟨parts, hparts⟩, hall⟩ | ⟨bad, hbad, j, e, hparts, hj, he, hfirst⟩
      · rw [hparts]
        exact .inl ⟨⟨_, rfl⟩, List.forall_mem_cons.mpr ⟨hread, hall⟩⟩
      · rw [hparts]
        refine .inr ⟨bad, List.mem_cons_of_mem name hbad, j, e, rfl, hj, he, ?_⟩
        exact List.forall_mem_cons.mpr ⟨fun _ => hread, hfirst⟩
    · rw [hpart]
      refine .inr ⟨name, List.mem_cons_self, j, e, rfl, hj, he, ?_⟩
      -- no part has a smaller key than the first
      exact List.forall_mem_cons.mpr ⟨fun hlt => absurd hlt (lt_irrefl _),
        fun part hpart hlt => absurd hlt (hleast part hpart).asymm⟩

/-- The place of a node is read, or the first part that cannot be read is reported. -/
private theorem Category.readPlace_cases (c : Category) (members : List (String × Json)) :
    (∃ place, c.readPlace members = .ok place) ∧
      (c.isLocated → ∀ name ∈ Location.partNames, Location.Readable members name) ∨
    c.isLocated ∧ ∃ name ∈ Location.partNames, ∃ j e, c.readPlace members = .error e ∧
      member? members name = some j ∧ Json.toOption Json.toWord j = .error e ∧
      ∀ part ∈ Location.partNames, part < name → Location.Readable members part := by
  rw [readPlace, Location.ofMembers_eq]
  cases hlocated : c.isLocated with
  | false => exact .inl ⟨⟨_, rfl⟩, nofun⟩
  | true =>
    simp only [← Location.mem_readOrder]
    rcases Location.mapM_readPart_cases members Location.pairwise_readOrder with
      ⟨⟨parts, hparts⟩, hall⟩ | ⟨name, hname, j, e, hparts, hfault⟩
    · rw [hparts]
      exact .inl ⟨⟨_, rfl⟩, fun _ => hall⟩
    · rw [hparts]
      exact .inr ⟨trivial, name, hname, j, e, rfl, hfault⟩

/-! ## Nodes -/

/-- An object is read as a node of its class if it has no fault, and otherwise the first is
reported. -/
theorem Node.ofJson_obj_cases {inside : Bool} {c : Category} {k : Kind c}
    (hk : Kind.ofMembers (c.takesIndex inside) c members = .ok k) :
    (∃ n, Node.ofJson inside (.obj members) c = .ok n) ∧ (∀ e, ¬ k.FirstFault members e) ∨
      ∃ e, Node.ofJson inside (.obj members) c = .error e ∧ k.FirstFault members e := by
  -- the location is read only once the fields are
  rw [Node.ofJson, hk]
  rcases Fields.read_cases members k.isSome_default? with
    ⟨v, hread, hvalues, hgiven⟩ | ⟨fault, hread, hfault⟩
  · rcases c.readPlace_cases members with
      ⟨⟨place, hplace⟩, hparts⟩ | ⟨hlocated, name, hname, j, e, hplace, hj, he, hfirst⟩
    · refine .inl ⟨⟨.mk k v place, ?_⟩, fun e he => ?_⟩
      · simp [hread, hplace, bind, Except.bind, pure, Except.pure]
      · exact Kind.not_firstFault hvalues hgiven hparts e he
    · refine .inr ⟨e, ?_, .place hvalues hgiven hlocated hname hj he hfirst⟩
      simp [hread, hplace, bind, Except.bind]
  · refine .inr ⟨fault.toError, ?_, ?_⟩
    · simp [hread, bind, Except.bind]
    · cases hfault with
      | invalid hf hj he hfirst => exact .value hf hj he hfirst
      | missing hvalues hf => exact .missing hvalues hf

/-! ## Documents -/

/-- Loading an object that names a class reports what the reader of its category reports. -/
private theorem Tree.ofJson_obj_of_ofJson {c : Category} {name : String}
    (hc : c ∈ Category.topmost) (hname : name ∈ c.topNames)
    (htag : member? members "_type" = some (.str name)) :
    (∀ n, Node.ofJson false (.obj members) c = .ok n → ∃ t, Tree.ofJson (.obj members) = .ok t) ∧
      ∀ e, Node.ofJson false (.obj members) c = .error e →
        Tree.ofJson (.obj members) = .error (.invalidNode (.inNode name e)) := by
  constructor
  · intro n hn
    obtain ⟨r, hr⟩ : ∃ r : Root, r.IsReadFrom (.obj members) := by
      rcases Category.eq_of_mem_topmost hc with rfl | rfl | rfl
      · exact ⟨.mod n, hn⟩
      · exact ⟨.stmt n, hn⟩
      · exact ⟨.expr n, hn⟩
    rw [Tree.ofJson, Root.ofJson_of_isReadFrom htag hr]
    exact ⟨_, rfl⟩
  · intro e he
    rw [Tree.ofJson, Root.ofJson_eq_error htag hc hname he]
    rfl

/-- An object that names a module, a statement or an expression is loaded if it has no fault as a
node of that class. Otherwise one fault comes first, and loading fails with its message after the
name of the class, a colon and a space. -/
theorem Tree.ofJson_reports_first_fault {c : Category} {name : String}
    (hc : c ∈ Category.topmost) (hname : name ∈ c.topNames)
    (htag : member? members "_type" = some (.str name)) :
    ∃ k : Kind c, k.className = name ∧
      ((∃ t, Tree.ofJson (.obj members) = .ok t) ∧ (∀ e, ¬ k.FirstFault members e) ∨
        ∃ e, k.FirstFault members e ∧ (∀ e', k.FirstFault members e' → e' = e) ∧
          Tree.ofJson (.obj members) = .error (.invalidNode (.inNode name e)) ∧
          (DecodeError.inNode name e).message = name ++ ": " ++ e.message) := by
  obtain ⟨k, hk⟩ := Option.isSome_iff_exists.mp ((Kind.isSome_ofName?_iff hc name).mpr hname)
  have hkind : Kind.ofMembers (c.takesIndex false) c members = .ok k :=
    (Kind.ofMembers_eq_ok_iff hc htag).mpr hk
  obtain ⟨hok, herror⟩ := Tree.ofJson_obj_of_ofJson hc hname htag
  refine ⟨k, Kind.className_of_ofName? hk, ?_⟩
  rcases Node.ofJson_obj_cases hkind with ⟨⟨n, hn⟩, hnone⟩ | ⟨e, he, hfirst⟩
  · exact .inl ⟨hok n hn, hnone⟩
  · exact .inr ⟨e, hfirst, fun e' he' => he'.unique hfirst, herror e he, rfl⟩

/-- A loop without a target whose body and iterable are numbers and whose column is a text. The
value of its body comes first, although the grammar lists the target and the iterable before it. -/
theorem Tree.ofJson_reports_first_fault_forLoop :
    let members : List (String × Json) :=
      [("_type", .str "For"), ("col_offset", .str "x"), ("iter", .int 1), ("body", .int 2)]
    .stmt ∈ Category.topmost ∧ "For" ∈ Category.topNames .stmt ∧
      member? members "_type" = some (.str "For") ∧
      Kind.forLoop.FirstFault members (.invalidType (.int 2) .list) ∧
      ∃ fault, Tree.ofJson (.obj members) = .error (.invalidNode fault) ∧
        fault.message = "For: invalid type: integer `2`, expected a sequence" := by
  intro members
  have hc : .stmt ∈ Category.topmost := by decide
  have hname : "For" ∈ Category.topNames .stmt := by decide
  have htag : member? members "_type" = some (.str "For") := rfl
  have hload : Tree.ofJson (.obj members) =
      .error (.invalidNode (.inNode "For" (.invalidType (.int 2) .list))) := rfl
  obtain ⟨k, hk, h⟩ := Tree.ofJson_reports_first_fault hc hname htag
  have hk : k = .forLoop := by
    cases k <;> first | rfl | exact absurd hk (by decide)
  subst hk
  refine ⟨hc, hname, htag, ?_, _, hload, rfl⟩
  rcases h with ⟨⟨t, ht⟩, -⟩ | ⟨e, hfirst, -, herror, -⟩
  · rw [hload] at ht
    cases ht
  · rw [hload] at herror
    cases herror
    exact hfirst

end SyntaxDump
