import Mathlib.Data.List.Nodup
import SyntaxDump.Grammar

/-!
# Facts about the grammar

The table of `Grammar.lean` is data, and whatever readers and writers rely on about it is checked
here class by class. Everything else in the theory of trees is proved for an arbitrary class from
these facts.

## Main statements

- `Kind.tag?_eq`: documents give a class by the name that it has in dumps, or by none;
- `Kind.ofName?_className`: within a category that name determines the class;
- `Kind.shown_eq`: dumps show the fields of a class as documents list them;
- `Category.eq_of_mem_topNames`: no name belongs to two categories of nodes at the top;
- `Kind.memberNames_nodup`: the names of the members of a node are distinct;
- `Kind.required_eq_false_of_canBeAbsent`: a field that may hold nothing may be left out.
-/

namespace SyntaxDump

namespace Kind

/-- Documents give a class by the name that it has in dumps, unless it is alone in its category. -/
theorem tag?_eq {c : Category} (k : Kind c) :
    k.tag? = if (only? c).isNone then some k.className else none := by
  -- the two lists of names, row by row
  cases k <;> rfl

/-- The name by which documents give a class is that of the class. -/
theorem className_of_tag? {c : Category} {name : String} {k : Kind c} (h : k.tag? = some name) :
    k.className = name := by
  rw [tag?_eq] at h
  split at h
  · exact Option.some.inj h
  · cases h

/-- Within a category the name of a class determines the class. -/
theorem ofName?_className {c : Category} (h : only? c = none) (k : Kind c) :
    ofName? c k.className = some k := by
  -- row by row; no two rows of a category have the same name
  cases k <;> first | decide +kernel | cases h

/-- A class that is found by name has the name. -/
theorem className_of_ofName? {c : Category} {name : String} {k : Kind c}
    (h : ofName? c name = some k) : k.className = name := by
  rw [ofName?] at h
  exact className_of_tag? (by simpa using List.find?_some h)

/-- The class of a category with a single one. -/
theorem only?_eq_some {c : Category} {k : Kind c} (h : (only? c).isSome) : only? c = some k := by
  cases k <;> first | rfl | simp [only?] at h

/-- Classes of one category with the same name are the same. -/
theorem className_injective {c : Category} {k k' : Kind c} (h : k.className = k'.className) :
    k = k' := by
  have hsome : some k = some k' := by
    cases honly : only? c with
    | none =>
      -- the name is read back as either class
      rw [← ofName?_className honly k, ← ofName?_className honly k', h]
    | some only =>
      have hisSome : (only? c).isSome := by rw [honly]; rfl
      rw [← only?_eq_some (k := k) hisSome, ← only?_eq_some (k := k') hisSome]
  exact Option.some.inj hsome

/-- The names under which a class shows empty lists for which it has no fields. -/
def emptyFields {c : Category} (k : Kind c) : List String :=
  k.shown.filterMap fun
    | .field _ _ => none
    | .emptyList label => some label

/-- The two lists of a class agree: it shows all of its fields, each under its own name and in the
order of documents, and empty lists only after them. -/
theorem shown_eq {c : Category} (k : Kind c) :
    k.shown = k.fields.map (fun f => .field f.name f.name) ++ k.emptyFields.map .emptyList := by
  -- the two lists of fields, row by row
  cases k <;> rfl

/-- All names that the members of a node, or its arguments in a dump, can have. -/
def memberNames {c : Category} (k : Kind c) : List String :=
  "_type" :: (k.fields.map Field.name ++ k.emptyFields ++ Location.partNames)

/-- The names of the members of a node are distinct: no two fields share a name, and none has the
name of the class tag or of a part of a location. -/
theorem memberNames_nodup {c : Category} (k : Kind c) : k.memberNames.Nodup := by
  cases k <;> decide +kernel

/-- The fields of a class have distinct names. -/
theorem fieldNames_nodup {c : Category} (k : Kind c) : (k.fields.map Field.name).Nodup :=
  (List.nodup_append.mp (List.nodup_append.mp (List.nodup_cons.mp k.memberNames_nodup).2).1).1

/-- Within a class the name of a field determines the field. -/
theorem field_eq_of_name_eq {c : Category} (k : Kind c) {f g : Field} (hf : f ∈ k.fields)
    (hg : g ∈ k.fields) (h : f.name = g.name) : f = g :=
  List.inj_on_of_nodup_map k.fieldNames_nodup hf hg h

/-- No field has the name of the class tag. -/
theorem type_not_mem_fieldNames {c : Category} (k : Kind c) :
    "_type" ∉ k.fields.map Field.name := fun h =>
  (List.nodup_cons.mp k.memberNames_nodup).1
    (List.mem_append_left _ (List.mem_append_left _ h))

theorem name_ne_type {c : Category} (k : Kind c) {f : Field} (hf : f ∈ k.fields) :
    f.name ≠ "_type" := fun h => k.type_not_mem_fieldNames (h ▸ List.mem_map_of_mem hf)

/-- No field has the name of a part of a location. -/
theorem not_mem_partNames {c : Category} (k : Kind c) {name : String}
    (h : name ∈ k.fields.map Field.name) : name ∉ Location.partNames := fun hpart =>
  (List.nodup_append.mp (List.nodup_cons.mp k.memberNames_nodup).2).2.2 name
    (List.mem_append_left _ h) name hpart rfl

end Kind

/-! ## The values that a class shows -/

section Arrange

variable {α β : Type}

/-- The values that are found under distinct names are those that were given. -/
private theorem filterMap_lookup_self {values : List (String × α)}
    (h : (values.map Prod.fst).Nodup) :
    (values.map Prod.fst).filterMap (fun name => (values.lookup name).map (name, ·)) = values := by
  induction values with
  | nil => rfl
  | cons e rest ih =>
    obtain ⟨hfirst, hrest⟩ := List.nodup_cons.mp h
    have hbelow : (rest.map Prod.fst).filterMap
        (fun name => ((e :: rest).lookup name).map (name, ·)) = rest := by
      refine Eq.trans (List.filterMap_congr fun name hname => ?_) (ih hrest)
      -- a later name is not that of the first value
      have hne : (name == e.1) = false := beq_false_of_ne fun heq => hfirst (heq ▸ hname)
      rw [List.lookup_cons, hne]
    rw [List.map_cons, List.filterMap_cons, hbelow, List.lookup_cons, beq_self_eq_true]
    rfl

/-- What a class shows of the values of its fields: these, each under the name of its field, and
then the empty lists. -/
theorem Kind.arrange_eq {c : Category} (k : Kind c) (empty : α) {values : List (String × α)}
    (h : values.map Prod.fst = k.fields.map Field.name) :
    k.arrange empty values = values ++ k.emptyFields.map (·, empty) := by
  have hfields : k.fields.filterMap (fun f => (values.lookup f.name).map (f.name, ·)) = values := by
    have hself := filterMap_lookup_self (h ▸ k.fieldNames_nodup)
    rw [h, List.filterMap_map] at hself
    exact hself
  have hempty : k.emptyFields.filterMap (Entry.pick empty values ∘ Entry.emptyList) =
      k.emptyFields.map (·, empty) :=
    congrFun List.filterMap_eq_map' k.emptyFields
  rw [Kind.arrange, shown_eq, List.filterMap_append, List.filterMap_map, List.filterMap_map]
  exact congrArg₂ _ hfields hempty

/-- What is made of each value can be made before the values are arranged. -/
theorem Kind.arrange_map {c : Category} (k : Kind c) (g : α → β) (empty : α)
    (values : List (String × α)) :
    k.arrange (g empty) (values.map fun e => (e.1, g e.2)) =
      (k.arrange empty values).map fun e => (e.1, g e.2) := by
  have hlookup (name : String) :
      (values.map fun e => (e.1, g e.2)).lookup name = (values.lookup name).map g := by
    induction values with
    | nil => rfl
    | cons e rest ih =>
      rw [List.map_cons, List.lookup_cons, List.lookup_cons]
      split
      · rfl
      · exact ih
  rw [Kind.arrange, Kind.arrange, List.map_filterMap]
  refine List.filterMap_congr fun entry _ => ?_
  cases entry with
  | field name source =>
    rw [Entry.pick, hlookup, Entry.pick, Option.map_map, Option.map_map]
    rfl
  | emptyList name => rfl

end Arrange

/-! ## Names at the top -/

/-- The categories of the nodes that may stand at the top of a tree. -/
def Category.topmost : List Category := [.mod, .stmt, .expr]

theorem Category.eq_of_mem_topmost {c : Category} (hc : c ∈ topmost) :
    c = .mod ∨ c = .stmt ∨ c = .expr := by
  simpa [topmost] using hc

/-- The names by which documents are given to a reader are those that the reader knows. -/
theorem Category.topNames_eq {c : Category} (hc : c ∈ topmost) :
    c.topNames.map some = (Kind.all c).map Kind.tag? := by
  rcases Category.eq_of_mem_topmost hc with rfl | rfl | rfl <;> rfl

/-- A class is found under a name exactly when the name is listed. -/
theorem Kind.isSome_ofName?_iff {c : Category} (hc : c ∈ Category.topmost) (name : String) :
    (Kind.ofName? c name).isSome ↔ name ∈ c.topNames := by
  have hnames : some name ∈ (Kind.all c).map Kind.tag? ↔ name ∈ c.topNames := by
    rw [← Category.topNames_eq hc, List.mem_map_of_injective fun _ _ h => Option.some.inj h]
  rw [← hnames, Kind.ofName?, List.find?_isSome, List.mem_map]
  simp

/-- No name belongs to two categories, although some are alike: `Expr` is a statement and
`Expression` a module. -/
theorem Category.eq_of_mem_topNames {c d : Category} {name : String} (hc : name ∈ c.topNames)
    (hd : name ∈ d.topNames) : c = d := by
  by_cases hcd : c = d
  · exact hcd
  · -- the lists are compared name by name
    have hdisjoint : ∀ name ∈ c.topNames, name ∉ d.topNames := by
      cases c <;> cases d <;> first | exact absurd rfl hcd | decide +kernel
    exact absurd hd (hdisjoint name hc)

/-- A class of such a category is listed under its name. -/
theorem Kind.className_mem_topNames {c : Category} (hc : c ∈ Category.topmost) (k : Kind c) :
    k.className ∈ c.topNames := by
  have honly : Kind.only? c = none := by
    rcases Category.eq_of_mem_topmost hc with rfl | rfl | rfl <;> rfl
  rw [← Kind.isSome_ofName?_iff hc, Kind.ofName?_className honly]
  rfl

/-! ## Fields that may be left out -/

/-- Whether a field of this content can hold nothing at all, so that documents leave it out. -/
def Content.canBeAbsent : Content → Bool
  | .optional _ => true
  | .scalar .optionalIdentifier => true
  | .scalar .optionalDottedName => true
  | .scalar .optionalText => true
  | _ => false

/-- A field that can hold nothing is not one that documents have to give. -/
theorem Kind.required_eq_false_of_canBeAbsent {c : Category} (k : Kind c) :
    ∀ f ∈ k.fields, f.content.canBeAbsent → f.required = false := by
  cases k <;> decide +kernel

end SyntaxDump
