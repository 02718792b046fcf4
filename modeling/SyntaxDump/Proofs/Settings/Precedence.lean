import Mathlib
import SyntaxDump.Proofs.Settings.Layers

/-!
# Which layer counts

Layers whose values are all of the right kind always make settings. For each setting the last
direct value counts; only where there is none, the last file that sets it does, and where no layer
sets it the built-in value does. So a file that is added after a direct value does not change that
setting any more, although it comes later.

## Main statements

- `Settings.exists_load_realizes`: proper layers make settings, with the value that each one has;
- `Settings.load_file_after_attributes`: a file that comes later and does not count.
-/

namespace SyntaxDump

/-! ## Proper layers -/

/-- A document sets settings only in groups that are tables, and each to a value that it can
have. -/
structure Settings.ProperDocument (members : List (String × Json)) : Prop where
  groups : Settings.GroupsAreTables members
  accepts : ∀ x : Setting, ∀ j ∈ x.valuesIn (Settings.spelledOut members), x.Accepts (some j)

/-- The layer sets settings only to values that they can have. A file of settings can be read and
is proper. -/
inductive Layer.Proper (files : Files) : Layer → Prop
  | file {name : String} {members : List (String × Json)}
    (hread : (⟨name, true⟩ : SettingsFile).members? files = some members)
    (hproper : Settings.ProperDocument members) : Proper files (.file name)
  | optionalFile {name : String} {members : List (String × Json)}
    (hread : (⟨name, false⟩ : SettingsFile).members? files = some members)
    (hproper : Settings.ProperDocument members) : Proper files (.optionalFile name)
  | indent (spaces : UInt32) : Proper files (.indent spaces)
  | attributes : Proper files .attributes
  | format (name : String) : Proper files (.format name)
  | value (x : Setting) {j : Json} (h : x.Accepts (some j)) : Proper files (.value x.key j)

namespace Setting

/-- A table is no setting. -/
theorem Accepts.isEmptyTable_eq_false {x : Setting} {j : Json} (h : x.Accepts (some j)) :
    j.isEmptyTable = false := by
  cases j with
  | obj members => cases x <;> simp [Accepts, Json.asIndent?, Json.asTruth?, Json.asName?] at h
  | _ => rfl

/-- Every setting can have its built-in value. -/
theorem accepts_default? (x : Setting) : x.Accepts x.default? := by
  cases x <;> rfl

/-- A document that sets nothing but this setting. -/
theorem properDocument_atPath {x : Setting} {j : Json} (h : x.Accepts (some j)) :
    Settings.ProperDocument (j.atPath [x.group.key, x.name]) where
  groups := x.groupsAreTables_atPath j
  accepts y k hk := by
    rw [spelledOut_atPath, valuesIn_atPath] at hk
    split at hk
    · next hyx =>
      obtain rfl := List.mem_singleton.mp hk
      exact hyx ▸ h
    · cases hk

end Setting

namespace Layer

variable {files : Files} {l : Layer}

/-- The layer gives the setting a value. -/
def Sets (files : Files) (x : Setting) (l : Layer) : Prop := l.valuesOf files x ≠ []

/-- A proper layer that is no file sets one setting to a value that it can have. -/
theorem Proper.members?_eq (h : l.Proper files) (hfile : l.isFile = false) :
    ∃ (x : Setting) (j : Json), x.Accepts (some j) ∧
      l.members? files = some (j.atPath [x.group.key, x.name]) := by
  cases h with
  | file hread hproper => cases hfile
  | optionalFile hread hproper => cases hfile
  | indent spaces =>
    refine ⟨.indent, .int spaces.toNat, ?_, rfl⟩
    -- 32 bits hold no more than 64
    have hspaces : Width.unsigned 64 spaces.toNat = true :=
      Width.unsigned_iff.mpr ⟨Int.natCast_nonneg _, Int.ofNat_lt.mpr
        (Nat.lt_trans spaces.toNat_lt (by decide))⟩
    rw [Setting.Accepts, Option.getD_some, Json.asIndent?, if_pos hspaces]
    rfl
  | attributes => exact ⟨.includeAttributes, .bool true, rfl, rfl⟩
  | format name => exact ⟨.format, .str name, rfl, rfl⟩
  | value x hj =>
    refine ⟨x, _, hj, ?_⟩
    rw [members?, Setting.keyPath?_key]
    rfl

/-- A proper layer that is a file has the members of a proper document. -/
theorem Proper.members?_eq_of_isFile (h : l.Proper files) (hfile : l.isFile = true) :
    ∃ members, Settings.ProperDocument members ∧
      l.members? files = some (Settings.spelledOut members) := by
  cases h with
  | file hread hproper => exact ⟨_, hproper, by rw [members?, hread]; rfl⟩
  | optionalFile hread hproper => exact ⟨_, hproper, by rw [members?, hread]; rfl⟩
  | _ => cases hfile

/-- A proper layer can be read. -/
theorem Proper.readable (h : l.Proper files) : l.Readable files := by
  cases hfile : l.isFile with
  | true =>
    obtain ⟨members, hproper, hmembers⟩ := h.members?_eq_of_isFile hfile
    exact ⟨_, hmembers, hproper.groups.spelledOut⟩
  | false =>
    obtain ⟨x, j, -, hmembers⟩ := h.members?_eq hfile
    exact ⟨_, hmembers, x.groupsAreTables_atPath j⟩

/-- The values of a proper layer are such that settings can have them. -/
theorem Proper.accepts (h : l.Proper files) {x : Setting} {j : Json}
    (hj : j ∈ l.valuesOf files x) : x.Accepts (some j) := by
  cases hfile : l.isFile with
  | true =>
    obtain ⟨members, hproper, hmembers⟩ := h.members?_eq_of_isFile hfile
    rw [valuesOf, hmembers] at hj
    exact hproper.accepts x j hj
  | false =>
    obtain ⟨y, k, hk, hmembers⟩ := h.members?_eq hfile
    rw [valuesOf_eq hmembers] at hj
    split at hj
    · next hxy =>
      obtain rfl := List.mem_singleton.mp hj
      exact hxy ▸ hk
    · cases hj

end Layer

/-! ## The value that counts -/

namespace Settings

/-- The value of the last layer that sets the setting. -/
def lastValue? (files : Files) (x : Setting) (layers : List Layer) : Option Json :=
  (layers.flatMap (Layer.valuesOf files x)).getLast?

/-- The value of the last layer that sets the setting directly, or else of the last file that sets
it, or else the built-in one. -/
def counting (files : Files) (layers : List Layer) (x : Setting) : Option Json :=
  ((lastValue? files x (layers.filter (!·.isFile))).or
    (lastValue? files x (layers.filter Layer.isFile))).or x.default?

/-- The last layer that sets the setting sets it directly, or no layer does so. -/
def LastIsOnTop (files : Files) (layers : List Layer) (x : Setting) : Prop :=
  (∃ front l back, layers = front ++ l :: back ∧ l.isFile = false ∧ l.Sets files x ∧
    ∀ l' ∈ back, ¬l'.Sets files x) ∨
  ∀ l ∈ layers, l.Sets files x → l.isFile = true

variable {files : Files} {layers : List Layer}

/-- Of proper layers, the last value in the order of the store counts. -/
theorem winning_eq_counting (h : ∀ l ∈ layers, l.Proper files) (x : Setting) :
    winning files layers x = counting files layers x := by
  rw [winning, prevailing_eq, List.flatMap_append, List.getLast?_append]
  · rfl
  · intro j hj
    obtain ⟨l, hl, hj⟩ := List.mem_flatMap.mp hj
    have hmem : l ∈ layers := by
      rcases List.mem_append.mp hl with hl | hl
      · exact (List.mem_filter.mp hl).1
      · exact (List.mem_filter.mp hl).1
    exact ((h l hmem).accepts hj).isEmptyTable_eq_false

/-- Layers that do not set the setting have no values for it. -/
private theorem flatMap_valuesOf_eq_nil {x : Setting} (h : ∀ l ∈ layers, ¬l.Sets files x) :
    layers.flatMap (Layer.valuesOf files x) = [] :=
  List.flatMap_eq_nil_iff.mpr fun l hl => Classical.not_not.mp (h l hl)

/-- What comes before the last layer that sets the setting does not matter. -/
private theorem lastValue?_append_cons {x : Setting} {l : Layer} (hl : l.Sets files x)
    (front : List Layer) {back : List Layer} (hback : ∀ l' ∈ back, ¬l'.Sets files x) :
    lastValue? files x (front ++ l :: back) = (l.valuesOf files x).getLast? := by
  rw [lastValue?, List.flatMap_append, List.flatMap_cons, flatMap_valuesOf_eq_nil hback,
    List.append_nil, List.getLast?_append, List.getLast?_eq_some_getLast hl, Option.some_or]

/-- Where the layer that comes last is on top, it counts. -/
theorem counting_eq_of_lastIsOnTop {x : Setting} (h : LastIsOnTop files layers x) :
    counting files layers x = (lastValue? files x layers).or x.default? := by
  rw [counting]
  rcases h with ⟨front, l, back, rfl, hl, hsets, hback⟩ | hfiles
  · -- the layer is the last one also among the direct values
    have hdirect : (front ++ l :: back).filter (!·.isFile) =
        front.filter (!·.isFile) ++ l :: back.filter (!·.isFile) := by
      rw [List.filter_append, List.filter_cons_of_pos (by simp [hl])]
    rw [lastValue?_append_cons hsets front hback, hdirect,
      lastValue?_append_cons hsets _ fun l' hl' => hback l' (List.mem_filter.mp hl').1,
      List.getLast?_eq_some_getLast hsets, Option.some_or]
  · -- no direct value sets it, and leaving them out loses no value
    have hdirect : lastValue? files x (layers.filter (!·.isFile)) = none := by
      rw [lastValue?, flatMap_valuesOf_eq_nil, List.getLast?_nil]
      intro l hl hsets
      obtain ⟨hmem, hfile⟩ := List.mem_filter.mp hl
      simp [hfiles l hmem hsets] at hfile
    have hsame : (layers.filter Layer.isFile).flatMap (Layer.valuesOf files x) =
        layers.flatMap (Layer.valuesOf files x) := by
      clear hdirect
      induction layers with
      | nil => rfl
      | cons l rest ih =>
        obtain ⟨hl, hrest⟩ := List.forall_mem_cons.mp hfiles
        rw [List.flatMap_cons, ← ih hrest]
        by_cases hsets : l.Sets files x
        · rw [List.filter_cons_of_pos (hl hsets), List.flatMap_cons]
        · rw [Classical.not_not.mp hsets, List.nil_append, List.filter_cons]
          split
          · rw [List.flatMap_cons, Classical.not_not.mp hsets, List.nil_append]
          · rfl
    rw [hdirect, Option.none_or, lastValue?, hsame, lastValue?]

/-- What counts for a setting is a value that it can have. -/
theorem accepts_counting (h : ∀ l ∈ layers, l.Proper files) (x : Setting) :
    x.Accepts (counting files layers x) := by
  have hlast {some? : List Layer} (hsome : ∀ l ∈ some?, l ∈ layers) {j : Json}
      (hj : lastValue? files x some? = some j) : x.Accepts (some j) := by
    obtain ⟨l, hl, hmem⟩ := List.mem_flatMap.mp (List.mem_of_getLast? hj)
    exact (h l (hsome l hl)).accepts hmem
  rw [counting]
  cases hdirect : lastValue? files x (layers.filter (!·.isFile)) with
  | some j => exact hlast (fun l hl => (List.mem_filter.mp hl).1) hdirect
  | none =>
    cases hfile : lastValue? files x (layers.filter Layer.isFile) with
    | some j => exact hlast (fun l hl => (List.mem_filter.mp hl).1) hfile
    | none => exact x.accepts_default?

/-- Proper layers make settings. Each has the value of the last layer that sets it directly, or
else of the last file that sets it, or else the built-in one; this is the value of the last layer
of all unless that is a file and another layer sets it directly. -/
theorem exists_load_realizes (h : ∀ l ∈ layers, l.Proper files) :
    ∃ s, load files layers = .ok s ∧ s.Realizes (counting files layers) ∧
      ∀ x, LastIsOnTop files layers x →
        counting files layers x = (lastValue? files x layers).or x.default? := by
  have hwinning : winning files layers = counting files layers :=
    funext fun x => winning_eq_counting h x
  obtain ⟨s, hs⟩ := exists_realizes_iff.mpr (accepts_counting h)
  refine ⟨s, ?_, hs, fun x hx => counting_eq_of_lastIsOnTop hx⟩
  rwa [load_eq_ok_iff fun l hl => (h l hl).readable, hwinning]

/-- A single file, which leaves out locations. -/
private def quietFile : Files where
  read path := if path = "a.toml" then .ok "[dump]\ninclude_attributes = false\n" else .error .missing

private theorem members?_quietFile :
    (⟨"a.toml", true⟩ : SettingsFile).members? quietFile =
      some ((Json.bool false).atPath ["dump", "include_attributes"]) := by
  have hread : Toml.read "[dump]\ninclude_attributes = false\n" =
      some ((Json.bool false).atPath ["dump", "include_attributes"]) := by cbv
  exact hread

private theorem proper_quietFile : (Layer.file "a.toml").Proper quietFile :=
  .file members?_quietFile (Setting.properDocument_atPath (x := .includeAttributes) rfl)

private theorem valuesOf_quietFile (x : Setting) :
    (Layer.file "a.toml").valuesOf quietFile x =
      if x = .includeAttributes then [.bool false] else [] := by
  refine Layer.valuesOf_eq ?_ x
  have hspelled := Setting.spelledOut_atPath .includeAttributes (.bool false)
  rw [Setting.group, Section.key, Setting.name] at hspelled
  rw [Layer.members?, members?_quietFile, Option.map_some, hspelled]
  rfl

private theorem valuesOf_attributes (x : Setting) :
    Layer.attributes.valuesOf quietFile x = if x = .includeAttributes then [.bool true] else [] :=
  Layer.valuesOf_eq (x := .includeAttributes) rfl x

/-- A file, and a direct value for another setting. -/
theorem exists_load_realizes_quiet :
    ∃ s, load quietFile [.file "a.toml", .format "json"] = .ok s ∧
      s.format = "json" ∧ s.options.includeAttributes = false := by
  have hformat (x : Setting) : (Layer.format "json").valuesOf quietFile x =
      if x = .format then [.str "json"] else [] := Layer.valuesOf_eq (x := .format) rfl x
  have hproper : ∀ l ∈ [Layer.file "a.toml", .format "json"], l.Proper quietFile :=
    List.forall_mem_cons.mpr
      ⟨proper_quietFile, List.forall_mem_cons.mpr ⟨.format "json", nofun⟩⟩
  obtain ⟨s, hs, hvalues, -⟩ := exists_load_realizes hproper
  have hfiles : [Layer.file "a.toml", .format "json"].filter Layer.isFile = [.file "a.toml"] := rfl
  have hdirect : [Layer.file "a.toml", .format "json"].filter (!·.isFile) = [.format "json"] := rfl
  refine ⟨s, hs, ?_, ?_⟩
  · have h := hvalues.format
    simp only [counting, lastValue?, hdirect, List.flatMap_singleton, hformat] at h
    exact (Option.some.inj h).symm
  · have h := hvalues.includeAttributes
    simp only [counting, lastValue?, hdirect, hfiles, List.flatMap_singleton, hformat,
      valuesOf_quietFile] at h
    exact (Option.some.inj h).symm

/-- A file that comes after a direct value is of no effect on that setting. -/
theorem load_file_after_attributes :
    (∀ l ∈ [Layer.attributes, .file "a.toml"], l.Proper quietFile) ∧
      lastValue? quietFile .includeAttributes [.attributes, .file "a.toml"] = some (.bool false) ∧
      load quietFile [.attributes, .file "a.toml"] = .ok ⟨⟨none, true, true⟩, "dump"⟩ := by
  have hproper : ∀ l ∈ [Layer.attributes, .file "a.toml"], l.Proper quietFile :=
    List.forall_mem_cons.mpr ⟨.attributes, List.forall_mem_cons.mpr ⟨proper_quietFile, nofun⟩⟩
  have hvalue (x : Setting) : winning quietFile [.attributes, .file "a.toml"] x =
      if x = .includeAttributes then some (.bool true) else x.default? := by
    have hfiles : [Layer.attributes, .file "a.toml"].filter Layer.isFile = [.file "a.toml"] := rfl
    have hdirect : [Layer.attributes, .file "a.toml"].filter (!·.isFile) = [.attributes] := rfl
    rw [winning_eq_counting hproper, counting, lastValue?, lastValue?, hfiles, hdirect]
    cases x <;> simp [valuesOf_attributes, valuesOf_quietFile]
  refine ⟨hproper, ?_, ?_⟩
  · simp [lastValue?, valuesOf_attributes, valuesOf_quietFile]
  · rw [load_eq_ok_iff fun l hl => (hproper l hl).readable]
    constructor <;> rw [hvalue] <;> rfl

end Settings

end SyntaxDump
