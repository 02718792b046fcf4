import SyntaxDump.Proofs.Settings.Resolve

/-!
# What layers make of settings

Each layer puts members into the store: those of its file, or a single value at a key. The files
are put first, whatever the order of the calls, so a value that is given directly counts more than
every file, and only among files and among direct values the later one counts.

## Main statements

- `Settings.load_eq_ok_iff`: the settings that layers make, with what counts at each key;
- `Settings.exists_load_realizes`: layers with proper values always make settings, those that the
  last direct value of each setting tells, or else the last file.
-/

namespace SyntaxDump

/-! ## The members of layers -/

namespace Settings

/-- The members of a document, with keys that are made of parts spelled out as tables. -/
def spelledOut (members : List (String × Json)) : List (String × Json) :=
  members.flatMap fun m => m.2.atPath ((keyPath? m.1).getD [m.1])

/-- A document is put like the table that it is. -/
theorem putDocument_eq (file : String) (s : Store) (members : List (String × Json)) :
    putDocument file s members = s.putMembers (some file) (spelledOut members) := by
  rw [putDocument, spelledOut]
  -- one member after the other, each on top of the store that the ones before it leave
  induction members generalizing s with
  | nil => rfl
  | cons m rest ih =>
    obtain ⟨key, j⟩ := m
    rw [List.foldl_cons, List.flatMap_cons, Store.putMembers_append, ← Store.putPath_eq, ih]

/-- What the members of a document give for groups are tables. -/
def GroupsAreTables (members : List (String × Json)) : Prop :=
  ∀ g : Section, ∀ j ∈ Json.valuesAt g.key members, j.isTable

/-- A key that is a single part is that part. -/
private theorem eq_of_keyPath?_eq_singleton {key part : String} (h : keyPath? key = some [part]) :
    part = key := by
  rw [keyPath?] at h
  split at h
  · have hparts := Option.some.inj h
    rw [List.map_eq_singleton_iff] at hparts
    obtain ⟨cs, hsplit, rfl⟩ := hparts
    -- the part is joined from itself alone
    have hjoin : ['.'].intercalate (key.toList.splitOn '.') = key.toList :=
      List.intercalate_splitOn '.'
    rw [hsplit, List.intercalate_singleton] at hjoin
    rw [hjoin, String.ofList_toList]
  · cases h

/-- Spelled-out keys lead to tables; the others are the keys of the document. -/
theorem GroupsAreTables.spelledOut {members : List (String × Json)} (h : GroupsAreTables members) :
    GroupsAreTables (spelledOut members) := by
  intro g j hj
  obtain ⟨m, hm, rfl⟩ := List.mem_map.mp hj
  obtain ⟨hm, hlower⟩ := List.mem_filter.mp hm
  obtain ⟨⟨key, j⟩, hmem, hm⟩ := List.mem_flatMap.mp hm
  -- the member of the document itself, if its key is not changed
  have hsame (path : List String) (hpath : path = [key]) (hm : m ∈ j.atPath path) :
      m.2.isTable := by
    subst hpath
    obtain rfl := List.mem_singleton.mp hm
    exact h g j (List.mem_map.mpr ⟨(key, j), List.mem_filter.mpr ⟨hmem, hlower⟩, rfl⟩)
  cases hpath : keyPath? key with
  | none => exact hsame _ (by rw [hpath]; rfl) hm
  | some path =>
    cases path with
    | nil => simp [hpath, Json.atPath] at hm
    | cons part rest =>
      cases rest with
      | nil =>
        -- a single part is the key itself, so nothing was spelled out
        obtain rfl := eq_of_keyPath?_eq_singleton hpath
        exact hsame _ (by rw [hpath]; rfl) hm
      | cons part' rest =>
        rw [hpath] at hm
        obtain rfl := List.mem_singleton.mp hm
        rfl

end Settings

/-- The members of a file of settings, if it is there and can be read; one that may be missing has
none then. -/
def SettingsFile.members? (files : Files) (f : SettingsFile) : Option (List (String × Json)) :=
  match Settings.find? files f.name with
  | some (_, text) => Toml.read text
  | none => if f.required then none else some []

/-- The members of a file that is there under the name itself. -/
theorem SettingsFile.members?_eq_read {files : Files} {f : SettingsFile} {text : String}
    (h : files.text? f.name = some text) : f.members? files = Toml.read text := by
  rw [members?, Settings.find?, h]

/-! ## The keys of settings -/

/-- The keys of groups have no capital letters. -/
theorem Section.lower_key (g : Section) : Unicode.lower g.key = g.key := by
  cases g <;> decide +kernel

namespace Setting

/-- The names of settings have no capital letters. -/
theorem lower_name (x : Setting) : Unicode.lower x.name = x.name := by
  cases x <;> decide +kernel

/-- The key of a setting leads to the group and there to the name. -/
theorem keyPath?_key (x : Setting) : Settings.keyPath? x.key = some [x.group.key, x.name] := by
  cases x <;> decide +kernel

/-- The key of a group is a single part. -/
theorem spelledOut_atPath (x : Setting) (j : Json) :
    Settings.spelledOut (j.atPath [x.group.key, x.name]) = j.atPath [x.group.key, x.name] := by
  have hpath : Settings.keyPath? x.group.key = some [x.group.key] := by
    cases x <;> decide +kernel
  rw [Settings.spelledOut, Json.atPath, List.flatMap_cons, List.flatMap_nil, hpath]
  rfl

/-- A table for a group with a single member. -/
theorem groupsAreTables_atPath (x : Setting) (j : Json) :
    Settings.GroupsAreTables (j.atPath [x.group.key, x.name]) := by
  intro g t ht
  obtain ⟨m, hm, rfl⟩ := List.mem_map.mp ht
  obtain rfl := List.mem_singleton.mp (List.mem_filter.mp hm).1
  rfl

/-- A value at the key of a setting sets this one and no other. -/
theorem valuesIn_atPath (x y : Setting) (j : Json) :
    y.valuesIn (j.atPath [x.group.key, x.name]) = if y = x then [j] else [] := by
  have hgroup := x.group.lower_key
  have hname := x.lower_name
  rw [valuesIn, Json.valuesIn, Json.atPath, Json.nested, Json.nested]
  by_cases hg : x.group.key = y.group.key
  · rw [Json.valuesAt_cons_of_eq (hgroup.trans hg), List.flatMap_cons, Json.tableMembers]
    by_cases hn : x.name = y.name
    · rw [Json.valuesAt_cons_of_eq (hname.trans hn)]
      have hxy : y = x := by revert hg hn; cases x <;> cases y <;> decide
      rw [if_pos hxy]
      rfl
    · rw [Json.valuesAt_cons_of_ne (by rwa [hname]), if_neg (mt (congrArg name) (Ne.symm hn))]
      rfl
  · rw [Json.valuesAt_cons_of_ne (by rwa [hgroup]),
      if_neg (mt (congrArg fun z => z.group.key) (Ne.symm hg))]
    rfl

end Setting

namespace Layer

/-- Whether the layer is a file. -/
def isFile (l : Layer) : Bool := l.file?.isSome

/-- The members that a layer puts, if it can be read. -/
def members? (files : Files) : Layer → Option (List (String × Json))
  | .file name => ((⟨name, true⟩ : SettingsFile).members? files).map Settings.spelledOut
  | .optionalFile name => ((⟨name, false⟩ : SettingsFile).members? files).map Settings.spelledOut
  | .indent spaces => some [("dump", .obj [("indent", .int spaces.toNat)])]
  | .attributes => some [("dump", .obj [("include_attributes", .bool true)])]
  | .format name => some [("output", .obj [("format", .str name)])]
  | .value key j => (Settings.keyPath? key).map j.atPath

/-- The values that a layer gives to a setting. -/
def valuesOf (files : Files) (x : Setting) (l : Layer) : List Json :=
  x.valuesIn ((l.members? files).getD [])

/-- The members of a layer that is a file. -/
theorem members?_of_file?_eq_some {files : Files} {l : Layer} {f : SettingsFile}
    (h : l.file? = some f) :
    l.members? files = (f.members? files).map Settings.spelledOut := by
  cases l with
  | file name => exact Option.some.inj h ▸ rfl
  | optionalFile name => exact Option.some.inj h ▸ rfl
  | _ => cases h

/-- The values of a layer that sets a single setting. -/
theorem valuesOf_eq {files : Files} {l : Layer} {x : Setting} {j : Json}
    (h : l.members? files = some (j.atPath [x.group.key, x.name])) (y : Setting) :
    l.valuesOf files y = if y = x then [j] else [] := by
  rw [valuesOf, h, Option.getD_some, Setting.valuesIn_atPath]

/-- The layer can be read, and what it puts for groups are tables. -/
def Readable (files : Files) (l : Layer) : Prop :=
  ∃ members, l.members? files = some members ∧ Settings.GroupsAreTables members

end Layer

/-! ## Stores -/

namespace Settings

open Store (Shows)

/-- The groups of the store are tables in which the settings have the values. -/
structure Holds (store : Store) (values : Setting → Option Json) : Prop where
  hasTable : ∀ g : Section, store.HasTable g.key
  shows : ∀ x : Setting, Shows (store.setting? x.group.key x.name) (values x)

variable {store : Store} {values : Setting → Option Json} {files : Files}

/-- What a store holds after members were put. -/
theorem Holds.putMembers (h : Holds store values) (file : Option String)
    {members : List (String × Json)} (htables : GroupsAreTables members) :
    Holds (store.putMembers file members) fun x => prevailing (values x) (x.valuesIn members) where
  hasTable g := (h.hasTable g).putMembers file (htables g)
  shows x := Store.shows_setting?_putMembers (h.shows x) file (htables x.group)

/-- At first a store holds the built-in values. -/
theorem holds_builtIn : Holds (Store.putMembers none builtIn (.table [])) Setting.default? := by
  have hdump : Unicode.lower "dump" = "dump" := Section.dump.lower_key
  have houtput : Unicode.lower "output" = "output" := Section.output.lower_key
  have hannotate : Unicode.lower "annotate_fields" = "annotate_fields" :=
    Setting.annotateFields.lower_name
  have hinclude : Unicode.lower "include_attributes" = "include_attributes" :=
    Setting.includeAttributes.lower_name
  have hformat : Unicode.lower "format" = "format" := Setting.format.lower_name
  have hstore : Store.putMembers none builtIn (.table []) =
      .table [("dump", .table [("annotate_fields", .leaf (.bool true) none),
          ("include_attributes", .leaf (.bool false) none)]),
        ("output", .table [("format", .leaf (.str "dump") none)])] := by
    simp [builtIn, Store.putMembers, Store.put, Store.at_, Store.entries, Store.alter, hdump,
      houtput, hannotate, hinclude, hformat]
  rw [hstore]
  constructor
  · intro g
    cases g
    · exact ⟨_, rfl⟩
    · exact ⟨_, rfl⟩
  · intro x
    cases x
    · exact .nothing
    · exact .leaf rfl none
    · exact .leaf rfl none
    · exact .leaf rfl none

/-! ## Files -/

/-- What a file leaves in a store, if it can be read. -/
theorem exists_addFile_eq_ok (h : Holds store values) {f : SettingsFile}
    {members : List (String × Json)} (hmembers : f.members? files = some members)
    (htables : GroupsAreTables (spelledOut members)) :
    ∃ store', addFile files store f = .ok store' ∧
      Holds store' fun x => prevailing (values x) (x.valuesIn (spelledOut members)) := by
  rw [SettingsFile.members?] at hmembers
  rw [addFile]
  cases hfind : find? files f.name with
  | some found =>
    obtain ⟨name, text⟩ := found
    rw [hfind] at hmembers
    simp only at hmembers ⊢
    rw [hmembers]
    refine ⟨_, rfl, ?_⟩
    rw [putDocument_eq]
    exact h.putMembers (some name) htables
  | none =>
    rw [hfind] at hmembers
    simp only at hmembers ⊢
    split at hmembers
    · cases hmembers
    · next hrequired =>
      -- the file may be missing, and nothing is put for it
      obtain rfl := Option.some.inj hmembers
      exact ⟨store, if_neg hrequired, h.putMembers none htables⟩

/-- What the files of layers leave in a store, one after another. -/
theorem exists_foldlM_addFile_eq_ok (h : Holds store values) {layers : List Layer}
    (hreadable : ∀ l ∈ layers, l.Readable files) :
    ∃ store', (layers.filterMap Layer.file?).foldlM (addFile files) store = .ok store' ∧
      Holds store' fun x =>
        prevailing (values x) ((layers.filter Layer.isFile).flatMap (Layer.valuesOf files x)) := by
  induction layers generalizing store values with
  | nil =>
    refine ⟨store, rfl, ?_⟩
    simpa only [List.filter_nil, List.flatMap_nil, prevailing_nil] using h
  | cons l rest ih =>
    obtain ⟨⟨members, hmembers, htables⟩, hrest⟩ := List.forall_mem_cons.mp hreadable
    cases hfile : l.file? with
    | none =>
      -- a direct value is not put yet
      rw [List.filterMap_cons_none hfile, List.filter_cons_of_neg (by simp [Layer.isFile, hfile])]
      exact ih h hrest
    | some f =>
      rw [Layer.members?_of_file?_eq_some hfile, Option.map_eq_some_iff] at hmembers
      obtain ⟨own, hown, rfl⟩ := hmembers
      obtain ⟨store', hadd, hholds⟩ := exists_addFile_eq_ok h hown htables
      obtain ⟨last, hlast, hlastHolds⟩ := ih hholds hrest
      have hvalues (x : Setting) : l.valuesOf files x = x.valuesIn (spelledOut own) := by
        rw [Layer.valuesOf, Layer.members?_of_file?_eq_some hfile, hown]
        rfl
      rw [List.filterMap_cons_some hfile, List.foldlM_cons]
      refine ⟨last, Except.bind_eq_ok_iff.mpr ⟨store', hadd, hlast⟩, ?_⟩
      rw [List.filter_cons_of_pos (by simp [Layer.isFile, hfile])]
      simpa only [List.flatMap_cons, hvalues, prevailing_append] using hlastHolds

/-! ## Direct values -/

/-- What a layer that is no file puts directly. -/
theorem exists_assignment?_eq_ok {l : Layer} (hfile : l.file? = none) (hreadable : l.Readable files) :
    ∃ a, l.assignment? = .ok (some a) ∧ l.members? files = some (a.value.atPath a.path) := by
  obtain ⟨members, hmembers, -⟩ := hreadable
  cases l with
  | file name => cases hfile
  | optionalFile name => cases hfile
  | indent spaces => exact ⟨_, rfl, rfl⟩
  | attributes => exact ⟨_, rfl, rfl⟩
  | format name => exact ⟨_, rfl, rfl⟩
  | value key j =>
    obtain ⟨path, hpath, -⟩ := Option.map_eq_some_iff.mp hmembers
    refine ⟨⟨path, j⟩, ?_, ?_⟩
    · rw [Layer.assignment?, hpath]
    · rw [Layer.members?, hpath]
      rfl

/-- What a value leaves in a store. -/
theorem Holds.assign (h : Holds store values) (a : Assignment)
    (htables : GroupsAreTables (a.value.atPath a.path)) :
    Holds (assign store a) fun x =>
      prevailing (values x) (x.valuesIn (a.value.atPath a.path)) := by
  rw [Settings.assign, Store.putPath_eq]
  exact h.putMembers none htables

/-- What the direct values of layers leave in a store, one after another. -/
theorem exists_assignments_eq_ok {layers : List Layer}
    (hreadable : ∀ l ∈ layers, l.Readable files) :
    ∃ as, assignments layers = .ok as ∧ ∀ {store values}, Holds store values →
      Holds (as.foldl assign store) fun x =>
        prevailing (values x)
          ((layers.filter (!·.isFile)).flatMap (Layer.valuesOf files x)) := by
  induction layers with
  | nil =>
    refine ⟨[], rfl, fun h => ?_⟩
    simpa only [List.foldl_nil, List.filter_nil, List.flatMap_nil, prevailing_nil] using h
  | cons l rest ih =>
    obtain ⟨hl, hrest⟩ := List.forall_mem_cons.mp hreadable
    obtain ⟨as, has, hholds⟩ := ih hrest
    rw [assignments]
    cases hfile : l.file? with
    | some f =>
      have hnone : l.assignment? = .ok none := by
        cases l <;> first | rfl | cases hfile
      refine ⟨as, ?_, fun h => ?_⟩
      · rw [hnone, has]
        rfl
      · rw [List.filter_cons_of_neg (by simp [Layer.isFile, hfile])]
        exact hholds h
    | none =>
      obtain ⟨a, ha, hmembers⟩ := exists_assignment?_eq_ok hfile hl
      refine ⟨a :: as, ?_, fun h => ?_⟩
      · rw [ha, has]
        rfl
      · obtain ⟨members, hsome, htables⟩ := hl
        obtain rfl := Option.some.inj (hmembers.symm.trans hsome)
        rw [List.filter_cons_of_pos (by simp [Layer.isFile, hfile])]
        simpa only [List.foldl_cons, List.flatMap_cons, Layer.valuesOf, hmembers, Option.getD_some,
          prevailing_append] using hholds (h.assign a htables)

/-! ## Settings -/

/-- What counts for a setting: the direct values of layers are on top of those of files, and both
on top of the built-in value. -/
def winning (files : Files) (layers : List Layer) (x : Setting) : Option Json :=
  prevailing x.default?
    ((layers.filter Layer.isFile ++ layers.filter (!·.isFile)).flatMap (Layer.valuesOf files x))

/-- The settings that layers make are what counts at each key means. -/
theorem load_eq_ok_iff {layers : List Layer} (hreadable : ∀ l ∈ layers, l.Readable files)
    (s : Settings) : load files layers = .ok s ↔ s.Realizes (winning files layers) := by
  obtain ⟨as, has, hdirect⟩ := exists_assignments_eq_ok hreadable
  obtain ⟨store, hstore, hfiles⟩ := exists_foldlM_addFile_eq_ok holds_builtIn hreadable
  -- the keys of direct values are read first, but the values are put after the files
  have hstack : stack files layers = .ok (as.foldl assign store) :=
    Except.bind_eq_ok_iff.mpr ⟨as, has, Except.bind_eq_ok_iff.mpr ⟨store, hstore, rfl⟩⟩
  have hholds : Holds (as.foldl assign store) (winning files layers) := by
    have h := hdirect hfiles
    simp only [← prevailing_append, ← List.flatMap_append] at h
    exact h
  rw [load, hstack, ← ofStore_eq_ok_iff hholds.hasTable hholds.shows]
  rfl

end Settings

end SyntaxDump
