import Mathlib
import SyntaxDump.Proofs.CommandLine.Run
import SyntaxDump.Proofs.Settings.Layers

/-!
# Where the settings of a run come from

Three things can tell a setting: a flag, the file of settings, and the built-in values. The value
of a flag counts first, then that of the file, then the built-in one, and only the value that
counts has to be one that the setting can have. An empty table is no value of a setting: where
there is another value, it is left in place.

## Main statements

- `Arguments.winning_layers`: the value that counts for each setting;
- `Arguments.run_of_rawValue`: a run that is told a file of settings goes on exactly if each
  setting can have the value that counts.
-/

namespace SyntaxDump

open Settings (prevailing)

namespace Arguments

/-- The value that a flag gives to a setting. -/
def flagValue? (a : Arguments) : Setting → Option Json
  | .indent => a.indent.map fun n => .int n.toNat
  | .annotateFields => none
  | .includeAttributes => if a.attributes then some (.bool true) else none
  | .format => a.format.map .str

/-- The members of the file of settings, if one is named; it has to be there and to be TOML. -/
def fileMembers? (files : Files) (a : Arguments) : Option (List (String × Json)) :=
  match a.config with
  | some name => (⟨name, true⟩ : SettingsFile).members? files
  | none => some []

/-- The value that counts for a setting: that of the flag, or else that of the file with the given
members, or else the built-in one. -/
def rawValue (a : Arguments) (members : List (String × Json)) (x : Setting) : Option Json :=
  (a.flagValue? x).or (prevailing x.default? (x.valuesIn (Settings.spelledOut members)))

/-- The layers that flags are. -/
def flagLayers (a : Arguments) : List Layer :=
  (a.indent.map Layer.indent).toList ++ (if a.attributes then [.attributes] else []) ++
    (a.format.map Layer.format).toList

variable {files : Files} {a : Arguments} {members : List (String × Json)}

/-- The file of settings comes before the flags. -/
theorem layers_eq (a : Arguments) : a.layers = (a.config.map Layer.file).toList ++ a.flagLayers := by
  rw [layers, flagLayers, List.append_assoc, List.append_assoc, List.append_assoc]

/-! ## The layers of flags -/

/-- The values of a flag that may be given. -/
private theorem flatMap_valuesOf_toList {α : Type} {layer : α → Layer} {x : Setting}
    {value : α → Json}
    (h : ∀ v, (layer v).members? files = some ((value v).atPath [x.group.key, x.name]))
    (given : Option α) (y : Setting) :
    (given.map layer).toList.flatMap (Layer.valuesOf files y) =
      if y = x then (given.map value).toList else [] := by
  cases given with
  | none => split <;> rfl
  | some v =>
    rw [Option.map_some, Option.map_some, Option.toList_some, List.flatMap_singleton,
      Layer.valuesOf_eq (h v), Option.toList_some]

/-- Together the flags give a setting the value of its own flag. -/
theorem flatMap_valuesOf_flagLayers (a : Arguments) (x : Setting) :
    a.flagLayers.flatMap (Layer.valuesOf files x) = (a.flagValue? x).toList := by
  have hattributes : (if a.attributes then [Layer.attributes] else []) =
      ((if a.attributes then some () else none).map fun _ => Layer.attributes).toList := by
    split <;> rfl
  rw [flagLayers, hattributes, List.flatMap_append, List.flatMap_append,
    flatMap_valuesOf_toList (x := .indent) fun _ => rfl,
    flatMap_valuesOf_toList (x := .includeAttributes) fun _ => rfl,
    flatMap_valuesOf_toList (x := .format) fun _ => rfl]
  cases x with
  | indent => simp [flagValue?]
  | annotateFields => rfl
  | includeAttributes => cases h : a.attributes <;> simp [flagValue?, h]
  | format => simp [flagValue?]

/-- A layer that is a flag sets one setting directly. -/
theorem members?_of_mem_flagLayers {l : Layer} (h : l ∈ a.flagLayers) :
    l.file? = none ∧ ∃ (x : Setting) (j : Json),
      ∀ files, l.members? files = some (j.atPath [x.group.key, x.name]) := by
  rw [flagLayers, List.mem_append, List.mem_append] at h
  rcases h with (h | h) | h
  · obtain ⟨n, -, rfl⟩ := Option.map_eq_some_iff.mp (Option.mem_toList.mp h)
    exact ⟨rfl, .indent, .int n.toNat, fun _ => rfl⟩
  · split at h
    · obtain rfl := List.mem_singleton.mp h
      exact ⟨rfl, .includeAttributes, .bool true, fun _ => rfl⟩
    · cases h
  · obtain ⟨name, -, rfl⟩ := Option.map_eq_some_iff.mp (Option.mem_toList.mp h)
    exact ⟨rfl, .format, .str name, fun _ => rfl⟩

/-- No flag gives a table. -/
theorem isEmptyTable_of_flagValue? {x : Setting} {j : Json} (h : a.flagValue? x = some j) :
    j.isEmptyTable = false := by
  cases x with
  | indent =>
    obtain ⟨n, -, rfl⟩ := Option.map_eq_some_iff.mp h
    rfl
  | annotateFields => cases h
  | includeAttributes =>
    rw [flagValue?] at h
    split at h
    · exact Option.some.inj h ▸ rfl
    · cases h
  | format =>
    obtain ⟨name, -, rfl⟩ := Option.map_eq_some_iff.mp h
    rfl

/-! ## All layers -/

/-- The layer of the file of settings has the members of the file. -/
private theorem members?_file {name : String} (hname : a.config = some name)
    (hmembers : a.fileMembers? files = some members) :
    (Layer.file name).members? files = some (Settings.spelledOut members) := by
  rw [fileMembers?, hname] at hmembers
  exact Option.map_eq_some_iff.mpr ⟨members, hmembers, rfl⟩

/-- The layers of a run can be read if the file of settings can. -/
theorem readable_of_mem_layers (hmembers : a.fileMembers? files = some members)
    (htables : Settings.GroupsAreTables members) {l : Layer} (h : l ∈ a.layers) :
    l.Readable files := by
  rw [layers_eq, List.mem_append] at h
  rcases h with h | h
  · obtain ⟨name, hname, rfl⟩ := Option.map_eq_some_iff.mp (Option.mem_toList.mp h)
    exact ⟨_, members?_file hname hmembers, htables.spelledOut⟩
  · obtain ⟨-, x, j, hmembers⟩ := members?_of_mem_flagLayers h
    exact ⟨_, hmembers files, x.groupsAreTables_atPath j⟩

/-- The file of settings gives the values of its members. -/
private theorem flatMap_valuesOf_config (hmembers : a.fileMembers? files = some members)
    (x : Setting) :
    (a.config.map Layer.file).toList.flatMap (Layer.valuesOf files x) =
      x.valuesIn (Settings.spelledOut members) := by
  cases hconfig : a.config with
  | none =>
    rw [fileMembers?, hconfig] at hmembers
    obtain rfl := Option.some.inj hmembers
    rfl
  | some name =>
    rw [Option.map_some, Option.toList_some, List.flatMap_singleton, Layer.valuesOf,
      members?_file hconfig hmembers, Option.getD_some]

/-- What counts for a setting is the value of the flag, or else that of the file, or else the
built-in one. -/
theorem winning_layers (hmembers : a.fileMembers? files = some members) (x : Setting) :
    Settings.winning files a.layers x = a.rawValue members x := by
  have hfile {l : Layer} (hl : l ∈ (a.config.map Layer.file).toList) : l.isFile = true := by
    obtain ⟨name, -, rfl⟩ := Option.map_eq_some_iff.mp (Option.mem_toList.mp hl)
    rfl
  have hflag {l : Layer} (hl : l ∈ a.flagLayers) : l.isFile = false := by
    rw [Layer.isFile, (members?_of_mem_flagLayers hl).1]
    rfl
  have hfiles : a.layers.filter Layer.isFile = (a.config.map Layer.file).toList := by
    rw [layers_eq, List.filter_append, List.filter_eq_self.mpr fun l hl => hfile hl,
      List.filter_eq_nil_iff.mpr fun l hl => by simp [hflag hl], List.append_nil]
  have hflags : a.layers.filter (!·.isFile) = a.flagLayers := by
    rw [layers_eq, List.filter_append, List.filter_eq_nil_iff.mpr fun l hl => by simp [hfile hl],
      List.filter_eq_self.mpr fun l hl => by simp [hflag hl], List.nil_append]
  -- the file is put first, and the only value of a flag on top of its values
  rw [Settings.winning, hfiles, hflags, List.flatMap_append, flatMap_valuesOf_config hmembers,
    flatMap_valuesOf_flagLayers, Settings.prevailing_append, Settings.prevailing_eq, rawValue]
  · cases a.flagValue? x <;> rfl
  · intro j hj
    exact isEmptyTable_of_flagValue? (Option.mem_toList.mp hj)

/-- The settings of a run are what the values that count mean. -/
theorem load_layers_eq_ok_iff (hmembers : a.fileMembers? files = some members)
    (htables : Settings.GroupsAreTables members) (s : Settings) :
    Settings.load files a.layers = .ok s ↔ s.Realizes (a.rawValue members) := by
  have hwinning : Settings.winning files a.layers = a.rawValue members :=
    funext (winning_layers hmembers)
  rw [Settings.load_eq_ok_iff fun l hl => readable_of_mem_layers hmembers htables hl, hwinning]

/-- The settings of a run are what the values that count mean, and there are some exactly if each
setting can have its value. Then the run goes on, and whatever else it fails for it is not the
settings; otherwise it fails. -/
theorem run_of_rawValue {words : List String} (hread : Arguments.read words = .ok (.run a))
    (hmembers : a.fileMembers? files = some members)
    (htables : Settings.GroupsAreTables members) :
    (∀ s, Settings.load files a.layers = .ok s ↔ s.Realizes (a.rawValue members)) ∧
    ((∀ x : Setting, x.Accepts (a.rawValue members x)) →
      ∃ s, s.Realizes (a.rawValue members) ∧
        run files words = .ofResult (Run.carryOut files a s) ∧
        ∀ e, Run.carryOut files a s ≠ .error (.settings e)) ∧
    ∀ x : Setting, ¬x.Accepts (a.rawValue members x) →
      ∃ e, run files words = .failed (.settings e) ∧ (run files words).exitCode = 1 := by
  have hload := load_layers_eq_ok_iff hmembers htables
  refine ⟨hload, fun haccepts => ?_, fun x hx => ?_⟩
  · obtain ⟨s, hs⟩ := Settings.exists_realizes_iff.mpr haccepts
    exact ⟨s, hs, Run.run_of_load_eq_ok hread ((hload s).mpr hs), Run.carryOut_ne_settings s⟩
  · cases hsettings : Settings.load files a.layers with
    | ok s => exact absurd (Settings.exists_realizes_iff.mp ⟨s, (hload s).mp hsettings⟩ x) hx
    | error e =>
      have hrun := Run.run_of_load_eq_error hread hsettings
      exact ⟨e, hrun, by rw [hrun]; rfl⟩

/-- A file whose members are a value for a single setting. -/
theorem rawValue_atPath (a : Arguments) (x y : Setting) (j : Json) :
    a.rawValue (j.atPath [x.group.key, x.name]) y =
      (a.flagValue? y).or (prevailing y.default? (if y = x then [j] else [])) := by
  rw [rawValue, Setting.spelledOut_atPath, Setting.valuesIn_atPath]

/-- A value of the file that would not do is of no effect where a flag is given. -/
theorem run_of_rawValue_hidden :
    ∃ s : Settings, s.options.includeAttributes = true ∧
      run (.ofFolder [("a.toml", "[dump]\ninclude_attributes = []\n")])
          ["-c", "a.toml", "-a", "--list-formats"] =
        .ofResult (Run.carryOut (.ofFolder [("a.toml", "[dump]\ninclude_attributes = []\n")])
          ⟨none, none, none, true, some "a.toml", true⟩ s) := by
  have htext : (Files.ofFolder [("a.toml", "[dump]\ninclude_attributes = []\n")]).text? "a.toml" =
      some "[dump]\ninclude_attributes = []\n" := by decide +kernel
  have hmembers : Toml.read "[dump]\ninclude_attributes = []\n" =
      some ((Json.arr []).atPath ["dump", "include_attributes"]) := by cbv
  have hvalue (x : Setting) : rawValue ⟨none, none, none, true, some "a.toml", true⟩
      ((Json.arr []).atPath ["dump", "include_attributes"]) x = _ :=
    rawValue_atPath _ .includeAttributes x (.arr [])
  have hread : Arguments.read ["-c", "a.toml", "-a", "--list-formats"] =
      .ok (.run ⟨none, none, none, true, some "a.toml", true⟩) := rfl
  obtain ⟨-, haccepted, -⟩ := run_of_rawValue hread
    ((SettingsFile.members?_eq_read htext).trans hmembers)
    (Setting.includeAttributes.groupsAreTables_atPath (.arr []))
  obtain ⟨s, hs, hrun, -⟩ := haccepted fun x => by rw [hvalue]; cases x <;> rfl
  have hinclude := hs.includeAttributes
  rw [hvalue] at hinclude
  exact ⟨s, (Option.some.inj hinclude).symm, hrun⟩

/-- An empty table in the file does not fail the run, although it is no value of the setting. -/
theorem run_emptyTable :
    Toml.read "[dump.annotate_fields]\n" =
        some [("dump", .obj [("annotate_fields", .obj [])])] ∧
      ¬Setting.annotateFields.Accepts (some (.obj [])) ∧
      (run (.ofFolder [("c.toml", "[dump.annotate_fields]\n")])
        ["--config", "c.toml", "--list-formats"]).exitCode = 0 := by
  have htext : (Files.ofFolder [("c.toml", "[dump.annotate_fields]\n")]).text? "c.toml" =
      some "[dump.annotate_fields]\n" := by decide +kernel
  have hmembers : Toml.read "[dump.annotate_fields]\n" =
      some ((Json.obj []).atPath ["dump", "annotate_fields"]) := by cbv
  have hvalue (x : Setting) : rawValue ⟨none, none, none, false, some "c.toml", true⟩
      ((Json.obj []).atPath ["dump", "annotate_fields"]) x = _ :=
    rawValue_atPath _ .annotateFields x (.obj [])
  obtain ⟨s, hs⟩ := Settings.exists_realizes_iff.mpr
    fun x => show x.Accepts (rawValue ⟨none, none, none, false, some "c.toml", true⟩
      ((Json.obj []).atPath ["dump", "annotate_fields"]) x) by rw [hvalue]; cases x <;> rfl
  have hload := (load_layers_eq_ok_iff (a := ⟨none, none, none, false, some "c.toml", true⟩)
    ((SettingsFile.members?_eq_read htext).trans hmembers)
    (Setting.annotateFields.groupsAreTables_atPath (.obj [])) s).mpr hs
  have hread : Arguments.read ["--config", "c.toml", "--list-formats"] =
      .ok (.run ⟨none, none, none, false, some "c.toml", true⟩) := rfl
  refine ⟨hmembers, by decide, ?_⟩
  rw [Run.run_of_load_eq_ok hread hload]
  rfl

end Arguments

end SyntaxDump
