import SyntaxDump.Proofs.CommandLine.Run
import SyntaxDump.Proofs.Document.Reload
import SyntaxDump.Proofs.Dump.Limits
import SyntaxDump.Proofs.Format
import SyntaxDump.Proofs.Json.Range
import SyntaxDump.Proofs.Trimmed
import SyntaxDump.Proofs.Yaml.Range

/-!
# What a run prints

A run that is called rightly either fails and prints nothing, or prints the whole text of the tree
in the format that is asked for. White space is trimmed from the end of the text, but there is none
besides the last line break of a drawing. And with settings and a tree there are only two faults
left: a name that is not that of a format, and a dump that there is no room for.

## Main statements

- `Tree.valid_of_ofText`: a tree that was loaded from a text in either language is valid;
- `Format.trimEnd_serialize`: the texts of the formats after trimming;
- `Format.serializeWithin_eq_ok_iff`: which texts of the formats can be written;
- `Run.prints_all_or_nothing`: what a run prints.
-/

namespace SyntaxDump

/-! ## Loading -/

/-- A tree that is loaded from a text in either language is valid. -/
theorem Tree.valid_of_ofText {language : Syntax} {text : String} {t : Tree Root}
    (h : Tree.ofText language text = .ok t) : t.Valid := by
  have hvalid {j : Json} (hrange : j.InRange) (h : Tree.ofJson j = .ok t) : t.Valid := fun n hn =>
    (AnyNode.valid_iff n).mpr (Tree.loaded_of_ofJson hrange h n hn).scalars
  cases language with
  | json =>
    rw [Tree.ofText, Tree.ofJsonText] at h
    split at h
    · next j hread => exact hvalid (Json.readable_of_read hread).numbers h
    · cases h
  | yaml =>
    rw [Tree.ofText, Tree.ofYamlText] at h
    split at h
    · next j hread => exact hvalid (Yaml.inRange_of_read hread) h
    · cases h

/-! ## Formats -/

/-- The names of the formats that are always there. -/
def Format.builtIn : List String := ["dump", "json", "treeviz"]

/-- What is printed for the text of a tree: the text with a line break after it, or a drawing, which
has one already, as it is. If there is nothing to draw, there still is the line break. -/
def Format.printed (name : String) (t : Tree Root) (text : String) : String :=
  if name = "treeviz" then if t.nodes.isEmpty then "\n" else text
  else text ++ "\n"

/-- Trimming takes nothing away from the text of a tree but the last line break of a drawing. -/
theorem Format.trimEnd_serialize {o : DumpOptions} {t : Tree Root} {name text : String}
    (h : (Registry.withOptions o).serialize t name = .ok text) :
    Text.trimEnd text ++ "\n" = Format.printed name t text := by
  rw [Registry.serialize, Registry.get?_withOptions] at h
  rw [Format.printed]
  -- one case for each format, in the order in which they are looked for
  by_cases htreeviz : name = "treeviz"
  · rw [if_pos htreeviz] at h ⊢
    obtain rfl : t.outline = text := Except.ok.inj h
    split
    · next hempty => rw [t.outline_eq_empty (List.isEmpty_iff.mp hempty)]; rfl
    · next hne => exact Tree.trimEnd_outline (mt List.isEmpty_iff.mpr hne)
  rw [if_neg htreeviz] at h ⊢
  by_cases hjson : name = "json"
  · rw [if_pos hjson] at h
    obtain ⟨j, hj, rfl⟩ := Format.serialize_json_eq_ok_iff.mp h
    rw [Tree.trimEnd_pretty hj]
  rw [if_neg hjson] at h
  by_cases hdump : name = "dump"
  · rw [if_pos hdump] at h
    obtain rfl := Except.ok.inj h
    rw [Tree.trimEnd_dump]
  · rw [if_neg hdump] at h
    cases h

/-- The text of a tree in one of the formats can be written, unless it is a dump that there is no
room for. -/
theorem Format.serializeWithin_eq_ok_iff (o : DumpOptions) (t : Tree Root) (name : String)
    {text : String} :
    (Registry.withOptions o).serializeWithin t name = .ok (.ok text) ↔
      (name = "dump" → t.DumpFits o) ∧ (Registry.withOptions o).serialize t name = .ok text := by
  rw [Registry.serializeWithin, Registry.serialize, Registry.get?_withOptions]
  by_cases hdump : name = "dump"
  · subst hdump
    have hwritten : (Format.dump o).serializeWithin t = .ok (.ok text) ↔
        t.DumpFits o ∧ text = (t.map (Configured.mk o)).dump o.indent 0 := by
      rw [← Tree.dumpWithin_configured_eq_ok_iff, Format.dump, Except.map_eq_ok_iff]
      simp only [Except.ok.injEq, exists_eq_right]
    have htext : (Format.dump o).serialize t = .ok text ↔
        text = (t.map (Configured.mk o)).dump o.indent 0 := by
      rw [Format.dump, Except.ok.injEq, eq_comm]
    simpa [htext] using hwritten
  · -- the other formats are not cut short
    rw [if_neg hdump, and_iff_right fun h => absurd h hdump]
    split
    · next f hf =>
      have hsame : f.serializeWithin t = .ok (f.serialize t) := by
        split at hf
        · obtain rfl := Option.some.inj hf
          rfl
        split at hf
        · obtain rfl := Option.some.inj hf
          rfl
        · cases hf
      rw [hsame, Except.ok.injEq]
    · rw [Except.ok.injEq]

/-- A tree has a text exactly in the formats that are always there. -/
theorem Format.exists_serialize_eq_ok_iff {t : Tree Root} (h : t.Valid) (o : DumpOptions)
    (name : String) :
    (∃ text, (Registry.withOptions o).serialize t name = .ok text) ↔ name ∈ Format.builtIn := by
  refine ⟨?_, Tree.exists_serialize_eq_ok h o name⟩
  rintro ⟨text, htext⟩
  by_contra hname
  simp only [Format.builtIn, List.mem_cons, List.not_mem_nil, or_false, not_or] at hname
  obtain ⟨hdump, hjson, htreeviz⟩ := hname
  rw [Registry.serialize, Registry.get?_withOptions, if_neg htreeviz, if_neg hjson,
    if_neg hdump] at htext
  cases htext

/-! ## Runs -/

namespace Run

variable {files : Files} {words : List String} {a : Arguments}

/-- The document of a run is there and is loaded as the tree. -/
def Loads (files : Files) (a : Arguments) (t : Tree Root) : Prop :=
  ∃ source, files.read (a.path.getD "") = .ok source ∧
    Tree.ofText (languageOf (a.path.getD "")) source = .ok t

/-- The text of a document that is loaded is what is written for the tree. -/
theorem documentText_eq_ok_iff {t : Tree Root} (h : Loads files a t) (r : Registry)
    (format : String) {text : String} :
    documentText files r format (a.path.getD "") = .ok text ↔
      r.serializeWithin t format = .ok (.ok text) := by
  obtain ⟨source, hread, hload⟩ := h
  have hstep : documentText files r format (a.path.getD "") =
      (r.serializeWithin t format).mapError .overflow >>= fun result =>
        result.mapError .format := by
    rw [documentText, hread]
    change (Tree.ofText (languageOf (a.path.getD "")) source).mapError Failure.loading >>= _ = _
    rw [hload]
    rfl
  rw [hstep, Except.bind_eq_ok_iff]
  simp only [Except.mapError_eq_ok_iff, exists_eq_right]

/-- There is a text only if the document is loaded. -/
theorem exists_loads_of_documentText {r : Registry} {format text : String}
    (h : documentText files r format (a.path.getD "") = .ok text) : ∃ t, Loads files a t := by
  obtain ⟨source, hread, h⟩ := Except.bind_eq_ok_iff.mp h
  obtain ⟨t, hload, -⟩ := Except.bind_eq_ok_iff.mp h
  exact ⟨t, source, Except.mapError_eq_ok_iff.mp hread, Except.mapError_eq_ok_iff.mp hload⟩

/-- A run succeeds exactly if there is something to print, which is what it prints then. -/
theorem exitCode_ofResult (x : Except Failure String) :
    (Outcome.ofResult x).exitCode = 0 ↔ x = .ok (Outcome.ofResult x).stdout := by
  cases x with
  | error e => exact ⟨fun h => absurd h e.exitCode_ne_zero, nofun⟩
  | ok text => exact ⟨fun _ => rfl, fun _ => rfl⟩

/-- A run that succeeds without listing the formats has loaded its document, and prints the text of
the tree. -/
theorem exists_of_exitCode_eq_zero (hread : Arguments.read words = .ok (.run a))
    (hlist : a.listFormats = false) (h : (run files words).exitCode = 0) :
    ∃ s t text, Settings.load files a.layers = .ok s ∧ Loads files a t ∧
      (Registry.withOptions s.options).serialize t s.format = .ok text ∧
      (run files words).stdout = Format.printed s.format t text := by
  rw [run_eq_ofResult hread] at h ⊢
  have hout := (exitCode_ofResult _).mp h
  -- from here on it does not matter how what is printed comes from the output
  generalize (Outcome.ofResult (output files a)).stdout = printed at hout ⊢
  rw [output_eq_bind] at hout
  obtain ⟨s, hsettings, hout⟩ := Except.bind_eq_ok_iff.mp hout
  rw [carryOut, hlist, if_neg Bool.false_ne_true] at hout
  obtain ⟨text, htext, hout⟩ := Except.map_eq_ok_iff.mp hout
  obtain ⟨t, ht⟩ := exists_loads_of_documentText htext
  have hwritten := (documentText_eq_ok_iff ht _ _).mp htext
  have hserialize := ((Format.serializeWithin_eq_ok_iff s.options t s.format).mp hwritten).2
  refine ⟨s, t, text, Except.mapError_eq_ok_iff.mp hsettings, ht, hserialize, ?_⟩
  rw [← hout, Format.trimEnd_serialize hserialize]

/-- With settings and a tree a run fails exactly if there is no format of the name, or if there is
no room for a dump that is asked for. -/
theorem exitCode_ne_zero_iff (hread : Arguments.read words = .ok (.run a))
    (hlist : a.listFormats = false) {s : Settings} {t : Tree Root}
    (hsettings : Settings.load files a.layers = .ok s) (ht : Loads files a t) :
    (run files words).exitCode ≠ 0 ↔
      s.format ∉ Format.builtIn ∨ s.format = "dump" ∧ ¬ t.DumpFits s.options := by
  have hvalid : t.Valid := by
    obtain ⟨source, -, hload⟩ := ht
    exact Tree.valid_of_ofText hload
  -- with settings a run succeeds exactly if the document has a text
  have hsuccess : (run files words).exitCode = 0 ↔
      ∃ text, documentText files (Registry.withOptions s.options) s.format (a.path.getD "") =
        .ok text := by
    rw [run_of_load_eq_ok hread hsettings, carryOut, hlist, if_neg Bool.false_ne_true]
    cases documentText files (Registry.withOptions s.options) s.format (a.path.getD "") with
    | error e =>
      refine iff_of_false e.exitCode_ne_zero ?_
      rintro ⟨text, h⟩
      cases h
    | ok text => exact iff_of_true rfl ⟨text, rfl⟩
  simp only [hsuccess, ne_eq, documentText_eq_ok_iff ht, Format.serializeWithin_eq_ok_iff,
    exists_and_left, Format.exists_serialize_eq_ok_iff hvalid, not_and_or, Classical.not_imp]
  exact or_comm

/-- Runs are all or nothing and lose no output. A run that does not succeed prints nothing. One that
succeeds without listing the formats prints the whole text of the tree in the format of its
settings. And with settings and a tree it does so exactly if there is such a format and, where it is
that of dumps, room for the dump. -/
theorem prints_all_or_nothing (files : Files) (words : List String) :
    ((run files words).exitCode ≠ 0 → (run files words).stdout = "") ∧
    ∀ a, Arguments.read words = .ok (.run a) → a.listFormats = false →
      ((run files words).exitCode = 0 →
        ∃ s t text, Settings.load files a.layers = .ok s ∧ Loads files a t ∧
          (Registry.withOptions s.options).serialize t s.format = .ok text ∧
          (run files words).stdout = Format.printed s.format t text) ∧
      ∀ s t, Settings.load files a.layers = .ok s → Loads files a t →
        ((run files words).exitCode ≠ 0 ↔
          s.format ∉ Format.builtIn ∨ s.format = "dump" ∧ ¬ t.DumpFits s.options) :=
  ⟨stdout_eq_empty_of_exitCode_ne_zero files words, fun _ hread hlist =>
    ⟨exists_of_exitCode_eq_zero hread hlist, fun _ _ => exitCode_ne_zero_iff hread hlist⟩⟩

/-- The drawing of a single statement. -/
theorem prints_all_or_nothing_pass :
    let files := Files.ofFolder [("t.json", "\x7b\"_type\": \"Pass\"\x7d")]
    let a : Arguments := ⟨some "t.json", some "treeviz", none, false, none, false⟩
    run files ["-ftreeviz", "t.json"] = ⟨0, "└─ Pass\n", ""⟩ ∧
      ∃ s t text, Settings.load files a.layers = .ok s ∧ Loads files a t ∧
        (Registry.withOptions s.options).serialize t s.format = .ok text ∧
        Format.printed s.format t text = "└─ Pass\n" := by
  intro files a
  have hrun : run files ["-ftreeviz", "t.json"] = ⟨0, "└─ Pass\n", ""⟩ := by decide +kernel
  have hread : Arguments.read ["-ftreeviz", "t.json"] = .ok (.run a) := rfl
  obtain ⟨s, t, text, hsettings, ht, htext, hprinted⟩ :=
    ((prints_all_or_nothing files _).2 a hread rfl).1 (by rw [hrun])
  refine ⟨hrun, s, t, text, hsettings, ht, htext, ?_⟩
  rw [← hprinted, hrun]

/-- A run whose settings and tree are there, and whose format is one of those that are always there,
fails all the same if its file of settings asks for the widest indentation. -/
theorem run_fails_beyond_limits :
    let files := Files.ofFolder [("c.toml", "[dump]\nindent = 9223372036854775807\n"),
      ("a.json", "\x7b\"_type\":\"Pass\"\x7d")]
    let words := ["--config", "c.toml", "a.json"]
    let a : Arguments := ⟨some "a.json", none, none, false, some "c.toml", false⟩
    let s : Settings := ⟨⟨some (.spaces 9223372036854775807), true, false⟩, "dump"⟩
    Arguments.read words = .ok (.run a) ∧ Settings.load files a.layers = .ok s ∧
      Loads files a (.single (.stmt Stmt.pass)) ∧ s.format ∈ Format.builtIn ∧
      (run files words).exitCode ≠ 0 := by
  intro files words a s
  let t : Tree Root := .single (.stmt Stmt.pass)
  have hread : Arguments.read words = .ok (.run a) := rfl
  have hsettings : Settings.load files a.layers = .ok s := by
    have hsome : (Settings.load files a.layers).toOption = some s := by decide +kernel
    cases hload : Settings.load files a.layers with
    | error e =>
      rw [hload] at hsome
      cases hsome
    | ok s' =>
      rw [hload] at hsome
      exact congrArg _ (Option.some.inj hsome)
  have ht : Loads files a t := by
    have hwrite : t.toJson = .ok (.obj [("_type", .str "Pass")]) := rfl
    -- the file is the document of the tree
    have hfile : files.read "a.json" = .ok (Json.obj [("_type", .str "Pass")]).compact := by
      decide +kernel
    have hlanguage : languageOf "a.json" = .json := by decide +kernel
    have hload : Tree.ofText .json (Json.obj [("_type", .str "Pass")]).compact = .ok t :=
      (Tree.ofJsonText_compact (by decide +kernel) hwrite).mpr ⟨by decide, rfl⟩
    have hpath : a.path.getD "" = "a.json" := rfl
    rw [Loads, hpath, hlanguage]
    exact ⟨_, hfile, hload⟩
  have hfits : ¬ t.DumpFits s.options := by
    rintro ⟨hmargins, -⟩
    have hroot : (Root.stmt Stmt.pass).MarginsFit s.options := hmargins _ List.mem_cons_self
    -- a comma and a line break are too much besides the margin
    exact absurd (Node.unitBytes_le_of_marginsFit hroot _ rfl) (by decide +kernel)
  refine ⟨hread, hsettings, ht, by decide, ?_⟩
  exact (exitCode_ne_zero_iff hread rfl hsettings ht).mpr (.inr ⟨rfl, hfits⟩)

end Run

end SyntaxDump
