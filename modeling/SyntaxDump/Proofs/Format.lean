import Mathlib.Data.List.Nodup
import SyntaxDump.Build
import SyntaxDump.Format
import SyntaxDump.Proofs.Text.Utf8

/-!
# Registries of formats

A registry is a map from names to formats: registering a format changes what is found under its own
name and under no other. So after any number of registrations each name stands for the format that
was registered last under it.

## Main statements

- `Registry.get?_register`, `Registry.mem_names_register`, `Registry.Ordered.register`: what one
  registration does to the lookups, to the names and to their order;
- `Registry.registerAll_keeps_last`: what is left of a history of registrations.
-/

namespace SyntaxDump

namespace Registry

variable {formats : List Format} {f : Format} {name : String}

/-- Among formats to which one has been added, that one is found under its name, and what was there
before under all others. -/
private theorem find?_insert :
    (insert f formats).find? (·.name == name) =
      if f.name = name then some f else formats.find? (·.name == name) := by
  induction formats with
  | nil => by_cases h : f.name = name <;> simp [insert, h]
  | cons g rest ih =>
    rw [insert]
    split
    · by_cases h : f.name = name <;> simp [List.find?_cons, h]
    split
    · next heq => by_cases h : f.name = name <;> simp [← heq, h]
    · next hne =>
      -- a format of another name, before which the search does not stop for `f`
      rw [List.find?_cons, List.find?_cons, ih]
      by_cases h : f.name = name
      · have hg : (g.name == name) = false :=
          beq_eq_false_iff_ne.mpr fun hg => hne (h.trans hg.symm)
        rw [hg, if_pos h]
      · simp [h]

/-- Registering a format changes what is found under its name and under no other. -/
theorem get?_register (r : Registry) (f : Format) (name : String) :
    (r.register f).get? name = if f.name = name then some f else r.get? name :=
  find?_insert

/-- The formats that are always there. -/
theorem get?_withOptions (options : DumpOptions) (name : String) :
    (withOptions options).get? name =
      if name = "treeviz" then some .treeviz
      else if name = "json" then some .json
      else if name = "dump" then some (.dump options)
      else none := by
  rw [withOptions, get?_register, get?_register, get?_register]
  simp only [Format.treeviz, Format.json, Format.dump, eq_comm]
  rfl

/-! ## One registration -/

/-- A registry that lists every name once and in order. -/
def Ordered (r : Registry) : Prop := r.names.Pairwise (· < ·)

theorem ordered_empty : empty.Ordered := List.Pairwise.nil

/-- The names after a registration are the name of the new format and those from before. -/
private theorem mem_map_name_insert :
    name ∈ (insert f formats).map Format.name ↔
      name = f.name ∨ name ∈ formats.map Format.name := by
  induction formats with
  | nil => simp [insert]
  | cons g rest ih =>
    rw [insert]
    split
    · simp
    split
    · next heq => simp [heq]
    · simp only [List.map_cons, List.mem_cons] at ih ⊢
      rw [ih]
      exact or_left_comm

theorem mem_names_register (r : Registry) :
    name ∈ (r.register f).names ↔ name = f.name ∨ name ∈ r.names :=
  mem_map_name_insert

/-- A registration keeps the order of the names. -/
theorem Ordered.register {r : Registry} (h : r.Ordered) (f : Format) : (r.register f).Ordered := by
  obtain ⟨formats⟩ := r
  change ((insert f formats).map Format.name).Pairwise (· < ·)
  change (formats.map Format.name).Pairwise (· < ·) at h
  induction formats with
  | nil => exact List.pairwise_singleton _ _
  | cons g rest ih =>
    obtain ⟨hfirst, hrest⟩ := List.pairwise_cons.mp h
    rw [insert]
    split
    · next hlt =>
      -- the names after the first are beyond that as well
      refine List.pairwise_cons.mpr ⟨fun name hname => ?_, h⟩
      rcases List.mem_cons.mp hname with rfl | hname
      · exact hlt
      · exact String.lt_trans hlt (hfirst name hname)
    split
    · next heq => exact List.pairwise_cons.mpr ⟨heq ▸ hfirst, hrest⟩
    · next hlt hne =>
      refine List.pairwise_cons.mpr ⟨fun name hname => ?_, ih hrest⟩
      rcases mem_map_name_insert.mp hname with rfl | hname
      · exact String.not_le.mp fun hle => hne (String.le_antisymm hle (String.not_lt.mp hlt))
      · exact hfirst name hname

/-- A format is found exactly under the names that are listed. -/
theorem get?_eq_none_iff (r : Registry) : r.get? name = none ↔ name ∉ r.names := by
  rw [get?, List.find?_eq_none, names, List.mem_map, not_exists]
  exact forall_congr' fun g => by rw [not_and, beq_iff_eq]

/-! ## A history of registrations -/

/-- The registry after a history of registrations. -/
def registerAll (r : Registry) (history : List Format) : Registry := history.foldl register r

theorem Ordered.registerAll {r : Registry} (h : r.Ordered) (history : List Format) :
    (r.registerAll history).Ordered := by
  induction history generalizing r with
  | nil => exact h
  | cons f history ih => exact ih (h.register f)

/-- The names after a history are those from before and those of the registered formats. -/
theorem mem_names_registerAll (r : Registry) (history : List Format) :
    name ∈ (r.registerAll history).names ↔ name ∈ r.names ∨ ∃ f ∈ history, f.name = name := by
  induction history generalizing r with
  | nil => simp [registerAll]
  | cons f history ih =>
    change name ∈ ((r.register f).registerAll history).names ↔ _
    rw [ih, mem_names_register]
    simp only [List.mem_cons, exists_eq_or_imp, eq_comm (a := name)]
    exact or_assoc.trans or_left_comm

/-- Under each name the format is found that was registered last under it, or else the one from
before. -/
theorem get?_registerAll (r : Registry) (history : List Format) (name : String) :
    (r.registerAll history).get? name =
      (history.findRev? (·.name == name)).or (r.get? name) := by
  rw [List.findRev?_eq_find?_reverse]
  induction history generalizing r with
  | nil => rfl
  | cons f history ih =>
    change ((r.register f).registerAll history).get? name = _
    rw [ih, get?_register, List.reverse_cons, List.find?_append, Option.or_assoc]
    by_cases h : f.name = name <;> simp [h]

/-- The formats that are always there come from a history as well. -/
theorem withOptions_eq (options : DumpOptions) :
    withOptions options = empty.registerAll [.dump options, .json, .treeviz] :=
  rfl

theorem ordered_withOptions (options : DumpOptions) : (withOptions options).Ordered :=
  withOptions_eq options ▸ ordered_empty.registerAll _

/-! ## Failures -/

/-- The formats that are always there do not say that they are not found. -/
theorem serialize_ne_notFound_of_get?_withOptions {options : DumpOptions} {name : String}
    {f : Format} (h : (withOptions options).get? name = some f) (t : Tree Root) (other : String) :
    f.serialize t ≠ .error (.notFound other) := by
  rw [get?_withOptions] at h
  split at h
  · obtain rfl := Option.some.inj h
    nofun
  split at h
  · obtain rfl := Option.some.inj h
    intro hjson
    -- a tree that is not written has a constant that cannot be
    simp only [Format.json] at hjson
    split at hjson <;> cases hjson
  split at h
  · obtain rfl := Option.some.inj h
    nofun
  · cases h

/-- A registry says that a format is not found where it has none of the name, or where the one that
it has says so itself. -/
theorem serializeWithin_eq_notFound_iff (r : Registry) (t : Tree Root) (name : String) :
    r.serializeWithin t name = .ok (.error (.notFound name)) ↔
      name ∉ r.names ∨
        ∃ f, r.get? name = some f ∧ f.serializeWithin t = .ok (.error (.notFound name)) := by
  rw [← get?_eq_none_iff, serializeWithin]
  cases r.get? name with
  | none => simp
  | some f => simp

/-- After a history of registrations it can only be a format of the history that says so, if the
formats from before do not. -/
theorem serializeWithin_registerAll_eq_notFound_iff {start : Registry} {t : Tree Root}
    (hstart : ∀ f, start.get? name = some f → f.serialize t ≠ .error (.notFound name))
    (history : List Format) :
    (start.registerAll history).serializeWithin t name = .ok (.error (.notFound name)) ↔
      name ∉ (start.registerAll history).names ∨
        ∃ f, history.findRev? (·.name == name) = some f ∧
          f.serializeWithin t = .ok (.error (.notFound name)) := by
  rw [serializeWithin_eq_notFound_iff]
  refine or_congr_right (exists_congr fun f => and_congr_left fun hf => ?_)
  -- what is found comes from the history, or from before and then it does not say so
  rw [get?_registerAll, Option.or_eq_some_iff]
  refine or_iff_left ?_
  rintro ⟨-, hget⟩
  exact hstart f hget (f.eq_serialize hf).symm

/-- A registry that begins without formats, or with those that are always there, keeps of a history
of registrations what was registered last under each name. It lists its names in the order of their
bytes, each of them once: those from the beginning and those registered since. Under each name the
format is found, and serializes, that was registered last under it, or else the one from the
beginning. One more registration changes nothing under other names. And a format is reported as not
found exactly if its name is not listed, or if the format that was registered last under the name
says so itself. -/
theorem registerAll_keeps_last {start : Registry}
    (hstart : start = empty ∨ ∃ options, start = withOptions options) (history : List Format) :
    let r := start.registerAll history
    r.names.Pairwise (fun a b => Text.utf8 a < Text.utf8 b) ∧
    (∀ name, name ∈ r.names ↔ name ∈ start.names ∨ ∃ f ∈ history, f.name = name) ∧
    (∀ name, r.get? name = (history.findRev? (·.name == name)).or (start.get? name)) ∧
    (∀ t name, r.serializeWithin t name =
      match (history.findRev? (·.name == name)).or (start.get? name) with
      | some f => f.serializeWithin t
      | none => .ok (.error (.notFound name))) ∧
    (∀ f t name, f.name ≠ name →
      (r.register f).serializeWithin t name = r.serializeWithin t name) ∧
    (∀ t name, r.serializeWithin t name = .ok (.error (.notFound name)) ↔
      name ∉ r.names ∨ ∃ f, history.findRev? (·.name == name) = some f ∧
        f.serializeWithin t = .ok (.error (.notFound name))) := by
  intro r
  have hordered : start.Ordered := by
    rcases hstart with rfl | ⟨options, rfl⟩
    · exact ordered_empty
    · exact ordered_withOptions options
  have hreason : ∀ t name f, start.get? name = some f →
      f.serialize t ≠ .error (.notFound name) := by
    rcases hstart with rfl | ⟨options, rfl⟩
    · nofun
    · exact fun t name f h => serialize_ne_notFound_of_get?_withOptions h t name
  refine ⟨(hordered.registerAll history).imp Text.utf8_lt_utf8,
    fun name => mem_names_registerAll start history, get?_registerAll start history,
    fun t name => ?_, fun f t name hne => ?_, fun t name =>
    serializeWithin_registerAll_eq_notFound_iff (hreason t name) history⟩
  · rw [← get?_registerAll]
    rfl
  · rw [serializeWithin, get?_register, if_neg hne, ← serializeWithin]

/-- A registry whose format of dumps is registered again, and then a format that shows no tree: both
are listed in their places, and what is not listed is not found. -/
theorem registerAll_keeps_last_again :
    let history := [Format.dump { DumpOptions.default with annotateFields := false },
      { name := "csv", description := "",
        serialize := fun _ => .error (.serialization "no table") }]
    let r := (withOptions .default).registerAll history
    let t : Tree Root := .single (.expr (Expr.constant (.int 1)))
    r.names = ["csv", "dump", "json", "treeviz"] ∧
      r.names.Pairwise (fun a b => Text.utf8 a < Text.utf8 b) ∧
      r.serializeWithin t "dump" = .ok (.ok "Constant(1)") ∧
      (withOptions .default).serializeWithin t "dump" = .ok (.ok "Constant(value=1)") ∧
      r.serializeWithin t "csv" = .ok (.error (.serialization "no table")) ∧
      r.serializeWithin t "xml" = .ok (.error (.notFound "xml")) := by
  intro history r t
  obtain ⟨hordered, -, -, hserialize, -, hnotFound⟩ :=
    registerAll_keeps_last (.inr ⟨.default, rfl⟩) history
  refine ⟨by decide +kernel, hordered, ?_, by decide +kernel, ?_, ?_⟩
  · rw [hserialize]
    decide +kernel
  · rw [hserialize]
    rfl
  · exact (hnotFound t "xml").mpr (.inl (by decide +kernel))

/-- Not being listed is not the only reason for not being found: a format that looks for another one
may say so under its own name. -/
theorem registerAll_notFound_of_listed :
    let f : Format :=
      { name := "csv", description := "", serialize := fun _ => .error (.notFound "csv") }
    let r := empty.registerAll [f]
    "csv" ∈ r.names ∧
      r.serializeWithin (.single (.stmt Stmt.pass)) "csv" = .ok (.error (.notFound "csv")) := by
  decide +kernel

end Registry

end SyntaxDump
