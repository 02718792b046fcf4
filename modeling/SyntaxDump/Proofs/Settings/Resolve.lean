import SyntaxDump.Proofs.Result
import SyntaxDump.Proofs.Settings.Store

/-!
# What values mean as settings

Each setting has a key in a group and takes values of its own kind, whatever layer they come from.
The settings that are read from a store are those that the values at the four keys mean, and there
are none if one of the values means nothing.

## Main statements

- `Settings.exists_realizes_iff`: values make settings exactly when each setting accepts its value;
- `Settings.ofStore_eq_ok_iff`: the settings in a store are what its values mean.
-/

namespace SyntaxDump

/-! ## Settings and their values -/

/-- The settings. -/
inductive Setting where
  | indent
  | annotateFields
  | includeAttributes
  | format
deriving DecidableEq, Repr

namespace Setting

/-- The group that a setting belongs to. -/
def group : Setting → Section
  | .indent => .dump
  | .annotateFields => .dump
  | .includeAttributes => .dump
  | .format => .output

/-- The name of a setting in its group. -/
def name : Setting → String
  | .indent => "indent"
  | .annotateFields => "annotate_fields"
  | .includeAttributes => "include_attributes"
  | .format => "format"

/-- The key of a setting, with that of the group before it. -/
def key (x : Setting) : String := x.group.key ++ "." ++ x.name

/-- The built-in value of a setting, if there is one. -/
def default? : Setting → Option Json
  | .indent => none
  | .annotateFields => some (.bool true)
  | .includeAttributes => some (.bool false)
  | .format => some (.str "dump")

/-- The values that members give to a setting. -/
def valuesIn (x : Setting) (members : List (String × Json)) : List Json :=
  Json.valuesIn x.group.key x.name members

end Setting

namespace Json

/-- The indentation that a value means: a number of spaces that 64 bits hold, or any text. -/
def asIndent? : Json → Option (Option Indent)
  | .null => some none
  | .int n => if Width.unsigned 64 n then some (some (.spaces (UInt64.ofNat n.toNat))) else none
  | .str s => some (some (.text s))
  | _ => none

/-- The truth value that a value means: a number other than zero is true, and some words are truth
values. -/
def asTruth? : Json → Option Bool
  | .bool b => some b
  | .int n => some (n != 0)
  | .float x => some !x.isZero
  | .str s => Settings.truth? (Unicode.lower s)
  | _ => none

/-- The name that a value means: a text, or the text of a number or a truth value. -/
def asName? : Json → Option String
  | .str s => some s
  | .bool b => some (if b then "true" else "false")
  | .int n => some (toString n)
  | .float x => some (Settings.floatText false x)
  | _ => none

end Json

/-- A setting can have the value, or be left without one. -/
def Setting.Accepts (x : Setting) (value : Option Json) : Prop :=
  match x with
  | .indent => ((value.getD .null).asIndent?).isSome
  | .annotateFields => (value.bind Json.asTruth?).isSome
  | .includeAttributes => (value.bind Json.asTruth?).isSome
  | .format => (value.bind Json.asName?).isSome

instance (x : Setting) (value : Option Json) : Decidable (x.Accepts value) := by
  unfold Setting.Accepts
  split <;> infer_instance

namespace Settings

/-- The settings are what the values mean. -/
structure Realizes (s : Settings) (values : Setting → Option Json) : Prop where
  indent : ((values .indent).getD .null).asIndent? = some s.options.indent
  annotateFields : (values .annotateFields).bind Json.asTruth? = some s.options.annotateFields
  includeAttributes :
    (values .includeAttributes).bind Json.asTruth? = some s.options.includeAttributes
  format : (values .format).bind Json.asName? = some s.format

/-- Values make settings exactly when each setting can have its value. -/
theorem exists_realizes_iff {values : Setting → Option Json} :
    (∃ s : Settings, s.Realizes values) ↔ ∀ x : Setting, x.Accepts (values x) := by
  constructor
  · rintro ⟨s, hindent, hannotate, hinclude, hformat⟩ x
    cases x with
    | indent => exact Option.isSome_of_eq_some hindent
    | annotateFields => exact Option.isSome_of_eq_some hannotate
    | includeAttributes => exact Option.isSome_of_eq_some hinclude
    | format => exact Option.isSome_of_eq_some hformat
  · intro h
    obtain ⟨indent, hindent⟩ := Option.isSome_iff_exists.mp (h .indent)
    obtain ⟨annotateFields, hannotate⟩ := Option.isSome_iff_exists.mp (h .annotateFields)
    obtain ⟨includeAttributes, hinclude⟩ := Option.isSome_iff_exists.mp (h .includeAttributes)
    obtain ⟨format, hformat⟩ := Option.isSome_iff_exists.mp (h .format)
    exact ⟨⟨⟨indent, annotateFields, includeAttributes⟩, format⟩,
      hindent, hannotate, hinclude, hformat⟩

/-! ## Reading stores -/

open Store (Shows)

/-- An indentation is read from a store exactly when the value means it. -/
private theorem indent_eq_ok_iff {m : Store} {j : Json} (h : Shows (some m) (some j))
    (i : Option Indent) : Settings.indent m = .ok i ↔ j.asIndent? = some i := by
  cases h with
  | leaf hj file =>
    cases j with
    | int n =>
      rw [Settings.indent, Indent.ofJson, Json.asIndent?]
      · cases Width.unsigned 64 n <;> simp
      · nofun
    | obj members => cases hj
    | _ => simp [Settings.indent, Indent.ofJson, Json.asIndent?]
  | table entries members => simp [Settings.indent, Json.asIndent?]

/-- A truth value is read from a store exactly when the value means it. -/
private theorem boolean_eq_ok_iff {m : Store} {j : Json} (h : Shows (some m) (some j))
    (key : String) (b : Bool) : boolean key m = .ok b ↔ j.asTruth? = some b := by
  cases h with
  | leaf hj file =>
    cases j with
    | str s =>
      rw [boolean, Json.asTruth?]
      cases truth? (Unicode.lower s) <;> simp
    | _ => simp [boolean, Json.asTruth?]
  | table entries members => simp [boolean, Json.asTruth?]

/-- A name is read from a store exactly when the value means it. -/
private theorem text_eq_ok_iff {m : Store} {j : Json} (h : Shows (some m) (some j))
    (key : String) (t : String) : text key m = .ok t ↔ j.asName? = some t := by
  cases h with
  | leaf hj file => cases j <;> simp [text, Json.asName?]
  | table entries members => simp [text, Json.asName?]

/-- A setting that has to be there is read from a table exactly when there is a value that means
something. -/
private theorem member_bind_eq_ok_iff {entries : List (String × Store)} {name : String}
    {value : Option Json} (h : Shows (entries.lookup name) value) (group : Section) {α : Type}
    {read : String → Store → Except SettingsError α} {means : Json → Option α}
    (hread : ∀ {m j}, Shows (some m) (some j) → ∀ key a, read key m = .ok a ↔ means j = some a)
    (a : α) :
    (∃ m, member group name (.table entries) = .ok m ∧ read m.1 m.2 = .ok a) ↔
      value.bind means = some a := by
  rw [member, member?]
  generalize entries.lookup name = found at h ⊢
  cases h with
  | nothing => simp [bind, Except.bind]
  | leaf hj file => simpa [bind, Except.bind, pure, Except.pure] using hread (.leaf hj file) _ a
  | table es ms => simpa [bind, Except.bind, pure, Except.pure] using hread (.table es ms) _ a

/-- The indentation in a group; there is none where the setting is not given. -/
def indentIn (s : Store) : Except SettingsError (Option Indent) := do
  match ← member? .dump "indent" s with
  | some (_, m) => indent m
  | none => return none

/-- The settings for dumps are read one after another. -/
private theorem dumpOptions_eq_bind (s : Store) :
    dumpOptions s = indentIn s >>= fun indent =>
      member .dump "annotate_fields" s >>= fun m => boolean m.1 m.2 >>= fun annotateFields =>
        member .dump "include_attributes" s >>= fun m => boolean m.1 m.2 >>=
          fun includeAttributes => .ok { indent, annotateFields, includeAttributes } := by
  rw [dumpOptions, indentIn]
  cases member? .dump "indent" s with
  | error e => rfl
  | ok found => cases found <;> rfl

/-- The settings for dumps are what the values in the group mean. -/
private theorem dumpOptions_eq_ok_iff {entries : List (String × Store)}
    {values : Setting → Option Json}
    (h : ∀ x : Setting, x.group = .dump → Shows (entries.lookup x.name) (values x))
    (o : DumpOptions) :
    dumpOptions (.table entries) = .ok o ↔
      ((values .indent).getD .null).asIndent? = some o.indent ∧
        (values .annotateFields).bind Json.asTruth? = some o.annotateFields ∧
        (values .includeAttributes).bind Json.asTruth? = some o.includeAttributes := by
  have hindent (i : Option Indent) :
      indentIn (.table entries) = .ok i ↔ ((values .indent).getD .null).asIndent? = some i := by
    have hshows := h .indent rfl
    rw [Setting.name] at hshows
    rw [indentIn, member?]
    generalize entries.lookup "indent" = found at hshows ⊢
    generalize values .indent = value at hshows ⊢
    cases hshows with
    | nothing => simp [bind, Except.bind, pure, Except.pure, Json.asIndent?]
    | leaf hj file => simpa [bind, Except.bind] using indent_eq_ok_iff (.leaf hj file) i
    | table es ms => simpa [bind, Except.bind] using indent_eq_ok_iff (.table es ms) i
  -- the other two settings have to be there, so that no value is a fault
  have hannotate := member_bind_eq_ok_iff (h .annotateFields rfl) .dump boolean_eq_ok_iff
  have hinclude := member_bind_eq_ok_iff (h .includeAttributes rfl) .dump boolean_eq_ok_iff
  rw [dumpOptions_eq_bind]
  constructor
  · intro hok
    obtain ⟨i, hi, hok⟩ := Except.bind_eq_ok_iff.mp hok
    obtain ⟨m, hm, hok⟩ := Except.bind_eq_ok_iff.mp hok
    obtain ⟨a, ha, hok⟩ := Except.bind_eq_ok_iff.mp hok
    obtain ⟨m', hm', hok⟩ := Except.bind_eq_ok_iff.mp hok
    obtain ⟨b, hb, hok⟩ := Except.bind_eq_ok_iff.mp hok
    obtain rfl := Except.ok.inj hok
    exact ⟨(hindent i).mp hi, (hannotate a).mp ⟨m, hm, ha⟩, (hinclude b).mp ⟨m', hm', hb⟩⟩
  · rintro ⟨hi, ha, hb⟩
    obtain ⟨m, hm, ha⟩ := (hannotate _).mpr ha
    obtain ⟨m', hm', hb⟩ := (hinclude _).mpr hb
    refine Except.bind_eq_ok_iff.mpr ⟨_, (hindent _).mpr hi, ?_⟩
    refine Except.bind_eq_ok_iff.mpr ⟨m, hm, Except.bind_eq_ok_iff.mpr ⟨_, ha, ?_⟩⟩
    exact Except.bind_eq_ok_iff.mpr ⟨m', hm', Except.bind_eq_ok_iff.mpr ⟨_, hb, rfl⟩⟩

/-- The format is what the value in the group means. -/
private theorem outputFormat_eq_ok_iff {entries : List (String × Store)} {value : Option Json}
    (h : Shows (entries.lookup "format") value) (t : String) :
    outputFormat (.table entries) = .ok t ↔ value.bind Json.asName? = some t := by
  rw [← member_bind_eq_ok_iff h .output text_eq_ok_iff t, outputFormat, Except.bind_eq_ok_iff]

/-- A group that is a table is found. -/
private theorem exists_group_eq_ok {g : Section} {store : Store} (h : store.HasTable g.key) :
    ∃ entries, group g store = .ok (.table entries) ∧
      ∀ key, store.setting? g.key key = entries.lookup key := by
  obtain ⟨entries, hentries⟩ := h
  refine ⟨entries, by rw [group, hentries], fun key => ?_⟩
  rw [Store.setting?, hentries]
  rfl

/-- The settings in a store whose groups are tables are what its values mean. -/
theorem ofStore_eq_ok_iff {store : Store} {values : Setting → Option Json}
    (hgroups : ∀ g : Section, store.HasTable g.key)
    (hshows : ∀ x : Setting, Shows (store.setting? x.group.key x.name) (values x)) (s : Settings) :
    ofStore store = .ok s ↔ s.Realizes values := by
  obtain ⟨dump, hdump, hdumpAt⟩ := exists_group_eq_ok (hgroups .dump)
  obtain ⟨output, houtput, houtputAt⟩ := exists_group_eq_ok (hgroups .output)
  have hdumpShows (x : Setting) (hx : x.group = .dump) :
      Shows (dump.lookup x.name) (values x) := by
    rw [← hdumpAt, ← hx]
    exact hshows x
  have houtputShows : Shows (output.lookup "format") (values .format) :=
    houtputAt "format" ▸ hshows .format
  have hoptions := dumpOptions_eq_ok_iff hdumpShows
  have hformat := outputFormat_eq_ok_iff houtputShows
  constructor
  · intro hok
    obtain ⟨d, hd, hok⟩ := Except.bind_eq_ok_iff.mp hok
    obtain rfl := Except.ok.inj (hdump.symm.trans hd)
    obtain ⟨o, ho, hok⟩ := Except.bind_eq_ok_iff.mp hok
    obtain ⟨e, he, hok⟩ := Except.bind_eq_ok_iff.mp hok
    obtain rfl := Except.ok.inj (houtput.symm.trans he)
    obtain ⟨t, ht, hok⟩ := Except.bind_eq_ok_iff.mp hok
    obtain rfl := Except.ok.inj hok
    obtain ⟨hi, ha, hb⟩ := (hoptions o).mp ho
    exact ⟨hi, ha, hb, (hformat t).mp ht⟩
  · rintro ⟨hi, ha, hb, ht⟩
    refine Except.bind_eq_ok_iff.mpr ⟨_, hdump, ?_⟩
    refine Except.bind_eq_ok_iff.mpr ⟨_, (hoptions _).mpr ⟨hi, ha, hb⟩, ?_⟩
    refine Except.bind_eq_ok_iff.mpr ⟨_, houtput, ?_⟩
    exact Except.bind_eq_ok_iff.mpr ⟨_, (hformat _).mpr ht, rfl⟩

end Settings

end SyntaxDump
