import SyntaxDump.Document.Decode
import SyntaxDump.Settings.Error
import SyntaxDump.Settings.Store

/-!
# Settings

The settings of a run, and how they are read from a store. A group is a table, or a list of its
settings in a fixed order. Truth values may be numbers and certain words too, and the name of a
format any value that has a text.
-/

namespace SyntaxDump

/-- What a run is told besides the document. -/
structure Settings where
  /-- How trees are dumped. -/
  options : DumpOptions
  /-- The name of the format that trees are written in. -/
  format : String
deriving DecidableEq, Repr

namespace Settings

/-- The words for truth values, in lower case. -/
def truth? (word : String) : Option Bool :=
  if ["1", "true", "on", "yes"].contains word then some true
  else if ["0", "false", "off", "no"].contains word then some false
  else none

/-- A truth value; the key is told in faults. -/
def boolean (key : String) : Store → Except SettingsError Bool
  | .leaf (.bool b) _ => .ok b
  | .leaf (.int n) _ => .ok (n != 0)
  | .leaf (.float x) _ => .ok !x.isZero
  | .leaf (.str s) file =>
    match truth? (Unicode.lower s) with
    | some b => .ok b
    | none => .error (.wrongType (.str (Unicode.lower s)) .boolean key file)
  | .leaf j file => .error (.wrongType j .boolean key file)
  | .table _ => .error (.wrongType (.obj []) .boolean key none)

/-- A text; the key is told in faults. -/
def text (key : String) : Store → Except SettingsError String
  | .leaf (.str s) _ => .ok s
  | .leaf (.bool b) _ => .ok (if b then "true" else "false")
  | .leaf (.int n) _ => .ok (toString n)
  | .leaf (.float x) _ => .ok (floatText false x)
  | .leaf j file => .error (.wrongType j .text key file)
  | .table _ => .error (.wrongType (.obj []) .text key none)

/-- An indentation; a null is none. -/
def indent : Store → Except SettingsError (Option Indent)
  | .leaf .null _ => .ok none
  | .leaf j _ =>
    match Indent.ofJson j with
    | .ok i => .ok (some i)
    | .error _ => .error .notIndent
  | .table _ => .error .notIndent

/-- A setting of a group, with the key that faults call it by. In a list it stands at the
position that it has among the settings of the group. -/
def member? (group : Section) (name : String) (s : Store) :
    Except SettingsError (Option (String × Store)) :=
  match s with
  | .table es => .ok ((es.lookup name).map fun m => (group.key ++ "." ++ name, m))
  | .leaf (.arr items) file =>
    let i := group.settings.idxOf name
    .ok (items[i]?.map fun j => (group.key ++ "[" ++ toString i ++ "]", .leaf j file))
  | .leaf j _ => .error (.notSection j group)

/-- A setting of a group that has to be there. -/
def member (group : Section) (name : String) (s : Store) : Except SettingsError (String × Store) := do
  match ← member? group name s with
  | some m => return m
  | none =>
    match s with
    | .table _ => .error (.missingSetting name)
    | .leaf _ _ => .error (.tooShort (group.settings.idxOf name) group)

/-- The settings for dumps. -/
def dumpOptions (s : Store) : Except SettingsError DumpOptions := do
  let indent ← match ← member? .dump "indent" s with
    | some (_, m) => indent m
    | none => .ok none
  let (key, m) ← member .dump "annotate_fields" s
  let annotateFields ← boolean key m
  let (key, m) ← member .dump "include_attributes" s
  let includeAttributes ← boolean key m
  return { indent, annotateFields, includeAttributes }

/-- The name of the format. -/
def outputFormat (s : Store) : Except SettingsError String := do
  let (key, m) ← member .output "format" s
  text key m

/-- A group of a store. -/
def group (g : Section) (s : Store) : Except SettingsError Store :=
  match s.get? g.key with
  | some m => .ok m
  | none => .error (.missingSetting g.key)

/-- The settings in a store. -/
def ofStore (s : Store) : Except SettingsError Settings := do
  let options ← dumpOptions (← group .dump s)
  let format ← outputFormat (← group .output s)
  return { options, format }

end Settings

end SyntaxDump
