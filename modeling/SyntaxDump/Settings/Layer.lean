import SyntaxDump.Files
import SyntaxDump.Settings.Resolve
import SyntaxDump.Toml.Reader

/-!
# Layers of settings

Settings are made of layers. The built-in values come first, then the files in their order, then
the values given directly in theirs, whatever the order between files and values.

The keys of the values given directly are read before any file is, so a malformed one is the
first fault; the files follow in their order, and what the settings then are comes last.
-/

namespace SyntaxDump

/-- One thing that settings are made of. -/
inductive Layer where
  /-- A file that has to be there. -/
  | file (name : String)
  /-- A file that may be there. -/
  | optionalFile (name : String)
  /-- A number of spaces to indent with. -/
  | indent (spaces : UInt32)
  /-- Locations are shown. -/
  | attributes
  /-- The name of the format. -/
  | format (name : String)
  /-- A value at a key. -/
  | value (key : String) (j : Json)

/-- A value at a path of keys. -/
structure Assignment where
  path : List String
  value : Json

/-- A file of settings by name, and whether it has to be there. -/
structure SettingsFile where
  name : String
  required : Bool

namespace Settings

/-- Characters of the parts of a key. -/
def isKeyChar (c : Char) : Bool := c.isAlphanum || c == ' ' || c == '-' || c == '_'

/-- The parts of a key between its points. None of them is empty. -/
def keyPath? (key : String) : Option (List String) :=
  let parts := key.toList.splitOn '.'
  if parts.all fun part => !part.isEmpty && part.all isKeyChar then
    some (parts.map String.ofList)
  else none

end Settings

namespace Layer

/-- The file of a layer. -/
def file? : Layer → Option SettingsFile
  | .file name => some ⟨name, true⟩
  | .optionalFile name => some ⟨name, false⟩
  | _ => none

/-- The value that a layer gives directly. -/
def assignment? : Layer → Except SettingsError (Option Assignment)
  | .file _ => .ok none
  | .optionalFile _ => .ok none
  | .indent spaces => .ok (some ⟨["dump", "indent"], .int spaces.toNat⟩)
  | .attributes => .ok (some ⟨["dump", "include_attributes"], .bool true⟩)
  | .format name => .ok (some ⟨["output", "format"], .str name⟩)
  | .value key j =>
    match Settings.keyPath? key with
    | some path => .ok (some ⟨path, j⟩)
    | none => .error (.malformedKey key)

end Layer

namespace Settings

/-- The built-in values: one line, with the names of the fields and without locations, as a
dump. -/
def builtIn : List (String × Json) :=
  [("dump", .obj [("annotate_fields", .bool true), ("include_attributes", .bool false)]),
   ("output", .obj [("format", .str "dump")])]

/-- The values that layers give directly, or the first malformed key. -/
def assignments : List Layer → Except SettingsError (List Assignment)
  | [] => .ok []
  | layer :: rest => do
    let a ← layer.assignment?
    let others ← assignments rest
    return a.toList ++ others

/-- Puts a value on top of a store. -/
def assign (s : Store) (a : Assignment) : Store := s.putPath none a.value a.path

/-- The file of the given name and its text, if there is one; otherwise the one with `.toml` after
its name. -/
def find? (files : Files) (name : String) : Option (String × String) :=
  match files.text? name with
  | some text => some (Path.plain name, text)
  | none => do
    let name ← Path.withExtension? name "toml"
    let text ← files.text? name
    return (name, text)

/-- Puts the members of a file on top of a store. A key that is made of parts leads through
tables. -/
def putDocument (file : String) (s : Store) (members : List (String × Json)) : Store :=
  members.foldl (fun s (key, j) => s.putPath (some file) j ((keyPath? key).getD [key])) s

/-- Puts a file on top of a store. -/
def addFile (files : Files) (s : Store) (f : SettingsFile) : Except SettingsError Store :=
  match find? files f.name with
  | some (name, text) =>
    match Toml.read text with
    | some members => .ok (putDocument name s members)
    | none => .error (.malformedFile name)
  | none => if f.required then .error (.missingFile f.name) else .ok s

/-- The store that layers make. -/
def stack (files : Files) (layers : List Layer) : Except SettingsError Store := do
  let values ← assignments layers
  let below ← (layers.filterMap Layer.file?).foldlM (addFile files)
    (Store.putMembers none builtIn (.table []))
  return values.foldl assign below

/-- The settings that layers make. -/
def load (files : Files) (layers : List Layer) : Except SettingsError Settings := do
  ofStore (← stack files layers)

end Settings

end SyntaxDump
