import SyntaxDump.Document.Error

/-!
# Faults of settings

What can be wrong with the layers that settings are made of, with the wording of each fault.
-/

namespace SyntaxDump

/-- The groups that settings come in. -/
inductive Section where
  /-- How trees are dumped. -/
  | dump
  /-- What is written. -/
  | output
deriving DecidableEq, Repr

namespace Section

/-- The key of a group. -/
def key : Section → String
  | .dump => "dump"
  | .output => "output"

/-- The keys of the settings of a group. -/
def settings : Section → List String
  | .dump => ["indent", "annotate_fields", "include_attributes"]
  | .output => ["format"]

/-- The type of a group, as messages call it. -/
def typeName : Section → String
  | .dump => "struct DumpConfig"
  | .output => "struct OutputConfig"

end Section

/-- What a single setting has to be. -/
inductive Wanted where
  | boolean
  | text
deriving DecidableEq, Repr

/-- The wording of what is wanted. -/
def Wanted.message : Wanted → String
  | .boolean => "a boolean"
  | .text => "a string"

/-- Why there are no settings. -/
inductive SettingsError where
  /-- The key of a setting is not made of parts. -/
  | malformedKey (key : String)
  /-- A file of settings is not there. -/
  | missingFile (name : String)
  /-- A file of settings is not TOML. -/
  | malformedFile (name : String)
  /-- The value at a key cannot be used; it may come from a file. -/
  | wrongType (found : Json) (wanted : Wanted) (key : String) (file : Option String)
  /-- The value at the key of a group is no group. -/
  | notSection (found : Json) (group : Section)
  /-- A group given as a list ends before a setting that has no default. -/
  | tooShort (length : Nat) (group : Section)
  /-- A setting without a default is not there. -/
  | missingSetting (name : String)
  /-- The value is no indentation. -/
  | notIndent

namespace Settings

/-- Floats in settings are written positionally, with the fewest digits that identify them, away
from zero where two candidates are equally near. -/
def floatStyle : Decimal.Style where
  tie := .away
  positional _ := true
  pointZero := false
  exponentWidth := 1

/-- The text of a float; `pointZero` tells whether integral ones end in `.0`. -/
def floatText (pointZero : Bool) (x : Binary64) : String :=
  if x.isNaN then "NaN"
  else if x.isFinite then x.text { floatStyle with pointZero }
  else if x.negative then "-inf" else "inf"

/-- How a value is called in a message. -/
def describe : Json → String
  | .null => "unit value"
  | .float x => "floating point `" ++ floatText true x ++ "`"
  | j => j.describe

end Settings

/-- The wording of a fault. -/
def SettingsError.message : SettingsError → String
  | .malformedKey key => "malformed key `" ++ key ++ "`"
  | .missingFile name => "configuration file \"" ++ name ++ "\" not found"
  | .malformedFile name => "malformed TOML in " ++ name
  | .wrongType found wanted key file =>
    "invalid type: " ++ Settings.describe found ++ ", expected " ++ wanted.message ++
      " for key `" ++ key ++ "`" ++
      match file with
      | none => ""
      | some name => " in " ++ name
  | .notSection found group =>
    "invalid type: " ++ Settings.describe found ++ ", expected " ++ group.typeName
  | .tooShort length group =>
    "invalid length " ++ toString length ++ ", expected " ++ group.typeName ++ " with " ++
      elementCount group.settings.length
  | .missingSetting name => "missing field `" ++ name ++ "`"
  | .notIndent => DecodeError.notIndent.message

end SyntaxDump
