import SyntaxDump.CommandLine.Arguments
import SyntaxDump.Document.Load
import SyntaxDump.Format
import SyntaxDump.Text.Trim

/-!
# Runs

A run reads a document, turns it into text in one of the formats, and prints that. The settings
are made before anything else, so a fault of theirs is told first, also when only the formats are
listed; then come the faults of reading the file, of loading the tree, and of the format. What is
printed is all or nothing: a run that fails prints nothing but its error.

A run whose format is cut short by the limits of a machine breaks off, which is not one of its own
faults: it has an exit code of its own, and its message does not come from the program.
-/

namespace SyntaxDump

/-- What a run leaves behind. -/
structure Outcome where
  /-- Zero if it succeeded, one if it failed, two if it was called wrongly, one hundred and one if
  it broke off. -/
  exitCode : UInt8
  stdout : String
  stderr : String
deriving DecidableEq, Repr

/-- Why a run failed. -/
inductive Failure where
  | settings (e : SettingsError)
  | reading (e : ReadError)
  | loading (e : LoadError)
  | format (e : FormatError)
  | overflow (e : Overflow)

/-- The wording of a failure. -/
def Failure.message : Failure → String
  | .settings e => "Configuration error: " ++ e.message
  | .reading e => "Error reading file: " ++ e.message
  | .loading e => "Error loading tree: " ++ e.message
  | .format e => "Execution error: " ++ e.message
  | .overflow e => e.message

/-- The exit code of a run that failed. -/
def Failure.exitCode : Failure → UInt8
  | .overflow _ => 101
  | _ => 1

namespace Outcome

/-- A run that printed a text. -/
def printed (text : String) : Outcome := ⟨0, text, ""⟩

/-- A run that failed. -/
def failed (e : Failure) : Outcome := ⟨e.exitCode, "", e.message ++ "\n"⟩

/-- A run that was called wrongly. -/
def misused (e : UsageError) : Outcome :=
  ⟨2, "", "error: " ++ e.message ++ "\n\nFor more information, try '--help'.\n"⟩

end Outcome

namespace Run

/-- The version of the program. -/
def versionText : String := "astdump 0.1.0\n"

/-- How the program is called. -/
def helpText : String :=
  "Print canonical dumps of syntax tree documents\n\n" ++
  "Usage: astdump [OPTIONS] [path]\n\n" ++
  "Arguments:\n" ++
  "  [path]  Path to the JSON or YAML tree document\n\n" ++
  "Options:\n" ++
  "  -f, --format <format>  Output format (e.g., 'dump', 'treeviz', 'json')\n" ++
  "  -i, --indent <indent>  Spaces per nesting level; omit for single-line dumps\n" ++
  "  -a, --attributes       Include lineno/col_offset attributes\n" ++
  "  -c, --config <config>  Configuration file layered over the defaults\n" ++
  "      --list-formats     List available output formats\n" ++
  "  -h, --help             Print help\n" ++
  "  -V, --version          Print version\n"

/-- The language of a document, by the extension of its path. -/
def languageOf (path : String) : Syntax :=
  if Path.extension? path = some "yaml" ∨ Path.extension? path = some "yml" then .yaml else .json

/-- The names and descriptions of formats. -/
def formatList (r : Registry) : String :=
  "Available formats:\n\n" ++
    String.join (r.formats.map fun f => "  " ++ f.name ++ "\n    " ++ f.description ++ "\n")

/-- The text of a document in a format. -/
def documentText (files : Files) (r : Registry) (format path : String) :
    Except Failure String := do
  let source ← (files.read path).mapError .reading
  let tree ← (Tree.ofText (languageOf path) source).mapError .loading
  let result ← (r.serializeWithin tree format).mapError .overflow
  result.mapError .format

/-- What a run with the given arguments prints. -/
def output (files : Files) (a : Arguments) : Except Failure String := do
  let settings ← (Settings.load files a.layers).mapError .settings
  let registry := Registry.withOptions settings.options
  if a.listFormats then return formatList registry
  else
    let text ← documentText files registry settings.format (a.path.getD "")
    return Text.trimEnd text ++ "\n"

/-- What a request leads to. -/
def answer (files : Files) : Request → Outcome
  | .help => .printed helpText
  | .version => .printed versionText
  | .run a =>
    match output files a with
    | .ok text => .printed text
    | .error e => .failed e

end Run

/-- A run with the given words. -/
def run (files : Files) (words : List String) : Outcome :=
  match Arguments.read words with
  | .ok request => Run.answer files request
  | .error e => .misused e

end SyntaxDump
