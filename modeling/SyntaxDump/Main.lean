import SyntaxDump.CommandLine.Run

/-!
# The program

Reads the files that a run may need, and prints what the run leaves behind.
-/

open SyntaxDump

/-- Why a file could not be read. -/
def readErrorOf : IO.Error → ReadError
  | .noFileOrDirectory _ _ _ => .missing
  | .inappropriateType _ _ _ => .folder
  | .userError _ => .notText
  | e => .other (toString e)

/-- The text of a file. -/
def readText (path : String) : IO (Except ReadError String) := do
  try
    return .ok (← IO.FS.readFile path)
  catch e =>
    return .error (readErrorOf e)

/-- The files that words ask for. -/
def gather (words : List String) : IO Files := do
  match Arguments.read words with
  | .ok (.run a) =>
    let texts ← a.paths.mapM fun path => return (path, ← readText path)
    return ⟨fun path => (texts.lookup path).getD (.error .missing)⟩
  | _ => return ⟨fun _ => .error .missing⟩

/-- Runs the program with the words after its name. -/
def main (words : List String) : IO UInt32 := do
  let outcome := run (← gather words) words
  IO.print outcome.stdout
  IO.eprint outcome.stderr
  return outcome.exitCode.toUInt32
