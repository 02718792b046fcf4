import SyntaxDump.Settings.Layer
import SyntaxDump.Width

/-!
# Arguments of a run

The words after the name of the program. A flag has a long name, most have a short one of a single
letter too; short ones can be written together, and the value of a flag in the same word or in the
next one. After two hyphens alone there are no more flags.

The words are read one by one, and the first one that asks for help or the version, or that is
wrong, ends the reading.
-/

namespace SyntaxDump

/-- What can be asked for besides the document. -/
inductive Flag where
  | format
  | indent
  | attributes
  | config
  | listFormats
  | help
  | version
deriving DecidableEq, Repr

namespace Flag

/-- All flags. -/
def all : List Flag := [.format, .indent, .attributes, .config, .listFormats, .help, .version]

/-- The long name of a flag. -/
def name : Flag → String
  | .format => "format"
  | .indent => "indent"
  | .attributes => "attributes"
  | .config => "config"
  | .listFormats => "list-formats"
  | .help => "help"
  | .version => "version"

/-- The letter of a flag. -/
def letter? : Flag → Option Char
  | .format => some 'f'
  | .indent => some 'i'
  | .attributes => some 'a'
  | .config => some 'c'
  | .listFormats => none
  | .help => some 'h'
  | .version => some 'V'

/-- Whether a flag comes with a value. -/
def takesValue : Flag → Bool
  | .format => true
  | .indent => true
  | .config => true
  | _ => false

/-- The flag of a long name. -/
def ofName? (name : String) : Option Flag := all.find? fun f => f.name == name

/-- The flag of a letter. -/
def ofLetter? (c : Char) : Option Flag := all.find? fun f => f.letter? == some c

end Flag

/-- What a run is told. -/
structure Arguments where
  /-- The path of the document. -/
  path : Option String
  format : Option String
  indent : Option UInt32
  attributes : Bool
  /-- The path of a file of settings. -/
  config : Option String
  listFormats : Bool
deriving DecidableEq, Repr

/-- What the words ask for. -/
inductive Request where
  | run (a : Arguments)
  | help
  | version
deriving DecidableEq, Repr

/-- What is wrong with the words. -/
inductive UsageError where
  /-- There is no such flag. -/
  | unknownFlag (word : String)
  | repeated (f : Flag)
  | missingValue (f : Flag)
  /-- A value is given to a flag that takes none. -/
  | unwantedValue (f : Flag)
  /-- The value is no number of spaces. -/
  | notSpaces (word : String)
  /-- There is a second path. -/
  | extraPath (word : String)
  | missingPath
deriving DecidableEq, Repr

/-- The wording of what is wrong. -/
def UsageError.message : UsageError → String
  | .unknownFlag word => "unexpected argument '" ++ word ++ "' found"
  | .repeated f => "the argument '--" ++ f.name ++ "' cannot be used multiple times"
  | .missingValue f => "a value is required for '--" ++ f.name ++ "' but none was supplied"
  | .unwantedValue f => "unexpected value for '--" ++ f.name ++ "' found"
  | .notSpaces word => "invalid value '" ++ word ++ "' for '--indent'"
  | .extraPath word => "unexpected argument '" ++ word ++ "' found"
  | .missingPath => "the following required arguments were not provided: [path]"

namespace Arguments

/-- What a run is told without any words. -/
def none_ : Arguments := ⟨none, none, none, false, none, false⟩

/-- A number of spaces: decimal digits with an optional sign, of 32 bits. -/
def spaces? (word : String) : Option UInt32 :=
  let (negative, ds) := match word.toList with
    | '+' :: ds => (false, ds)
    | '-' :: ds => (true, ds)
    | ds => (false, ds)
  if ds.isEmpty || !ds.all Char.isDigit then none
  else
    let n := ds.foldl (fun n d => 10 * n + (d.toNat - 48)) 0
    if Width.values 32 ≤ n ∨ (negative ∧ n ≠ 0) then none else some (UInt32.ofNat n)

/-- Gives a value to a flag that takes one. -/
def give (a : Arguments) (f : Flag) (value : String) : Except UsageError Arguments :=
  match f with
  | .format => if a.format.isSome then .error (.repeated f) else .ok { a with format := some value }
  | .indent =>
    if a.indent.isSome then .error (.repeated f)
    else match spaces? value with
      | some n => .ok { a with indent := some n }
      | none => .error (.notSpaces value)
  | .config => if a.config.isSome then .error (.repeated f) else .ok { a with config := some value }
  | f => .error (.unwantedValue f)

/-- Sets a flag that takes no value. -/
def set (a : Arguments) (f : Flag) : Except UsageError Arguments :=
  match f with
  | .attributes => if a.attributes then .error (.repeated f) else .ok { a with attributes := true }
  | .listFormats =>
    if a.listFormats then .error (.repeated f) else .ok { a with listFormats := true }
  | f => .error (.missingValue f)

/-- Takes a word for the path. -/
def givePath (a : Arguments) (word : String) : Except UsageError Arguments :=
  if a.path.isSome then .error (.extraPath word) else .ok { a with path := some word }

/-- What the words read so far lead to. -/
inductive Progress where
  /-- Reading goes on; a flag may wait for its value. -/
  | further (a : Arguments) (waiting : Option Flag)
  /-- The request is known. -/
  | done (r : Request)

/-- A flag with the value that is written in the same word, if there is one. -/
def flag (a : Arguments) (f : Flag) (value : Option String) : Except UsageError Progress :=
  match value with
  | some v => (a.give f v).map (.further · none)
  | none =>
    match f with
    | .help => .ok (.done .help)
    | .version => .ok (.done .version)
    | f => if f.takesValue then .ok (.further a (some f)) else (a.set f).map (.further · none)

/-- A flag by its long name, with the value after an equals sign. -/
def longFlag (a : Arguments) (word : List Char) : Except UsageError Progress :=
  let (name, rest) := word.span (· != '=')
  match Flag.ofName? (String.ofList name) with
  | none => .error (.unknownFlag (String.ofList ('-' :: '-' :: word)))
  | some f => a.flag f (rest.head?.map fun _ => String.ofList rest.tail)

/-- Flags by their letters. What follows the letter of a flag that takes a value is the value, an
equals sign before it aside. -/
def shortFlags (a : Arguments) : List Char → Except UsageError Progress
  | [] => .ok (.further a none)
  | c :: rest =>
    match Flag.ofLetter? c with
    | none => .error (.unknownFlag (String.ofList ['-', c]))
    | some f =>
      if f.takesValue then
        match rest with
        | [] => a.flag f none
        | '=' :: value => a.flag f (some (String.ofList value))
        | value => a.flag f (some (String.ofList value))
      else do
        match ← a.flag f none with
        | .done r => return .done r
        | .further a _ => shortFlags a rest

/-- The request of arguments that have been read. -/
def close (a : Arguments) : Except UsageError Request :=
  if a.path.isNone && !a.listFormats then .error .missingPath else .ok (.run a)

/-- Reads words among which there are no flags. -/
def readPaths (a : Arguments) : List String → Except UsageError Request
  | [] => a.close
  | word :: rest => do
    let a ← a.givePath word
    a.readPaths rest

/-- Reads words; a flag may wait for its value. -/
def readWords (a : Arguments) (waiting : Option Flag) : List String → Except UsageError Request
  | [] =>
    match waiting with
    | some f => .error (.missingValue f)
    | none => a.close
  | word :: rest =>
    match word.toList, waiting with
    | ['-', '-'], none => a.readPaths rest
    | '-' :: _ :: _, some f => .error (.missingValue f)
    | '-' :: '-' :: c :: cs, none => do
      match ← a.longFlag (c :: cs) with
      | .done r => return r
      | .further a waiting => a.readWords waiting rest
    | '-' :: c :: cs, none => do
      match ← a.shortFlags (c :: cs) with
      | .done r => return r
      | .further a waiting => a.readWords waiting rest
    | _, some f => do
      let a ← a.give f word
      a.readWords none rest
    | _, none => do
      let a ← a.givePath word
      a.readWords none rest

/-- What words ask for. -/
def read (words : List String) : Except UsageError Request := none_.readWords none words

/-- The layers of settings: the file comes first, then the flags. -/
def layers (a : Arguments) : List Layer :=
  (a.config.map Layer.file).toList ++ (a.indent.map Layer.indent).toList ++
    (if a.attributes then [.attributes] else []) ++ (a.format.map Layer.format).toList

/-- The paths of the files that a run may read. -/
def paths (a : Arguments) : List String :=
  a.config.toList ++ (a.config.bind fun c => Path.withExtension? c "toml").toList ++ a.path.toList

end Arguments

end SyntaxDump
