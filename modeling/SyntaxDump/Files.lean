import SyntaxDump.Path

/-!
# Files

What a run reads is the text of files, given by path. A folder of texts is one way to give them.
-/

namespace SyntaxDump

/-- Why the text of a file cannot be read. -/
inductive ReadError where
  /-- There is nothing at the path. -/
  | missing
  /-- A folder is at the path. -/
  | folder
  /-- The path goes on below a file. -/
  | notFolder
  /-- The file is no text. -/
  | notText
  /-- Any other failure. -/
  | other (reason : String)
deriving DecidableEq, Repr

/-- The wording of a failure. -/
def ReadError.message : ReadError → String
  | .missing => "No such file or directory (os error 2)"
  | .folder => "Is a directory (os error 21)"
  | .notFolder => "Not a directory (os error 20)"
  | .notText => "stream did not contain valid UTF-8"
  | .other reason => reason

/-- The texts of files by path. -/
structure Files where
  read : String → Except ReadError String

namespace Files

/-- The text of a file, if it can be read. -/
def text? (files : Files) (path : String) : Option String := (files.read path).toOption

/-- Where a sequence of names leads in a folder: the names of the files in it, each a sequence of
names itself, decide what is a folder. Two points lead back to the folder around. -/
def follow (entries : List (List String × String)) (here : List String) :
    List String → Except ReadError (List String)
  | [] => .ok here
  | name :: rest =>
    if entries.any fun e => e.1 == here then .error .notFolder
    else if !entries.any fun e => here.isPrefixOf e.1 then .error .missing
    else follow entries (if name = ".." then here.dropLast else here ++ [name]) rest

/-- The files in a folder, given by their paths from there. -/
def ofFolder (entries : List (String × String)) : Files where
  read path :=
    let entries := entries.map fun e => (Path.names e.1, e.2)
    if path.isEmpty then .error .missing
    else if Path.isAbsolute path && !(Path.names path).isEmpty then .error .missing
    else match follow entries [] (Path.names path) with
      | .error e => .error e
      | .ok here =>
        match entries.lookup here with
        | some text => if Path.endsInFolder path then .error .notFolder else .ok text
        | none =>
          if here.isEmpty || entries.any fun e => here.isPrefixOf e.1 then .error .folder
          else .error .missing

end Files

end SyntaxDump
