/-!
# Paths

A path is a sequence of names with slashes between them. Empty names and names that are a single
point lead nowhere, so `./a//b` is the path `a/b`.
-/

namespace SyntaxDump.Path

/-- The names of a path that lead anywhere. -/
def names (path : String) : List String :=
  ((path.toList.splitOn '/').map String.ofList).filter fun name => name != "" && name != "."

/-- Whether a path begins at the root of all folders. -/
def isAbsolute (path : String) : Bool := path.toList.head? == some '/'

/-- A path without the names that lead nowhere. -/
def plain (path : String) : String :=
  (if isAbsolute path then "/" else "") ++ "/".intercalate (names path)

/-- Whether a path can only be the path of a folder: a slash or a point alone stands at its
end. -/
def endsInFolder (path : String) : Bool :=
  match (path.toList.splitOn '/').getLast? with
  | some last => last == [] || last == ['.']
  | none => true

/-- The last name of a path; a name of two points is none. -/
def fileName? (path : String) : Option String := (names path).getLast?.filter (· != "..")

/-- What follows the last point of a name that does not begin with it. -/
def extensionOf? (name : String) : Option String :=
  match (name.toList.splitOn '.').reverse with
  | [] => none
  | [_] => none
  | [_, []] => none
  | extension :: _ => some (String.ofList extension)

/-- The extension of the last name of a path. -/
def extension? (path : String) : Option String := (fileName? path).bind extensionOf?

/-- The path with an extension added to its last name. -/
def withExtension? (path extension : String) : Option String :=
  (fileName? path).map fun _ => plain path ++ "." ++ extension

end SyntaxDump.Path
