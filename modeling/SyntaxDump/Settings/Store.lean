import SyntaxDump.Json.Basic
import SyntaxDump.Unicode.Lowercase

/-!
# Stores of settings

A store holds values under nested keys, whose upper and lower case letters are the same. What is
put into it goes on top of what is there: tables are merged key by key, every other value takes
the place of the one before.
-/

namespace SyntaxDump

/-- Values under nested keys. -/
inductive Store where
  /-- A value that is no table, and the file that it comes from. -/
  | leaf (value : Json) (file : Option String)
  /-- A table. -/
  | table (entries : List (String × Store))

namespace Store

/-- The entries of a table; a leaf has none. -/
def entries : Store → List (String × Store)
  | .leaf _ _ => []
  | .table es => es

/-- Changes what stands at a key. -/
def alter (key : String) (f : Option Store → Store) :
    List (String × Store) → List (String × Store)
  | [] => [(key, f none)]
  | (k, s) :: rest => if k = key then (k, f (some s)) :: rest else (k, s) :: alter key f rest

/-- Changes what stands at a key of a store, which becomes a table if it is none; a key that is
not there stands for an empty table. -/
def at_ (key : String) (f : Store → Store) (s : Store) : Store :=
  .table (alter (Unicode.lower key) (fun old => f (old.getD (.table []))) s.entries)

mutual

/-- Puts a value at a key; a table is merged with what is there. -/
def put (file : Option String) (key : String) : Json → Store → Store
  | .obj members => at_ key (putMembers file members)
  | j => at_ key fun _ => .leaf j file

/-- Puts the members of a table into what is there. Where there are none, a leaf stays. -/
def putMembers (file : Option String) : List (String × Json) → Store → Store
  | [], s => s
  | (key, j) :: rest, s => putMembers file rest (put file key j s)

end

/-- Puts a value at the end of a path of keys; the path leads through tables. -/
def putPath (file : Option String) (j : Json) : List String → Store → Store
  | [], s => s
  | [key], s => put file key j s
  | key :: path, s => at_ key (putPath file j path) s

/-- What stands at a key that has no capital letters. -/
def get? (key : String) (s : Store) : Option Store := s.entries.lookup key

end Store

end SyntaxDump
