import SyntaxDump.Binary64.Basic

/-!
# JSON values

Tree documents, whatever text they come from, are read into `Json` values. Numbers without a
fraction and an exponent are integers of any size, all others are binary floating point numbers,
so `1` and `1.0` are different values.

The members of an object are a list. A reader lists them in the order of their keys, each key
once (`Json.insertMember`); a writer of documents lists them in the order of the grammar.
Members are looked up by key, so the order is of no account to whoever takes a value apart.
-/

namespace SyntaxDump

/-- A JSON value. -/
inductive Json where
  | null
  | bool (b : Bool)
  | int (n : Int)
  | float (x : Binary64)
  | str (s : String)
  | arr (items : List Json)
  | obj (members : List (String × Json))
deriving Inhabited

namespace Json

/-- The member with the given key. -/
def member? (members : List (String × Json)) (key : String) : Option Json :=
  members.lookup key

/-- Adds a member to a list in the order of keys. A member that has the key already is
replaced. -/
def insertMember (key : String) (value : Json) :
    List (String × Json) → List (String × Json)
  | [] => [(key, value)]
  | (k, v) :: rest =>
    if key < k then (key, value) :: (k, v) :: rest
    else if key = k then (key, value) :: rest
    else (k, v) :: insertMember key value rest

/-- The members of an object text in the order of keys; of members with one key the last
counts. -/
def orderedMembers (members : List (String × Json)) : List (String × Json) :=
  members.foldl (fun ordered m => insertMember m.1 m.2 ordered) []

mutual

/-- The number of arrays and objects that enclose the innermost value, its own included. -/
def nesting : Json → Nat
  | .arr items => nestingOfItems items + 1
  | .obj members => nestingOfMembers members + 1
  | _ => 0

/-- The deepest nesting among the items of an array. -/
def nestingOfItems : List Json → Nat
  | [] => 0
  | j :: rest => max (nesting j) (nestingOfItems rest)

/-- The deepest nesting among the members of an object. -/
def nestingOfMembers : List (String × Json) → Nat
  | [] => 0
  | (_, j) :: rest => max (nesting j) (nestingOfMembers rest)

end

end Json

end SyntaxDump
