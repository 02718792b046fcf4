import SyntaxDump.Json.Basic

/-!
# Tables of TOML text

The tables of a TOML text are filled line by line, and what a later line may still add depends on
how a table came about: by a header of its own, as a part of a longer header, or as a part of a
dotted key. `Item` keeps that; when all lines are read only the values remain.

Tables inside braces are filled in the same way, without headers.
-/

namespace SyntaxDump.Toml

/-- How a table came about. -/
inductive Origin where
  /-- It was opened by a header or by braces. -/
  | opened
  /-- A longer header led through it. -/
  | passed
  /-- A dotted key led through it. -/
  | dotted
deriving DecidableEq, Repr

/-- What a key stands for. -/
inductive Item where
  /-- A value that is complete. -/
  | value (j : Json)
  /-- A table. -/
  | table (origin : Origin) (members : List (String × Item))
  /-- The tables of an array that is filled by headers, the last one first. -/
  | tables (last : List (String × Item)) (others : List (List (String × Item)))

/-- The members of a table. -/
abbrev Members := List (String × Item)

/-- What the key stands for after a change; `none` if the change is not possible. A key that is
not there is added at the end. -/
def alter (key : String) (f : Option Item → Option Item) : Members → Option Members
  | [] => (f none).map fun i => [(key, i)]
  | (k, i) :: rest =>
    if k = key then (f (some i)).map fun i => (k, i) :: rest
    else (alter key f rest).map fun rest => (k, i) :: rest

/-- Adds a value under a dotted key, given as the keys of tables and a last key. The tables on
the way may not have been opened before, the last of them has to be a table of dotted keys, and
the last key has to be new. -/
def insert (key : String) (j : Json) : List String → Members → Option Members
  | [] => alter key fun
    | none => some (.value j)
    | some _ => none
  | k :: path => alter k fun
    | none => (insert key j path []).map (.table .dotted)
    | some (.table .dotted ms) => (insert key j path ms).map (.table .dotted)
    | some (.table .passed ms) =>
      if path.isEmpty then none else (insert key j path ms).map (.table .passed)
    | some (.tables last others) =>
      if path.isEmpty then none else (insert key j path last).map (.tables · others)
    | some _ => none

/-- Goes to the table that a header led to and changes its members. Tables on the way that are
not there are added; in an array of tables the last one counts. -/
def within (f : Members → Option Members) : List String → Members → Option Members
  | [] => f
  | k :: path => alter k fun
    | none => (within f path []).map (.table .passed)
    | some (.table origin ms) => (within f path ms).map (.table origin)
    | some (.tables last others) => (within f path last).map (.tables · others)
    | some (.value _) => none

/-- Opens the table of a header in the table around it. It must not be there, unless only longer
headers led through it. -/
def openTable (key : String) : Members → Option Members :=
  alter key fun
    | none => some (.table .opened [])
    | some (.table .passed ms) => some (.table .opened ms)
    | some _ => none

/-- Opens one more table of an array in the table around it. -/
def openElement (key : String) : Members → Option Members :=
  alter key fun
    | none => some (.tables [] [])
    | some (.tables last others) => some (.tables [] (last :: others))
    | some _ => none

mutual

/-- The value of an item. -/
def Item.toJson : Item → Json
  | .value j => j
  | .table _ ms => .obj (membersToJson ms)
  | .tables last others => .arr (elementsToJson [.obj (membersToJson last)] others)

/-- The values of the members of a table. -/
def membersToJson : List (String × Item) → List (String × Json)
  | [] => []
  | (k, i) :: rest => (k, i.toJson) :: membersToJson rest

/-- The values of the tables of an array, the last one first, in front of those already there. -/
def elementsToJson (later : List Json) : List (List (String × Item)) → List Json
  | [] => later
  | ms :: rest => elementsToJson (.obj (membersToJson ms) :: later) rest

end

end SyntaxDump.Toml
