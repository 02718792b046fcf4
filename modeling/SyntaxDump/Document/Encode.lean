import SyntaxDump.Json.Basic
import SyntaxDump.Node
import SyntaxDump.Width

/-!
# Trees as documents

A node is written as an object: the name of its class under `_type`, its fields in the order of
the grammar and the known parts of its location. What is absent is left out, except that a
missing item of a list becomes `null`. Nodes of a category with a single class have no `_type`.

An integer that does not fit into 128 bits cannot be written. The first one in the order of the
document is reported.
-/

namespace SyntaxDump

/-- Why a tree has no document. -/
inductive EncodeError where
  /-- An integer constant is too wide. -/
  | integerTooWide (n : Int)
deriving DecidableEq, Repr

/-- The wording of an error. -/
def EncodeError.message : EncodeError → String
  | .integerTooWide n => "integer constant " ++ toString n ++ " does not fit in 128 bits"

/-- Whether an integer fits into 128 bits. Two widths are tried, the narrow one first, each with a
sign and then without. -/
def fitsDocument (n : Int) : Bool :=
  Width.signed 64 n || Width.unsigned 64 n || Width.signed 128 n || Width.unsigned 128 n

/-- A constant as a value. Floats that are no finite numbers have no spelling and become
`null`. -/
def Constant.toJson : Constant → Except EncodeError Json
  | .none => .ok .null
  | .bool b => .ok (.bool b)
  | .int n => if fitsDocument n then .ok (.int n) else .error (.integerTooWide n)
  | .float x => .ok (if x.isFinite then .float x else .null)
  | .str s => .ok (.str s)
  | .bytes bs => .ok (.arr (bs.map fun b => .int b.toNat))

/-- A scalar as a value, unless it is absent. -/
def Scalar.toJson? : (s : Scalar) → s.Value → Except EncodeError (Option Json)
  | .identifier, v => .ok (some (.str v))
  | .optionalIdentifier, v => .ok (v.map .str)
  | .identifiers, v => .ok (some (.arr (v.map .str)))
  | .dottedName, v => .ok (some (.str v))
  | .optionalDottedName, v => .ok (v.map .str)
  | .constant, v => v.toJson.map some
  | .optionalText, v => .ok (v.map .str)
  | .level, v => .ok (some (.int v.toNat))
  | .conversion, v => .ok (some (.int v.toInt))

/-- The members for the known parts of a location. -/
def Location.members (l : Location) : List (String × Json) :=
  [("lineno", l.line), ("col_offset", l.column), ("end_lineno", l.endLine),
    ("end_col_offset", l.endColumn)].filterMap fun (name, part) =>
      part.map fun n => (name, .int n.toNat)

/-- The members for the place of a node. -/
def Category.placeMembers : (c : Category) → c.Place → List (String × Json)
  | .stmt, l => Location.members l
  | .expr, l => Location.members l
  | .arg, l => Location.members l
  | .keyword, l => Location.members l
  | .alias, l => Location.members l
  | .mod, _ => []
  | .arguments, _ => []
  | .operator, _ => []
  | .boolOperator, _ => []
  | .unaryOperator, _ => []
  | .cmpOperator, _ => []
  | .context, _ => []

/-- The member that names the class of a node, if documents have a name for it. -/
def Kind.tagMembers {c : Category} (k : Kind c) : List (String × Json) :=
  match k.tag? with
  | some tag => [("_type", .str tag)]
  | none => []

mutual

/-- A node as a value. -/
def Node.toJson : {c : Category} → Node c → Except EncodeError Json
  | c, .mk k fs place => do
    let members ← fs.members
    return .obj (k.tagMembers ++ members ++ c.placeMembers place)

/-- The members for the fields of a node. -/
def Fields.members : {fs : List Field} → Fields fs → Except EncodeError (List (String × Json))
  | _, .nil => .ok []
  | f :: _, .cons slot rest => do
    let value ← slot.toJson?
    let members ← rest.members
    return match value with
      | none => members
      | some j => (f.name, j) :: members

/-- The value of a field, unless it is absent. -/
def Slot.toJson? : {k : Content} → Slot k → Except EncodeError (Option Json)
  | _, .node n => n.toJson.map some
  | _, .absent => .ok none
  | _, .present n => n.toJson.map some
  | _, .list ns => ns.items.map fun items => some (.arr items)
  | .scalar s, .scalar v => s.toJson? v

/-- The items of a list of trees. -/
def Nodes.items : {c : Category} → {gaps : Bool} → Nodes c gaps → Except EncodeError (List Json)
  | _, _, .nil => .ok []
  | _, _, .cons n rest => do
    let j ← n.toJson
    let items ← rest.items
    return j :: items
  | _, _, .gap rest => do
    let items ← rest.items
    return .null :: items

end

/-- A node at the top of a tree as a value. -/
def Root.toJson : Root → Except EncodeError Json
  | .mod n => n.toJson
  | .stmt n => n.toJson
  | .expr n => n.toJson

/-- A tree as a value: a sequence becomes an array. -/
def Tree.toJson : Tree Root → Except EncodeError Json
  | .single r => r.toJson
  | .many rs => (rs.mapM Root.toJson).map .arr

end SyntaxDump
