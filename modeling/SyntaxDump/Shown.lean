import SyntaxDump.Node

/-!
# What nodes show

A node shows its fields one by one: the name of each and what it holds, as far as that can be seen
without going into the nodes below. Outlines take their labels from this.
-/

namespace SyntaxDump

/-- What a field shows of itself. -/
inductive FieldView where
  /-- A node of the named class. -/
  | node (className : String)
  | list (items : List FieldView)
  /-- A literal. -/
  | scalar (text : String)
  | absent

/-- A text that may be absent as a field. -/
def FieldView.ofText? : Option String → FieldView
  | some t => .scalar (Literal.string t)
  | none => .absent

/-- A scalar as a field. -/
def Scalar.view : (s : Scalar) → s.Value → FieldView
  | .identifier, v => .scalar (Literal.string v)
  | .optionalIdentifier, v => .ofText? v
  | .identifiers, v => .list (v.map fun t => .scalar (Literal.string t))
  | .dottedName, v => .scalar (Literal.string v)
  | .optionalDottedName, v => .ofText? v
  | .constant, v => .scalar v.literal
  | .optionalText, v => .ofText? v
  | .level, v => .scalar (toString v.toNat)
  | .conversion, v => .scalar (toString v.toInt)

/-- The items of a list of trees. -/
def Nodes.views {c : Category} {gaps : Bool} : Nodes c gaps → List FieldView
  | .nil => []
  | .cons n rest => .node n.className :: rest.views
  | .gap rest => .absent :: rest.views

/-- The value of a field. -/
def Slot.view : {k : Content} → Slot k → FieldView
  | _, .node n => .node n.className
  | _, .absent => .absent
  | _, .present n => .node n.className
  | _, .list ns => .list ns.views
  | .scalar s, .scalar v => s.view v

/-- The values of a list of fields by the names of the fields. -/
def Fields.views : {fs : List Field} → Fields fs → List (String × FieldView)
  | _, .nil => []
  | f :: _, .cons slot rest => (f.name, slot.view) :: rest.views

/-- The fields that a node shows, by the names under which it shows them. -/
def Node.shown {c : Category} (n : Node c) : List (String × FieldView) :=
  n.kind.arrange (.list []) n.fields.views

end SyntaxDump
