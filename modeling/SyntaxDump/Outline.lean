import SyntaxDump.Shown

/-!
# Outlines

An outline shows a tree with one line for every node. Connectors draw the nesting, and the
scalars among the fields that a node shows are its label.

    └─ Module
      └─ Assign
        ├─ Name: id='x'
        │ └─ Store
        └─ Constant: value=10
-/

namespace SyntaxDump

/-- What is drawn of a tree: the class and the label of the root, and the outlines of its
children. -/
inductive Outline where
  | mk (className label : String) (children : List Outline)

namespace Outline

/-- The longest label that is shown in full. -/
def labelLimit : Nat := 30

/-- A label, cut off if it is too long. -/
def shorten (label : String) : String :=
  if labelLimit < label.length then String.ofList (label.toList.take labelLimit) ++ "..."
  else label

/-- The line of a node: its class, and its label if it has one. -/
def line (className label : String) : String :=
  if label.isEmpty then className else className ++ ": " ++ label

mutual

/-- The lines of an outline behind the given margin. The last of its siblings has a corner, and
no bar is drawn down from it. -/
def draw (margin : String) (isLast : Bool) : Outline → String
  | .mk className label children =>
    margin ++ (if isLast then "└─" else "├─") ++ " " ++ line className label ++ "\n" ++
      drawAll (margin ++ if isLast then "  " else "│ ") children

/-- The lines of sibling outlines. -/
def drawAll (margin : String) : List Outline → String
  | [] => ""
  | t :: rest => draw margin rest.isEmpty t ++ drawAll margin rest

end

end Outline

/-- The part of a label for a field, if the field is a scalar. -/
def FieldView.labelPart? : String × FieldView → Option String
  | (name, .scalar text) => some (name ++ "=" ++ text)
  | _ => none

/-- The parts of the label of a node. -/
def Node.labelParts {c : Category} (n : Node c) : List String :=
  n.shown.filterMap FieldView.labelPart?

/-- The label of a node: its scalars with their names. -/
def Node.label {c : Category} (n : Node c) : String := ", ".intercalate n.labelParts

mutual

/-- The outline of a tree. -/
def Node.outline : {c : Category} → Node c → Outline
  | _, .mk k fs place =>
    .mk k.className (Outline.shorten (Node.mk k fs place).label)
      ((k.arrange [] fs.outlineLists).flatMap Prod.snd)

/-- The outlines of the nodes in each of a list of fields, by the names of the fields. -/
def Fields.outlineLists : {fs : List Field} → Fields fs → List (String × List Outline)
  | _, .nil => []
  | f :: _, .cons slot rest => (f.name, slot.outlines) :: rest.outlineLists

/-- The outlines of the nodes in a field. -/
def Slot.outlines : {k : Content} → Slot k → List Outline
  | _, .node n => [n.outline]
  | _, .absent => []
  | _, .present n => [n.outline]
  | _, .list ns => ns.outlines
  | _, .scalar _ => []

/-- The outlines of the nodes of a list. -/
def Nodes.outlines : {c : Category} → {gaps : Bool} → Nodes c gaps → List Outline
  | _, _, .nil => []
  | _, _, .cons n rest => n.outline :: rest.outlines
  | _, _, .gap rest => rest.outlines

end

/-- The outline of a node at the top of a tree. -/
def Root.outline : Root → Outline
  | .mod n => n.outline
  | .stmt n => n.outline
  | .expr n => n.outline

/-- The drawing of a tree; the nodes of a sequence are siblings. -/
def Tree.outline (t : Tree Root) : String := Outline.drawAll "" (t.nodes.map Root.outline)

end SyntaxDump
