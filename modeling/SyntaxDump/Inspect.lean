import SyntaxDump.Shown

/-!
# Inspecting nodes

What can be asked of a node of any class: its fields one by one, and its children.
-/

namespace SyntaxDump

/-- A node of any category. -/
abbrev AnyNode := (c : Category) × Node c

/-- The nodes in a field. -/
def Slot.children : {k : Content} → Slot k → List AnyNode
  | .node c, .node n => [⟨c, n⟩]
  | _, .absent => []
  | .optional c, .present n => [⟨c, n⟩]
  | .list c _, .list ns => ns.toList.map fun n => ⟨c, n⟩
  | _, .scalar _ => []

/-- The nodes in each of a list of fields, by the names of the fields. -/
def Fields.childLists : {fs : List Field} → Fields fs → List (String × List AnyNode)
  | _, .nil => []
  | f :: _, .cons slot rest => (f.name, slot.children) :: rest.childLists

namespace AnyNode

/-- The fields of a node. -/
def fields (n : AnyNode) : List (String × FieldView) := n.2.shown

/-- The nodes directly below a node, in the order of its fields. -/
def children (n : AnyNode) : List AnyNode :=
  (n.2.kind.arrange [] n.2.fields.childLists).flatMap Prod.snd

/-- The node that is reached by going down to the child of each position in turn. -/
def descendant? (n : AnyNode) : List Nat → Option AnyNode
  | [] => some n
  | i :: path => match n.children[i]? with
    | some child => descendant? child path
    | none => none

end AnyNode

/-- A node at the top of a tree as a node of any category. -/
def Root.toNode : Root → AnyNode
  | .mod n => ⟨_, n⟩
  | .stmt n => ⟨_, n⟩
  | .expr n => ⟨_, n⟩

/-- The node that a path leads to: the position of a node at the top, then of a child of the
node reached so far. -/
def Tree.node? (t : Tree Root) : List Nat → Option AnyNode
  | [] => none
  | i :: path => match t.nodes[i]? with
    | some r => r.toNode.descendant? path
    | none => none

/-- The statements of a module. The module of a single expression has none. -/
def Mod.body : Mod → List Stmt
  | .mk .module (.cons (.list ns) .nil) _ => ns.toList
  | .mk .interactive (.cons (.list ns) .nil) _ => ns.toList
  | .mk .expression _ _ => []

end SyntaxDump
