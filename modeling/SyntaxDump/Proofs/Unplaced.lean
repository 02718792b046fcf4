import SyntaxDump.Inspect

/-!
# Trees without their locations

Trees that differ only in the locations of their nodes describe the same program. They become equal
when all locations are forgotten.
-/

namespace SyntaxDump

mutual

/-- The tree with the locations of all its nodes forgotten. -/
def Node.unplaced : {c : Category} → Node c → Node c
  | c, .mk k fs _ => .mk k fs.unplaced (c.place .unknown)

/-- The fields with the locations of all nodes in them forgotten. -/
def Fields.unplaced : {fs : List Field} → Fields fs → Fields fs
  | _, .nil => .nil
  | _, .cons slot rest => .cons slot.unplaced rest.unplaced

/-- The field with the locations of all nodes in it forgotten. -/
def Slot.unplaced : {k : Content} → Slot k → Slot k
  | _, .node n => .node n.unplaced
  | _, .absent => .absent
  | _, .present n => .present n.unplaced
  | _, .list ns => .list ns.unplaced
  | _, .scalar v => .scalar v

/-- The list of trees with the locations of all nodes forgotten. -/
def Nodes.unplaced : {c : Category} → {gaps : Bool} → Nodes c gaps → Nodes c gaps
  | _, _, .nil => .nil
  | _, _, .cons n rest => .cons n.unplaced rest.unplaced
  | _, _, .gap rest => .gap rest.unplaced

end

/-- The node at the top of a tree with the locations of all nodes forgotten. -/
def Root.unplaced : Root → Root
  | .mod n => .mod n.unplaced
  | .stmt n => .stmt n.unplaced
  | .expr n => .expr n.unplaced

end SyntaxDump
