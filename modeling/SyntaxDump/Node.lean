import SyntaxDump.Grammar

/-!
# Syntax trees

A `Node c` is a tree whose root is of category `c`: a class of the category, a value for every
field of the class, and a place in the source. A field that holds a node of some category holds
a tree of that category, so every value of the type obeys the grammar.
-/

namespace SyntaxDump

mutual

/-- A tree whose root is of the given category. -/
inductive Node : Category → Type
  | mk {c : Category} (kind : Kind c) (fields : Fields kind.fields) (place : c.Place) : Node c

/-- Values for a list of fields. -/
inductive Fields : List Field → Type
  | nil : Fields []
  | cons {f : Field} {fs : List Field} (head : Slot f.content) (tail : Fields fs) :
    Fields (f :: fs)

/-- A value for one field. -/
inductive Slot : Content → Type
  | node {c : Category} (n : Node c) : Slot (.node c)
  | absent {c : Category} : Slot (.optional c)
  | present {c : Category} (n : Node c) : Slot (.optional c)
  | list {c : Category} {gaps : Bool} (ns : Nodes c gaps) : Slot (.list c gaps)
  | scalar {s : Scalar} (v : s.Value) : Slot (.scalar s)

/-- A list of trees; if gaps are allowed, items may be missing. -/
inductive Nodes : Category → Bool → Type
  | nil {c : Category} {gaps : Bool} : Nodes c gaps
  | cons {c : Category} {gaps : Bool} (n : Node c) (rest : Nodes c gaps) : Nodes c gaps
  | gap {c : Category} (rest : Nodes c true) : Nodes c true

end

/-- Whole modules. -/
abbrev Mod := Node .mod

/-- Statements. -/
abbrev Stmt := Node .stmt

/-- Expressions. -/
abbrev Expr := Node .expr

namespace Node

/-- The class of a node. -/
def kind {c : Category} : Node c → Kind c
  | .mk k _ _ => k

/-- The name of the class of a node. -/
def className {c : Category} (n : Node c) : String := n.kind.className

/-- The values of the fields of a node. -/
def fields {c : Category} : (n : Node c) → Fields n.kind.fields
  | .mk _ fs _ => fs

/-- The place of a node. -/
def place {c : Category} : Node c → c.Place
  | .mk _ _ p => p

/-- The location of a node, if nodes of its category have one. -/
def location? {c : Category} (n : Node c) : Option Location := c.location? n.place

/-- The known parts of the location of a node. -/
def attributes {c : Category} (n : Node c) : List (String × UInt64) :=
  match n.location? with
  | none => []
  | some l => l.attributes

/-- The same node at another location. -/
def at_ {c : Category} (l : Location) : Node c → Node c
  | .mk k fs _ => .mk k fs (c.place l)

end Node

/-- The value of a field that may be absent. -/
def Slot.ofOption {c : Category} : Option (Node c) → Slot (.optional c)
  | none => .absent
  | some n => .present n

namespace Nodes

/-- A list of trees without gaps. -/
def ofList {c : Category} {gaps : Bool} : List (Node c) → Nodes c gaps
  | [] => .nil
  | n :: rest => .cons n (ofList rest)

/-- A list of trees, some of them missing. -/
def ofOptions {c : Category} : List (Option (Node c)) → Nodes c true
  | [] => .nil
  | some n :: rest => .cons n (ofOptions rest)
  | none :: rest => .gap (ofOptions rest)

/-- The trees of a list, without its gaps. -/
def toList {c : Category} {gaps : Bool} : Nodes c gaps → List (Node c)
  | .nil => []
  | .cons n rest => n :: rest.toList
  | .gap rest => rest.toList

end Nodes

/-- Equality of scalars: constants are compared as values. -/
def Scalar.same : (s : Scalar) → s.Value → s.Value → Bool
  | .identifier, a, b => a == b
  | .optionalIdentifier, a, b => a == b
  | .identifiers, a, b => a == b
  | .dottedName, a, b => a == b
  | .optionalDottedName, a, b => a == b
  | .constant, a, b => a.same b
  | .optionalText, a, b => a == b
  | .level, a, b => a == b
  | .conversion, a, b => a == b

mutual

/-- Equality of trees in which constants are compared as values: a tree that holds a
not-a-number is not even the same as itself. -/
def Node.same : {c : Category} → Node c → Node c → Bool
  | c, .mk k fs p, .mk k' fs' p' =>
    (if h : k = k' then Fields.same fs (h ▸ fs') else false) && c.location? p == c.location? p'
termination_by structural _ a => a

/-- Equality of the values of a list of fields. -/
def Fields.same : {fs : List Field} → Fields fs → Fields fs → Bool
  | _, .nil, .nil => true
  | _, .cons a as, .cons b bs => Slot.same a b && Fields.same as bs
termination_by structural _ a => a

/-- Equality of the values of a field. -/
def Slot.same : {k : Content} → Slot k → Slot k → Bool
  | _, .node a, .node b => Node.same a b
  | _, .absent, .absent => true
  | _, .present a, .present b => Node.same a b
  | _, .list as, .list bs => Nodes.same as bs
  | .scalar s, .scalar a, .scalar b => s.same a b
  | _, _, _ => false
termination_by structural _ a => a

/-- Equality of lists of trees. -/
def Nodes.same : {c : Category} → {gaps : Bool} → Nodes c gaps → Nodes c gaps → Bool
  | _, _, .nil, .nil => true
  | _, _, .cons a as, .cons b bs => Node.same a b && Nodes.same as bs
  | _, _, .gap as, .gap bs => Nodes.same as bs
  | _, _, _, _ => false
termination_by structural _ _ a => a

end

/-- A node that may stand at the top of a tree. -/
inductive Root where
  | mod (n : Mod)
  | stmt (n : Stmt)
  | expr (n : Expr)

namespace Root

/-- Equality of trees in which constants are compared as values. -/
def same : Root → Root → Bool
  | .mod a, .mod b => a.same b
  | .stmt a, .stmt b => a.same b
  | .expr a, .expr b => a.same b
  | _, _ => false

end Root

/-- A node or an ordered sequence of nodes. -/
inductive Tree (α : Type) where
  | single (node : α)
  | many (nodes : List α)

namespace Tree

/-- The nodes at the top, in order. -/
def nodes {α : Type} : Tree α → List α
  | .single n => [n]
  | .many ns => ns

/-- Equality of two trees, given equality of nodes. A single node differs from a sequence. -/
def same {α : Type} (eq : α → α → Bool) : Tree α → Tree α → Bool
  | .single a, .single b => eq a b
  | .many as, .many bs => as.length == bs.length && (as.zip bs).all fun (a, b) => eq a b
  | _, _ => false

end Tree

end SyntaxDump
