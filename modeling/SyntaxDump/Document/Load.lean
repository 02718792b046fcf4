import SyntaxDump.Document.Decode
import SyntaxDump.Dump
import SyntaxDump.Json.Reader
import SyntaxDump.Yaml.Value

/-!
# Loading trees

An object is a single node, an array of objects a sequence of nodes; nothing else is a tree. The
nodes at the top are modules, statements or expressions, told apart by the names of their
classes. Of several faults of a sequence the first is reported.
-/

namespace SyntaxDump

/-- The shapes of values, as far as they tell what may be a node. -/
inductive Shape where
  | null
  | boolean
  | float
  | integer
  | string
  | sequence
  | node
deriving DecidableEq, Repr

/-- The wording of a shape. -/
def Shape.message : Shape → String
  | .null => "null"
  | .boolean => "boolean"
  | .float => "float"
  | .integer => "integer"
  | .string => "string"
  | .sequence => "sequence"
  | .node => "node"

/-- The shape of a value. -/
def Json.shape : Json → Shape
  | .null => .null
  | .bool _ => .boolean
  | .int _ => .integer
  | .float _ => .float
  | .str _ => .string
  | .arr _ => .sequence
  | .obj _ => .node

/-- Why no tree was loaded. -/
inductive LoadError where
  /-- A value that is no node stands at the top, or at a position of the sequence there. -/
  | unsupported (shape : Shape) (index : Option Nat)
  /-- A node is malformed. -/
  | invalidNode (e : DecodeError)
  /-- The text is not JSON: the problem, its line and its column. -/
  | malformedJson (problem : Json.Problem) (line column : Nat)
  /-- The text is not YAML. -/
  | malformedYaml

/-- The wording of an error. -/
def LoadError.message : LoadError → String
  | .unsupported shape index =>
    "Unsupported input kind: expected a node or a sequence of nodes, got " ++ shape.message ++
      match index with
      | none => ""
      | some i => " at index " ++ toString i
  | .invalidNode e => "Invalid node: " ++ e.message
  | .malformedJson problem line column =>
    "Parse error: " ++ problem.message ++ " at line " ++ toString line ++ " column " ++
      toString column
  | .malformedYaml => "Parse error: malformed YAML"

/-- A node of one of the categories that may stand at the top, with its class named in faults. The
name decides to which reader the value is given. -/
def Root.ofClass (name : String) (j : Json) : Except DecodeError Root :=
  if name ∈ Category.topNames .mod then
    ((Node.ofJson false j .mod).map .mod).mapError (.inNode name)
  else if name ∈ Category.topNames .stmt then
    ((Node.ofJson false j .stmt).map .stmt).mapError (.inNode name)
  else if name ∈ Category.topNames .expr then
    ((Node.ofJson false j .expr).map .expr).mapError (.inNode name)
  else .error (.unknownNode name)

/-- A node at the top of a tree. Its class has to be given by name. -/
def Root.ofJson : Json → Except DecodeError Root
  | .obj members =>
    match Json.member? members "_type" with
    | none => .error (.missingField "_type")
    | some (.str name) => Root.ofClass name (.obj members)
    | some tag => .error (.classNotText tag)
  | _ => .error (.missingField "_type")

/-- An item of a sequence of nodes; `index` items stand before it. -/
def Root.ofItem (index : Nat) : Json → Except LoadError Root
  | .obj members => (Root.ofJson (.obj members)).mapError .invalidNode
  | j => .error (.unsupported j.shape (some index))

/-- The nodes of a sequence; `index` items stand before these. -/
def Root.ofItems (index : Nat) : List Json → Except LoadError (List Root)
  | [] => .ok []
  | j :: rest => do
    let r ← Root.ofItem index j
    let rs ← Root.ofItems (index + 1) rest
    return r :: rs

/-- The tree that a value describes. -/
def Tree.ofJson : Json → Except LoadError (Tree Root)
  | .obj members => ((Root.ofJson (.obj members)).mapError .invalidNode).map .single
  | .arr items => (Root.ofItems 0 items).map .many
  | j => .error (.unsupported j.shape none)

/-- How deep arrays and objects may enclose one another in the text of a document. -/
def documentDepth : Nat := 127

/-- The tree that a JSON text describes. -/
def Tree.ofJsonText (text : String) : Except LoadError (Tree Root) :=
  match Json.read documentDepth text with
  | .ok j => Tree.ofJson j
  | .error fault =>
    let (line, column) := fault.place text
    .error (.malformedJson fault.problem line column)

/-- The tree that a YAML text describes. -/
def Tree.ofYamlText (text : String) : Except LoadError (Tree Root) :=
  match Yaml.read text with
  | some j => Tree.ofJson j
  | none => .error .malformedYaml

/-- The languages that documents are written in. -/
inductive Syntax where
  | json
  | yaml
deriving DecidableEq, Repr

/-- The tree that a text in one of the languages describes. -/
def Tree.ofText (language : Syntax) (text : String) : Except LoadError (Tree Root) :=
  match language with
  | .json => Tree.ofJsonText text
  | .yaml => Tree.ofYamlText text

/-- The dump of the tree that a value describes. -/
def Json.dump (j : Json) (indent : Option Indent) (level : UInt64) : Except LoadError String :=
  (Tree.ofJson j).map (·.dump indent level)

/-- Writes the dump of the tree that a value describes. -/
def Json.dumpWithin (j : Json) (sums : Sums) (indent : Option Indent) (level : UInt64) :
    Except Overflow (Except LoadError String) :=
  match Tree.ofJson j with
  | .ok t => (t.dumpWithin sums indent level).map .ok
  | .error e => .ok (.error e)

/-- What is written is the dump, or why there is none. -/
theorem Json.eq_dump_of_dumpWithin {j : Json} {sums : Sums} {indent : Option Indent}
    {level : UInt64} {result : Except LoadError String}
    (h : j.dumpWithin sums indent level = .ok result) : result = j.dump indent level := by
  rw [dumpWithin] at h
  rw [dump]
  split at h
  · next t ht =>
    obtain ⟨text, htext, rfl⟩ := Except.map_eq_ok_iff.mp h
    rw [ht, Tree.eq_dump_of_dumpWithin htext]
    rfl
  · next e he =>
    rw [he]
    exact (Except.ok.inj h).symm

end SyntaxDump
