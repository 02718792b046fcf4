import SyntaxDump.Json.Writer
import SyntaxDump.Yaml.Node
import SyntaxDump.Yaml.Scalar

/-!
# Values of YAML text

`Yaml.read` turns a text into a JSON value. Keys become strings: those of mappings are told apart
before, so `1` and `"1"` are two keys, of which the later one counts in the value. What has a
local tag becomes an object with the tag as its only key.

An alias stands for the node with its anchor. Anchors are numbered, each by how many names were
there before; a name that comes again takes a new number, and of the nodes of one number the last
one counts. Collections may enclose one another up to a limit, those of aliases included, and
aliases may be followed a hundred times as often as the text has parts.
-/

namespace SyntaxDump.Yaml

/-- A node whose anchors and aliases are numbers. -/
inductive LinkedNode where
  | scalar (anchor : Option Nat) (tag : Option String) (text : String) (isPlain : Bool)
  | sequence (anchor : Option Nat) (tag : Option String) (items : List LinkedNode)
  | mapping (anchor : Option Nat) (tag : Option String) (entries : List (LinkedNode × LinkedNode))
  | alias (number : Nat)

/-- The numbers of the names of anchors. -/
abbrev AnchorNumbers := List (String × Nat)

/-- Numbers an anchor, if there is one. -/
def AnchorNumbers.add (names : AnchorNumbers) : Option String → Option Nat × AnchorNumbers
  | none => (none, names)
  | some name =>
    (some names.length, (name, names.length) :: names.filter fun other => other.1 != name)

mutual

/-- Puts numbers in the place of names; an alias has to follow its anchor. -/
def Node.link (names : AnchorNumbers) : Node → Option (LinkedNode × AnchorNumbers)
  | .scalar p text isPlain =>
    let (anchor, names) := names.add p.anchor
    some (.scalar anchor p.tag text isPlain, names)
  | .sequence p items =>
    let (anchor, names) := names.add p.anchor
    (linkItems names items).map fun (items, names) => (.sequence anchor p.tag items, names)
  | .mapping p entries =>
    let (anchor, names) := names.add p.anchor
    (linkEntries names entries).map fun (entries, names) => (.mapping anchor p.tag entries, names)
  | .alias name => (names.lookup name).map fun number => (.alias number, names)

/-- Puts numbers in the place of names in the items of a sequence. -/
def linkItems (names : AnchorNumbers) : List Node → Option (List LinkedNode × AnchorNumbers)
  | [] => some ([], names)
  | n :: rest => do
    let (n, names) ← n.link names
    let (rest, names) ← linkItems names rest
    return (n :: rest, names)

/-- Puts numbers in the place of names in the entries of a mapping. -/
def linkEntries (names : AnchorNumbers) :
    List (Node × Node) → Option (List (LinkedNode × LinkedNode) × AnchorNumbers)
  | [] => some ([], names)
  | (k, v) :: rest => do
    let (k, names) ← k.link names
    let (v, names) ← v.link names
    let (rest, names) ← linkEntries names rest
    return ((k, v) :: rest, names)

end

/-- The number of an anchor with its node, if there is one. -/
def anchored (anchor : Option Nat) (n : LinkedNode) : List (Nat × LinkedNode) :=
  anchor.toList.map (·, n)

mutual

/-- The nodes with anchors in a node, in front of others. -/
def LinkedNode.anchors (after : List (Nat × LinkedNode)) : LinkedNode → List (Nat × LinkedNode)
  | .scalar anchor tag text isPlain => anchored anchor (.scalar anchor tag text isPlain) ++ after
  | .sequence anchor tag items =>
    anchored anchor (.sequence anchor tag items) ++ itemAnchors after items
  | .mapping anchor tag entries =>
    anchored anchor (.mapping anchor tag entries) ++ entryAnchors after entries
  | .alias _ => after

/-- The nodes with anchors in the items of a sequence, in front of others. -/
def itemAnchors (after : List (Nat × LinkedNode)) : List LinkedNode → List (Nat × LinkedNode)
  | [] => after
  | n :: rest => n.anchors (itemAnchors after rest)

/-- The nodes with anchors in the entries of a mapping, in front of others. -/
def entryAnchors (after : List (Nat × LinkedNode)) :
    List (LinkedNode × LinkedNode) → List (Nat × LinkedNode)
  | [] => after
  | (k, v) :: rest => k.anchors (v.anchors (entryAnchors after rest))

end

mutual

/-- The number of parts of a node: a collection has two besides those of its items. -/
def LinkedNode.size : LinkedNode → Nat
  | .scalar _ _ _ _ => 1
  | .sequence _ _ items => sizeOfItems items + 2
  | .mapping _ _ entries => sizeOfEntries entries + 2
  | .alias _ => 1

/-- The number of parts of the items of a sequence. -/
def sizeOfItems : List LinkedNode → Nat
  | [] => 0
  | n :: rest => n.size + sizeOfItems rest

/-- The number of parts of the entries of a mapping. -/
def sizeOfEntries : List (LinkedNode × LinkedNode) → Nat
  | [] => 0
  | (k, v) :: rest => k.size + v.size + sizeOfEntries rest

end

/-- Whether a tag is local: it begins with an exclamation mark. -/
def isLocalTag (tag : String) : Bool := tag.toList.head? == some '!'

/-- A local tag as a key. -/
def tagKey (tag : String) : String :=
  match tag.toList with
  | '!' :: '!' :: c :: rest => String.ofList ('!' :: c :: rest)
  | '!' :: c :: rest => String.ofList ('!' :: c :: rest)
  | _ => "!!"

/-- A value under its tag, if that is local. -/
def underTag (tag : Option String) (j : Json) : Json :=
  match tag with
  | some t => if isLocalTag t then .obj [(tagKey t, j)] else j
  | none => j

/-- The value of a scalar. -/
def scalarValue (tag : Option String) (text : String) (isPlain : Bool) : Option Json :=
  match tag with
  | none => untaggedValue text isPlain
  | some t =>
    if isLocalTag t then (untaggedValue text isPlain).map (underTag tag) else taggedValue t text

/-- The key that a value is. -/
def keyText? : Json → Option String
  | .str s => some s
  | .int n => some (toString n)
  | .bool b => some (if b then "true" else "false")
  | .float x => some (String.ofList (Json.writeFloat x))
  | _ => none

/-- Whether two values are the same key of a mapping. -/
def sameKey : Json → Json → Bool
  | .str s, .str t => s == t
  | .int m, .int n => m == n
  | .bool a, .bool b => a == b
  | .float x, .float y => x.same y
  | _, _ => false

/-- What a reader of values needs besides the node: how many aliases may still be followed. -/
abbrev NodeReader := Nat → LinkedNode → Option (Json × Nat)

/-- The values of the items of a sequence. -/
def itemValues (value : NodeReader) (budget : Nat) : List LinkedNode → Option (List Json × Nat)
  | [] => some ([], budget)
  | n :: rest => do
    let (j, budget) ← value budget n
    let (js, budget) ← itemValues value budget rest
    return (j :: js, budget)

/-- The keys and values of the entries of a mapping, after the given keys. -/
def entryValues (value : NodeReader) (budget : Nat) (keys : List Json) :
    List (LinkedNode × LinkedNode) → Option (List (String × Json) × Nat)
  | [] => some ([], budget)
  | (k, v) :: rest => do
    let (key, budget) ← value budget k
    let name ← keyText? key
    if keys.any (sameKey key) then none
    else
      let (j, budget) ← value budget v
      let (ms, budget) ← entryValues value budget (key :: keys) rest
      return ((name, j) :: ms, budget)

/-- The value of a node that is no alias; its items and entries are read with the given reader,
and without one collections are too deep. -/
def directValue (nested : Option NodeReader) : NodeReader := fun budget n =>
  match n with
  | .scalar _ tag text isPlain => (scalarValue tag text isPlain).map (·, budget)
  | .sequence _ tag items => do
    let (js, budget) ← itemValues (← nested) budget items
    return (underTag tag (.arr js), budget)
  | .mapping _ tag entries => do
    let (ms, budget) ← entryValues (← nested) budget [] entries
    return (underTag tag (.obj (Json.orderedMembers ms)), budget)
  | .alias _ => none

/-- The value of a node; an alias is followed to the node with its anchor. -/
def valueWith (anchors : List (Nat × LinkedNode)) (nested : Option NodeReader) : NodeReader :=
  fun budget n =>
    match n with
    | .alias number =>
      match anchors.lookup number, budget with
      | some target, budget + 1 => directValue nested budget target
      | _, _ => none
    | n => directValue nested budget n

/-- The value of a node in which collections enclose one another at most `limit` deep. -/
def value (anchors : List (Nat × LinkedNode)) : (limit : Nat) → NodeReader
  | 0 => valueWith anchors none
  | limit + 1 => valueWith anchors (some (value anchors limit))

/-- How deep collections may enclose one another. -/
def depthLimit : Nat := 128

/-- The value of the node of a document. -/
def Node.toJson? (n : Node) : Option Json := do
  let (n, _) ← n.link []
  let (j, _) ← value (n.anchors []).reverse depthLimit (100 * n.size) n
  return j

/-- The value of a text; one without a document is null. -/
def read (text : String) : Option Json := do
  let ts ← tokens? text
  match ← Node.ofTokens? ts with
  | none => return .null
  | some n => n.toJson?

end SyntaxDump.Yaml
