import SyntaxDump.Yaml.Lexer

/-!
# Nodes of YAML text

A text holds one document, and the document one node. Nodes are scalars, sequences and mappings,
with an anchor and a tag each if they have them, and aliases that refer to anchors.
-/

namespace SyntaxDump.Yaml

/-- What may stand before a node. -/
structure Properties where
  anchor : Option String
  /-- The tag in full. -/
  tag : Option String

/-- A node. -/
inductive Node where
  | scalar (properties : Properties) (text : String) (isPlain : Bool)
  | sequence (properties : Properties) (items : List Node)
  | mapping (properties : Properties) (entries : List (Node × Node))
  | alias (name : String)

namespace Node

/-- Neither an anchor nor a tag. -/
def noProperties : Properties := ⟨none, none⟩

/-- The node that is meant where nothing stands. -/
def empty : Node := .scalar noProperties "" true

end Node

/-- The handles of tags with what they stand for. -/
abbrev Handles := List (String × String)

/-- The handles that need no directive. -/
def builtInHandles : Handles := [("!", "!"), ("!!", "tag:yaml.org,2002:")]

/-- A tag in full. -/
def Handles.tag? (handles : Handles) (name : TagName) : Option String :=
  if name.handle.isEmpty then some name.suffix
  else (handles.lookup name.handle).map (· ++ name.suffix)

/-- What readers of nodes make of tokens: a result and the tokens after it, or nothing. -/
abbrev TokenReader (α : Type) := List Token → Option (α × List Token)

/-- A tag in full, if a token is one. -/
def readTagToken (handles : Handles) : TokenReader (Option String)
  | .tag name :: rest => (handles.tag? name).map fun tag => (some tag, rest)
  | ts => some (none, ts)

/-- An anchor and a tag in either order, as far as they are there. -/
def readProperties (handles : Handles) : TokenReader Properties
  | .anchor name :: rest =>
    (readTagToken handles rest).map fun (tag, rest) => (⟨some name, tag⟩, rest)
  | ts => do
    let (tag, rest) ← readTagToken handles ts
    match tag, rest with
    | some tag, .anchor name :: rest => return (⟨some name, some tag⟩, rest)
    | tag, rest => return (⟨none, tag⟩, rest)

/-- Where a node stands, as far as it matters what it may be. -/
inductive NodePlace where
  /-- Inside brackets, where indentation counts for nothing. -/
  | inFlow
  /-- Outside brackets. -/
  | inBlock
  /-- Outside brackets as a key or value of a mapping, where the items of a sequence may stand at
  the column of the mapping. -/
  | inMapping
deriving DecidableEq

/-- A scalar with its properties. An exclamation mark as its tag counts for no tag. -/
def scalarNode (p : Properties) (text : String) (isPlain : Bool) : Node :=
  .scalar (if p.tag = some "!" then ⟨p.anchor, none⟩ else p) text isPlain

/-- Whether an item is left out after its hyphen, in a sequence that is told by its
indentation. -/
def itemLeftOut : List Token → Bool
  | .blockEntry :: _ => true
  | .blockEnd :: _ => true
  | _ => false

/-- Whether a key or value is left out after its mark, in a mapping that is told by its
indentation. -/
def memberLeftOut : List Token → Bool
  | .key :: _ => true
  | .value :: _ => true
  | .blockEnd :: _ => true
  | _ => false

/-- Whether an item is left out after its hyphen, in a sequence at the column of a mapping. -/
def hyphenItemLeftOut : List Token → Bool
  | .blockEntry :: _ => true
  | ts => memberLeftOut ts

/-- Whether a key is left out after its mark, in a mapping in braces. -/
def flowKeyLeftOut : List Token → Bool
  | .value :: _ => true
  | .flowEntry :: _ => true
  | .flowMappingEnd :: _ => true
  | _ => false

/-- Whether a value is left out after its mark, in a mapping in braces. -/
def flowValueLeftOut : List Token → Bool
  | .flowEntry :: _ => true
  | .flowMappingEnd :: _ => true
  | _ => false

/-- Whether a value is left out after its mark, in a mapping without braces. -/
def pairValueLeftOut : List Token → Bool
  | .flowEntry :: _ => true
  | .flowSequenceEnd :: _ => true
  | _ => false

/-- Reads a node unless it is left out. -/
def orEmpty (leftOut : List Token → Bool) (read : TokenReader Node) : TokenReader Node :=
  fun ts => if leftOut ts then some (.empty, ts) else read ts

/-- Reads a value after its mark, unless it is left out, with its mark or without. -/
def valueOrEmpty (leftOut : List Token → Bool) (read : TokenReader Node) : TokenReader Node
  | .value :: rest => orEmpty leftOut read rest
  | ts => some (.empty, ts)

/-- What follows the comma before an item or entry, which only the first one is without. -/
def afterComma (first : Bool) : List Token → Option (List Token)
  | .flowEntry :: rest => some (if first then .flowEntry :: rest else rest)
  | ts => if first then some ts else none

/-- A node of properties alone. -/
def emptyNode (p : Properties) : TokenReader Node := fun ts =>
  if p.anchor.isNone && p.tag.isNone then none else some (.scalar p "" true, ts)

mutual

/-- A node. Every round of the readers here takes a token or leads to a round that does. -/
def readNode (handles : Handles) (place : NodePlace) : Nat → TokenReader Node
  | 0, _ => none
  | _ + 1, .alias name :: rest => some (.alias name, rest)
  | rounds + 1, ts => do
    let (p, rest) ← readProperties handles ts
    match rest with
    | .scalar text isPlain :: rest => return (scalarNode p text isPlain, rest)
    | .flowSequenceStart :: rest =>
      (readFlowItems handles true rounds rest).map fun (ns, rest) => (.sequence p ns, rest)
    | .flowMappingStart :: rest =>
      (readFlowEntries handles true rounds rest).map fun (es, rest) => (.mapping p es, rest)
    | .blockEntry :: more =>
      if place = .inMapping then
        (readHyphens handles rounds (.blockEntry :: more)).map
          fun (ns, rest) => (.sequence p ns, rest)
      else emptyNode p (.blockEntry :: more)
    | .blockSequenceStart :: more =>
      if place = .inFlow then emptyNode p (.blockSequenceStart :: more)
      else (readBlockItems handles rounds more).map fun (ns, rest) => (.sequence p ns, rest)
    | .blockMappingStart :: more =>
      if place = .inFlow then emptyNode p (.blockMappingStart :: more)
      else (readBlockEntries handles rounds more).map fun (es, rest) => (.mapping p es, rest)
    | rest => emptyNode p rest

/-- The items of a sequence that is told by its indentation. -/
def readBlockItems (handles : Handles) : Nat → TokenReader (List Node)
  | rounds + 1, .blockEntry :: rest => do
    let (n, rest) ← orEmpty itemLeftOut (readNode handles .inBlock rounds) rest
    let (ns, rest) ← readBlockItems handles rounds rest
    return (n :: ns, rest)
  | _ + 1, .blockEnd :: rest => some ([], rest)
  | _, _ => none

/-- The items of a sequence whose hyphens stand at the column of the mapping around it. -/
def readHyphens (handles : Handles) : Nat → TokenReader (List Node)
  | rounds + 1, .blockEntry :: rest => do
    let (n, rest) ← orEmpty hyphenItemLeftOut (readNode handles .inBlock rounds) rest
    let (ns, rest) ← readHyphens handles rounds rest
    return (n :: ns, rest)
  | _ + 1, rest => some ([], rest)
  | 0, _ => none

/-- The entries of a mapping that is told by its indentation. -/
def readBlockEntries (handles : Handles) : Nat → TokenReader (List (Node × Node))
  | rounds + 1, .key :: rest => do
    let (k, rest) ← orEmpty memberLeftOut (readNode handles .inMapping rounds) rest
    let (v, rest) ← valueOrEmpty memberLeftOut (readNode handles .inMapping rounds) rest
    let (es, rest) ← readBlockEntries handles rounds rest
    return ((k, v) :: es, rest)
  | _ + 1, .blockEnd :: rest => some ([], rest)
  | _, _ => none

/-- The items of a sequence in brackets, after the opening one or after an item. An item may be a
mapping of a single entry without braces. -/
def readFlowItems (handles : Handles) (first : Bool) : Nat → TokenReader (List Node)
  | 0, _ => none
  | _ + 1, .flowSequenceEnd :: rest => some ([], rest)
  | rounds + 1, ts => do
    match ← afterComma first ts with
    | .flowSequenceEnd :: rest => return ([], rest)
    | .key :: rest => do
      let (e, rest) ← readPair handles rounds rest
      let (ns, rest) ← readFlowItems handles false rounds rest
      return (.mapping Node.noProperties [e] :: ns, rest)
    | rest => do
      let (n, rest) ← readNode handles .inFlow rounds rest
      let (ns, rest) ← readFlowItems handles false rounds rest
      return (n :: ns, rest)

/-- The entry of a mapping without braces, after the mark of its key. Where the key is left out,
the token that shows it is passed over. -/
def readPair (handles : Handles) : Nat → TokenReader (Node × Node)
  | 0, _ => none
  | rounds + 1, ts => do
    let (k, rest) ← match ts with
      | .value :: rest => some (.empty, rest)
      | .flowEntry :: rest => some (.empty, rest)
      | .flowSequenceEnd :: rest => some (.empty, rest)
      | rest => readNode handles .inFlow rounds rest
    let (v, rest) ← valueOrEmpty pairValueLeftOut (readNode handles .inFlow rounds) rest
    return ((k, v), rest)

/-- The entries of a mapping in braces, after the opening one or after an entry. -/
def readFlowEntries (handles : Handles) (first : Bool) : Nat → TokenReader (List (Node × Node))
  | 0, _ => none
  | _ + 1, .flowMappingEnd :: rest => some ([], rest)
  | rounds + 1, ts => do
    match ← afterComma first ts with
    | .flowMappingEnd :: rest => return ([], rest)
    | .key :: rest => do
      let (k, rest) ← orEmpty flowKeyLeftOut (readNode handles .inFlow rounds) rest
      let (v, rest) ← valueOrEmpty flowValueLeftOut (readNode handles .inFlow rounds) rest
      let (es, rest) ← readFlowEntries handles false rounds rest
      return ((k, v) :: es, rest)
    | rest => do
      let (k, rest) ← readNode handles .inFlow rounds rest
      let (es, rest) ← readFlowEntries handles false rounds rest
      return ((k, .empty) :: es, rest)

end

/-- Directives as far as they are read. -/
structure Directives where
  hasVersion : Bool
  handles : Handles

/-- The directives before a document. There is one for the version at most, for version 1.1 or
1.2, and one for every handle. -/
def readDirectives (d : Directives) : TokenReader Directives
  | .version major minor :: rest =>
    if d.hasVersion || major != 1 || (minor != 1 && minor != 2) then none
    else readDirectives { d with hasVersion := true } rest
  | .handle name lead :: rest =>
    if (d.handles.lookup name).isSome then none
    else readDirectives { d with handles := (name, lead) :: d.handles } rest
  | rest => some (d, rest)

/-- The node of a document after its opening mark. -/
def readMarkedDocument (handles : Handles) (rounds : Nat) : TokenReader Node := fun ts =>
  match ts with
  | [] => some (.empty, [])
  | .documentEnd :: _ => some (.empty, ts)
  | .documentStart :: _ => none
  | .version _ _ :: _ => none
  | .handle _ _ :: _ => none
  | _ => readNode handles .inBlock rounds ts

/-- The node of the document of a text. A text without any token has none. Only marks for the end
of the document may stand after it. -/
def Node.ofTokens? (ts : List Token) : Option (Option Node) :=
  let rounds := 3 * ts.length + 3
  match ts with
  | [] => some none
  | _ => do
    let (d, rest) ← readDirectives ⟨false, []⟩ ts
    let handles := d.handles ++ builtInHandles
    let (n, rest) ← match rest with
      | .documentStart :: rest => readMarkedDocument handles rounds rest
      | _ => if d.hasVersion || !d.handles.isEmpty then none else readNode handles .inBlock rounds rest
    match rest.dropWhile fun t => t matches .documentEnd with
    | [] => return some n
    | _ => none

end SyntaxDump.Yaml
