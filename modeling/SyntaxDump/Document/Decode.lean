import SyntaxDump.Document.Error
import SyntaxDump.Indent
import SyntaxDump.Name
import SyntaxDump.Node
import SyntaxDump.Width

/-!
# Documents as trees

A node is read from an object by the fields of its class. Members that the grammar does not know
are passed over; fields that are left out take their defaults.

Of several faults one is reported: the value of a member that cannot be read comes before a
required field that is missing, of such members the one with the least key comes first, of
missing fields the one that the grammar lists first; the location is read after the fields.

Classes without a location can also be given as arrays: the name of the class, unless it is the
only one, and the values of its fields.
-/

namespace SyntaxDump

/-- A natural number below `2 ^ 64`. -/
def Json.toWord : Json → Except DecodeError UInt64
  | .int n =>
    if Width.unsigned 64 n then .ok (UInt64.ofNat n.toNat) else .error (.invalidInteger n .word)
  | j => .error (.invalidType j .word)

/-- An integer of 64 bits. -/
def Json.toInteger : Json → Except DecodeError Int64
  | .int n =>
    if Width.signed 64 n then .ok (Int64.ofInt n) else .error (.invalidInteger n .integer)
  | j => .error (.invalidType j .integer)

/-- A number from 0 to 255. -/
def Json.toByte : Json → Except DecodeError UInt8
  | .int n =>
    if 0 ≤ n ∧ n < 256 then .ok (UInt8.ofNat n.toNat) else .error (.invalidInteger n .byte)
  | j => .error (.invalidType j .byte)

/-- A text. -/
def Json.toText : Json → Except DecodeError String
  | .str s => .ok s
  | j => .error (.invalidType j .text)

/-- The items of an array. -/
def Json.toItems : Json → Except DecodeError (List Json)
  | .arr items => .ok items
  | j => .error (.invalidType j .list)

/-- A value that may be `null`. -/
def Json.toOption {α : Type} (read : Json → Except DecodeError α) :
    Json → Except DecodeError (Option α)
  | .null => .ok none
  | j => (read j).map some

/-- A text that has to be a name. -/
def asIdentifier (s : String) : Except DecodeError String :=
  if Name.isIdentifier s then .ok s else .error (.notIdentifier s)

/-- A text that has to be a dotted name. -/
def asDottedName (s : String) : Except DecodeError String :=
  if Name.isDotted s then .ok s else .error (.notDottedName s)

/-- A list of texts that have to be names; the first that is none is reported. -/
def asIdentifiers (ss : List String) : Except DecodeError (List String) :=
  match ss.find? (!Name.isIdentifier ·) with
  | some s => .error (.notIdentifier s)
  | none => .ok ss

/-- A literal value. -/
def Constant.ofJson : Json → Except DecodeError Constant
  | .null => .ok .none
  | .bool b => .ok (.bool b)
  | .int n => .ok (.int n)
  | .float x => .ok (.float x)
  | .str s => .ok (.str s)
  | .arr items => (items.mapM Json.toByte).map .bytes
  | j => .error (.invalidType j .constant)

/-- A scalar. -/
def Scalar.ofJson : (s : Scalar) → Json → Except DecodeError s.Value
  | .identifier, j => j.toText.bind asIdentifier
  | .optionalIdentifier, j => Json.toOption (fun j => j.toText.bind asIdentifier) j
  | .identifiers, j => do asIdentifiers (← (← j.toItems).mapM Json.toText)
  | .dottedName, j => j.toText.bind asDottedName
  | .optionalDottedName, j => Json.toOption (fun j => j.toText.bind asDottedName) j
  | .constant, j => Constant.ofJson j
  | .optionalText, j => Json.toOption Json.toText j
  | .level, j => j.toWord
  | .conversion, j => j.toInteger

/-- What a scalar is when a document leaves it out. -/
def Scalar.default? : (s : Scalar) → Option s.Value
  | .identifier => none
  | .optionalIdentifier => some none
  | .identifiers => none
  | .dottedName => none
  | .optionalDottedName => some none
  | .constant => none
  | .optionalText => some none
  | .level => some 0
  | .conversion => some (-1)

/-- The parameter list without parameters. -/
def Node.noArguments : Node .arguments :=
  .mk .arguments
    (.cons (.list .nil) (.cons (.list .nil) (.cons .absent (.cons (.list .nil)
      (.cons (.list .nil) (.cons .absent (.cons (.list .nil) .nil))))))) ()

/-- The context of an expression whose value is used. -/
def Node.load : Node .context := .mk .load .nil ()

/-- What a field holds when a document leaves it out. -/
def Slot.default? : (k : Content) → Option (Slot k)
  | .node .context => some (.node Node.load)
  | .node .arguments => some (.node Node.noArguments)
  | .node _ => none
  | .optional _ => some .absent
  | .list _ _ => some (.list .nil)
  | .scalar s => s.default?.map .scalar

/-- What is wrong with one of the fields of an object. -/
inductive FieldFault where
  /-- The value of the member cannot be read. -/
  | invalid (key : String) (e : DecodeError)
  /-- A required field has no member. -/
  | missing (name : String)

namespace FieldFault

/-- Of two faults, the one that is reported; the first is that of an earlier field. -/
def dominant : FieldFault → FieldFault → FieldFault
  | .invalid k e, .invalid k' e' => if k' < k then .invalid k' e' else .invalid k e
  | .invalid k e, .missing _ => .invalid k e
  | .missing _, .invalid k e => .invalid k e
  | .missing name, .missing _ => .missing name

/-- The fault of the node. -/
def toError : FieldFault → DecodeError
  | .invalid _ e => e
  | .missing name => .missingField name

end FieldFault

/-- The value of a field, given the reading of the member of its name, if there is one. -/
def Field.read (f : Field) (member : Option (Except DecodeError (Slot f.content))) :
    Except FieldFault (Slot f.content) :=
  match member with
  | some (.ok s) => .ok s
  | some (.error e) => .error (.invalid f.name e)
  | none =>
    if f.required then .error (.missing f.name)
    else match Slot.default? f.content with
      | some s => .ok s
      | none => .error (.missing f.name)

/-- The values of a list of fields, given a reader of members. -/
def Fields.read (member : String → (k : Content) → Option (Except DecodeError (Slot k))) :
    (fs : List Field) → Except FieldFault (Fields fs)
  | [] => .ok .nil
  | f :: fs =>
    match f.read (member f.name f.content), Fields.read member fs with
    | .ok s, .ok rest => .ok (.cons s rest)
    | .error a, .ok _ => .error a
    | .ok _, .error b => .error b
    | .error a, .error b => .error (a.dominant b)

/-- One part of a location. -/
def Location.readPart (members : List (String × Json)) (key : String) :
    Except DecodeError (Option UInt64) :=
  match Json.member? members key with
  | none => .ok none
  | some j => Json.toOption Json.toWord j

/-- The location among the members of an object, its parts read in the order of their keys. -/
def Location.ofMembers (members : List (String × Json)) : Except DecodeError Location := do
  let column ← readPart members "col_offset"
  let endColumn ← readPart members "end_col_offset"
  let endLine ← readPart members "end_lineno"
  let line ← readPart members "lineno"
  return { line, column, endLine, endColumn }

/-- A location on its own: an object, or an array of the parts in their order. -/
def Location.ofJson : Json → Except DecodeError Location
  | .obj members => ofMembers members
  | .arr items => do
    let parts ← (items.take partNames.length).mapM (Json.toOption Json.toWord)
    if partNames.length < items.length then .error (.tooLongArray items.length)
    else
      let part (i : Nat) : Option UInt64 := (parts[i]?).join
      return ⟨part 0, part 1, part 2, part 3⟩
  | j => .error (.invalidType j .location)

/-- An indentation. -/
def Indent.ofJson : Json → Except DecodeError Indent
  | .int n =>
    if Width.unsigned 64 n then .ok (.spaces (UInt64.ofNat n.toNat)) else .error .notIndent
  | .str s => .ok (.text s)
  | _ => .error .notIndent

/-- An indentation as a value. -/
def Indent.toJson : Indent → Json
  | .spaces n => .int n.toNat
  | .text t => .str t

/-- The place of a node among the members of its object. -/
def Category.readPlace (c : Category) (members : List (String × Json)) :
    Except DecodeError c.Place :=
  if c.isLocated then (Location.ofMembers members).map c.place else .ok (c.place .unknown)

/-- The class that a value names. Where `index` is set, the position of the class among those of
its category is as good as its name. -/
def Kind.ofTag (index : Bool) (c : Category) : Json → Except DecodeError (Kind c)
  | .str s =>
    match Kind.ofName? c s with
    | some k => .ok k
    | none => .error (.unknownClass s c)
  | .int n =>
    if index && 0 ≤ n then
      match (Kind.all c)[n.toNat]? with
      | some k => .ok k
      | none => .error (.invalidIndex n (Kind.all c).length)
    else .error (.invalidType (.int n) .className)
  | j => .error (.invalidType j .className)

/-- The class of the node that the members of an object describe. -/
def Kind.ofMembers (index : Bool) (c : Category) (members : List (String × Json)) :
    Except DecodeError (Kind c) :=
  match Kind.only? c with
  | some k => .ok k
  | none =>
    match Json.member? members "_type" with
    | some tag => Kind.ofTag index c tag
    | none => .error (.missingField "_type")

/-- Whether a class may be given by its position: inside a statement or an expression, and for
these themselves. -/
def Category.takesIndex (c : Category) (inside : Bool) : Bool :=
  inside || c == .stmt || c == .expr

/-- The value of a field, given readers of nodes: of the value itself as a node, and of its items
if it is an array. -/
def Slot.ofReaders (j : Json) (node : (c : Category) → Except DecodeError (Node c))
    (items : Option ((c : Category) → (gaps : Bool) → Except DecodeError (Nodes c gaps))) :
    (k : Content) → Except DecodeError (Slot k)
  | .node c => (node c).map .node
  | .optional c =>
    match j with
    | .null => .ok .absent
    | _ => (node c).map .present
  | .list c gaps =>
    match items with
    | some read => (read c gaps).map .list
    | none => .error (.invalidType j .list)
  | .scalar s => (s.ofJson j).map .scalar

/-- What holds the fields of a class, as faults call it. -/
def Kind.holder {c : Category} (k : Kind c) : String :=
  match k.tag? with
  | some tag => "struct variant " ++ c.typeName ++ "::" ++ tag
  | none => "struct " ++ c.typeName

/-- The fault of an array that ends before a field. -/
def Field.cutOff {c : Category} (k : Kind c) (index : Nat) : DecodeError :=
  .tooShort index k.holder k.fields.length

/-- The values of the fields that an array does not reach; it has `index` elements. -/
def Fields.beyond {d : Category} (kind : Kind d) (index : Nat) :
    (fs : List Field) → Except DecodeError (Fields fs)
  | [] => .ok .nil
  | f :: fs =>
    match f.read none with
    | .error _ => .error (Field.cutOff kind index)
    | .ok s => (Fields.beyond kind (index + 1) fs).map (.cons s)

/-- Checks that an array of values has no more elements than a class has fields. -/
def checkLength (inside : Bool) (c : Category) (length fields : Nat) :
    Except DecodeError Unit :=
  if length ≤ fields then .ok ()
  else if !inside && c == .arguments then .error (.tooLongArray length)
  else .error (.tooLong length fields)

mutual

/-- A node of a category; `inside` tells whether the value is part of a statement or an
expression. -/
def Node.ofJson (inside : Bool) : Json → (c : Category) → Except DecodeError (Node c)
  | .obj members, c => do
    let kind ← Kind.ofMembers (c.takesIndex inside) c members
    match Fields.read (fun key k => Slot.ofMembers members key k) kind.fields with
    | .error fault => .error fault.toError
    | .ok fields => do
      let place ← c.readPlace members
      return .mk kind fields place
  | .arr items, c =>
    if c.isLocated then .error (.invalidType (.arr items) (.node c))
    else
      match Kind.only? c, items with
      | some kind, items => do
        let fields ← Fields.ofItems kind 0 items kind.fields
        checkLength inside c items.length kind.fields.length
        return .mk kind fields (c.place .unknown)
      | none, [] => .error (.missingField "_type")
      | none, tag :: rest => do
        let kind ← Kind.ofTag (c.takesIndex inside) c tag
        let fields ← Fields.ofItems kind 0 rest kind.fields
        checkLength inside c rest.length kind.fields.length
        return .mk kind fields (c.place .unknown)
  | j, c => .error (.invalidType j (.node c))

/-- The value of the field with the given name, if there is such a member. -/
def Slot.ofMembers : List (String × Json) → String → (k : Content) →
    Option (Except DecodeError (Slot k))
  | [], _, _ => none
  | (name, j) :: rest, key, k =>
    if name = key then
      some (Slot.ofReaders j (fun c => Node.ofJson true j c)
        (match j with
          | .arr items => some fun c gaps => Nodes.ofItems items c gaps
          | _ => none) k)
    else Slot.ofMembers rest key k

/-- The values of fields from the elements of an array; `index` elements stand before these. -/
def Fields.ofItems {d : Category} (kind : Kind d) (index : Nat) :
    List Json → (fs : List Field) → Except DecodeError (Fields fs)
  | _, [] => .ok .nil
  | [], f :: fs => Fields.beyond kind index (f :: fs)
  | j :: js, f :: fs => do
    let s ← Slot.ofReaders j (fun c => Node.ofJson true j c)
      (match j with
        | .arr items => some fun c gaps => Nodes.ofItems items c gaps
        | _ => none) f.content
    let rest ← Fields.ofItems kind (index + 1) js fs
    return .cons s rest

/-- A list of trees from the items of an array; where gaps are allowed `null` is one. -/
def Nodes.ofItems : List Json → (c : Category) → (gaps : Bool) →
    Except DecodeError (Nodes c gaps)
  | [], _, _ => .ok .nil
  | .null :: js, c, true => (Nodes.ofItems js c true).map .gap
  | j :: js, c, gaps => do
    let n ← Node.ofJson true j c
    let rest ← Nodes.ofItems js c gaps
    return .cons n rest

end

end SyntaxDump
