import SyntaxDump.Constant
import SyntaxDump.Location

/-!
# The abstract grammar

The classes of nodes that a syntax tree of a Python program is made of. Every class belongs to a
category, which says where its nodes may stand, and has an ordered list of fields, which says
what they hold. The types of `Node.lean` have exactly the trees of this grammar.

A class is described twice. Documents are read and written by the name `Kind.tag?` and the list
`Kind.fields`. Dumps and outlines show the name `Kind.className` and the list `Kind.shown`, whose
entries say for themselves how they are called and which field they show.
-/

namespace SyntaxDump

/-- The places in a tree that a node can take. -/
inductive Category where
  | mod
  | stmt
  | expr
  | arguments
  | arg
  | keyword
  | alias
  | operator
  | boolOperator
  | unaryOperator
  | cmpOperator
  | context
deriving DecidableEq, Repr

namespace Category

/-- Where a node of the category stands in its source; operators, contexts, parameter lists and
whole modules have no place of their own. -/
abbrev Place : Category → Type
  | .stmt => Location
  | .expr => Location
  | .arg => Location
  | .keyword => Location
  | .alias => Location
  | _ => Unit

/-- The location of a node of the category, if it has one. -/
def location? : (c : Category) → c.Place → Option Location
  | .stmt, place => some place
  | .expr, place => some place
  | .arg, place => some place
  | .keyword, place => some place
  | .alias, place => some place
  | .mod, _ => none
  | .arguments, _ => none
  | .operator, _ => none
  | .boolOperator, _ => none
  | .unaryOperator, _ => none
  | .cmpOperator, _ => none
  | .context, _ => none

/-- Whether nodes of the category have a location. -/
def isLocated : Category → Bool
  | .stmt => true
  | .expr => true
  | .arg => true
  | .keyword => true
  | .alias => true
  | _ => false

/-- The place of a node about whose location this much is known. -/
def place : (c : Category) → Location → c.Place
  | .stmt, l => l
  | .expr, l => l
  | .arg, l => l
  | .keyword, l => l
  | .alias, l => l
  | .mod, _ => ()
  | .arguments, _ => ()
  | .operator, _ => ()
  | .boolOperator, _ => ()
  | .unaryOperator, _ => ()
  | .cmpOperator, _ => ()
  | .context, _ => ()

end Category

/-- What a field can hold besides nodes. -/
inductive Scalar where
  | identifier
  | optionalIdentifier
  | identifiers
  | dottedName
  | optionalDottedName
  | constant
  | optionalText
  | level
  | conversion
deriving DecidableEq, Repr

/-- The values of a kind of scalar. -/
abbrev Scalar.Value : Scalar → Type
  | .identifier => String
  | .optionalIdentifier => Option String
  | .identifiers => List String
  | .dottedName => String
  | .optionalDottedName => Option String
  | .constant => Constant
  | .optionalText => Option String
  | .level => UInt64
  | .conversion => Int64

/-- What a field holds. -/
inductive Content where
  /-- A node of the category. -/
  | node (c : Category)
  /-- A node of the category or nothing. -/
  | optional (c : Category)
  /-- A list of nodes of the category; with gaps, items may be missing. -/
  | list (c : Category) (gaps : Bool)
  /-- No node. -/
  | scalar (s : Scalar)
deriving DecidableEq, Repr

/-- A field of a class. -/
structure Field where
  name : String
  content : Content
  /-- Whether a document has to give the field; a field that may be left out takes a default. -/
  required : Bool
deriving DecidableEq, Repr

/-- A field that documents have to give. -/
def Field.must (name : String) (content : Content) : Field := ⟨name, content, true⟩

/-- A field that documents may leave out. -/
def Field.may (name : String) (content : Content) : Field := ⟨name, content, false⟩

/-- An entry of the list of fields that a class shows. -/
inductive Entry where
  /-- The value of the field `source`. -/
  | field (name source : String)
  /-- A list that is always empty. There is no field for it. -/
  | emptyList (name : String)
deriving DecidableEq, Repr

/-- The value that an entry shows, with its name; the values of fields are given by the names of the
fields. -/
def Entry.pick {α : Type} (empty : α) (values : List (String × α)) : Entry → Option (String × α)
  | .field name source => (values.lookup source).map (name, ·)
  | .emptyList name => some (name, empty)

/-- The classes of nodes of each category. -/
inductive Kind : Category → Type
  | module : Kind .mod
  | interactive : Kind .mod
  | expression : Kind .mod
  | functionDef : Kind .stmt
  | asyncFunctionDef : Kind .stmt
  | classDef : Kind .stmt
  | returnValue : Kind .stmt
  | assign : Kind .stmt
  | augAssign : Kind .stmt
  | forLoop : Kind .stmt
  | whileLoop : Kind .stmt
  | ifElse : Kind .stmt
  | importNames : Kind .stmt
  | importFrom : Kind .stmt
  | globalNames : Kind .stmt
  | exprStmt : Kind .stmt
  | pass : Kind .stmt
  | breakLoop : Kind .stmt
  | continueLoop : Kind .stmt
  | boolOp : Kind .expr
  | binOp : Kind .expr
  | unaryOp : Kind .expr
  | ifExp : Kind .expr
  | dict : Kind .expr
  | compare : Kind .expr
  | call : Kind .expr
  | await : Kind .expr
  | formattedValue : Kind .expr
  | joinedStr : Kind .expr
  | constant : Kind .expr
  | attribute : Kind .expr
  | starred : Kind .expr
  | name : Kind .expr
  | list : Kind .expr
  | tuple : Kind .expr
  | arguments : Kind .arguments
  | arg : Kind .arg
  | keyword : Kind .keyword
  | alias : Kind .alias
  | add : Kind .operator
  | sub : Kind .operator
  | mult : Kind .operator
  | matMult : Kind .operator
  | div : Kind .operator
  | mod : Kind .operator
  | pow : Kind .operator
  | lShift : Kind .operator
  | rShift : Kind .operator
  | bitOr : Kind .operator
  | bitXor : Kind .operator
  | bitAnd : Kind .operator
  | floorDiv : Kind .operator
  | and : Kind .boolOperator
  | or : Kind .boolOperator
  | invert : Kind .unaryOperator
  | not : Kind .unaryOperator
  | uAdd : Kind .unaryOperator
  | uSub : Kind .unaryOperator
  | eq : Kind .cmpOperator
  | notEq : Kind .cmpOperator
  | lt : Kind .cmpOperator
  | ltE : Kind .cmpOperator
  | gt : Kind .cmpOperator
  | gtE : Kind .cmpOperator
  | is : Kind .cmpOperator
  | isNot : Kind .cmpOperator
  | isIn : Kind .cmpOperator
  | notIn : Kind .cmpOperator
  | load : Kind .context
  | store : Kind .context
  | del : Kind .context
deriving DecidableEq, Repr

namespace Kind

/-- The name of a class in dumps and outlines. -/
def className : {c : Category} → Kind c → String
  | _, .module => "Module"
  | _, .interactive => "Interactive"
  | _, .expression => "Expression"
  | _, .functionDef => "FunctionDef"
  | _, .asyncFunctionDef => "AsyncFunctionDef"
  | _, .classDef => "ClassDef"
  | _, .returnValue => "Return"
  | _, .assign => "Assign"
  | _, .augAssign => "AugAssign"
  | _, .forLoop => "For"
  | _, .whileLoop => "While"
  | _, .ifElse => "If"
  | _, .importNames => "Import"
  | _, .importFrom => "ImportFrom"
  | _, .globalNames => "Global"
  | _, .exprStmt => "Expr"
  | _, .pass => "Pass"
  | _, .breakLoop => "Break"
  | _, .continueLoop => "Continue"
  | _, .boolOp => "BoolOp"
  | _, .binOp => "BinOp"
  | _, .unaryOp => "UnaryOp"
  | _, .ifExp => "IfExp"
  | _, .dict => "Dict"
  | _, .compare => "Compare"
  | _, .call => "Call"
  | _, .await => "Await"
  | _, .formattedValue => "FormattedValue"
  | _, .joinedStr => "JoinedStr"
  | _, .constant => "Constant"
  | _, .attribute => "Attribute"
  | _, .starred => "Starred"
  | _, .name => "Name"
  | _, .list => "List"
  | _, .tuple => "Tuple"
  | _, .arguments => "arguments"
  | _, .arg => "arg"
  | _, .keyword => "keyword"
  | _, .alias => "alias"
  | _, .add => "Add"
  | _, .sub => "Sub"
  | _, .mult => "Mult"
  | _, .matMult => "MatMult"
  | _, .div => "Div"
  | _, .mod => "Mod"
  | _, .pow => "Pow"
  | _, .lShift => "LShift"
  | _, .rShift => "RShift"
  | _, .bitOr => "BitOr"
  | _, .bitXor => "BitXor"
  | _, .bitAnd => "BitAnd"
  | _, .floorDiv => "FloorDiv"
  | _, .and => "And"
  | _, .or => "Or"
  | _, .invert => "Invert"
  | _, .not => "Not"
  | _, .uAdd => "UAdd"
  | _, .uSub => "USub"
  | _, .eq => "Eq"
  | _, .notEq => "NotEq"
  | _, .lt => "Lt"
  | _, .ltE => "LtE"
  | _, .gt => "Gt"
  | _, .gtE => "GtE"
  | _, .is => "Is"
  | _, .isNot => "IsNot"
  | _, .isIn => "In"
  | _, .notIn => "NotIn"
  | _, .load => "Load"
  | _, .store => "Store"
  | _, .del => "Del"

/-- The name of a class in documents. A class that is alone in its category has none; operators and
contexts are declared by one word, which is the name of the class as well. -/
def tag? : {c : Category} → Kind c → Option String
  | _, .module => some "Module"
  | _, .interactive => some "Interactive"
  | _, .expression => some "Expression"
  | _, .functionDef => some "FunctionDef"
  | _, .asyncFunctionDef => some "AsyncFunctionDef"
  | _, .classDef => some "ClassDef"
  | _, .returnValue => some "Return"
  | _, .assign => some "Assign"
  | _, .augAssign => some "AugAssign"
  | _, .forLoop => some "For"
  | _, .whileLoop => some "While"
  | _, .ifElse => some "If"
  | _, .importNames => some "Import"
  | _, .importFrom => some "ImportFrom"
  | _, .globalNames => some "Global"
  | _, .exprStmt => some "Expr"
  | _, .pass => some "Pass"
  | _, .breakLoop => some "Break"
  | _, .continueLoop => some "Continue"
  | _, .boolOp => some "BoolOp"
  | _, .binOp => some "BinOp"
  | _, .unaryOp => some "UnaryOp"
  | _, .ifExp => some "IfExp"
  | _, .dict => some "Dict"
  | _, .compare => some "Compare"
  | _, .call => some "Call"
  | _, .await => some "Await"
  | _, .formattedValue => some "FormattedValue"
  | _, .joinedStr => some "JoinedStr"
  | _, .constant => some "Constant"
  | _, .attribute => some "Attribute"
  | _, .starred => some "Starred"
  | _, .name => some "Name"
  | _, .list => some "List"
  | _, .tuple => some "Tuple"
  | _, .arguments => none
  | _, .arg => none
  | _, .keyword => none
  | _, .alias => none
  | .operator, k => some k.className
  | .boolOperator, k => some k.className
  | .unaryOperator, k => some k.className
  | .cmpOperator, k => some k.className
  | .context, k => some k.className

/-- The fields of a function definition. -/
def functionFields : List Field :=
  [.must "name" (.scalar .identifier), .may "args" (.node .arguments),
    .must "body" (.list .stmt false), .may "decorator_list" (.list .expr false),
    .may "returns" (.optional .expr)]

/-- The fields of a class, in the order in which documents list them. -/
def fields : {c : Category} → Kind c → List Field
  | _, .module => [.must "body" (.list .stmt false)]
  | _, .interactive => [.must "body" (.list .stmt false)]
  | _, .expression => [.must "body" (.node .expr)]
  | _, .functionDef => functionFields
  | _, .asyncFunctionDef => functionFields
  | _, .classDef =>
    [.must "name" (.scalar .identifier), .may "bases" (.list .expr false),
      .may "keywords" (.list .keyword false), .must "body" (.list .stmt false),
      .may "decorator_list" (.list .expr false)]
  | _, .returnValue => [.may "value" (.optional .expr)]
  | _, .assign => [.must "targets" (.list .expr false), .must "value" (.node .expr)]
  | _, .augAssign =>
    [.must "target" (.node .expr), .must "op" (.node .operator), .must "value" (.node .expr)]
  | _, .forLoop =>
    [.must "target" (.node .expr), .must "iter" (.node .expr),
      .must "body" (.list .stmt false), .may "orelse" (.list .stmt false)]
  | _, .whileLoop =>
    [.must "test" (.node .expr), .must "body" (.list .stmt false),
      .may "orelse" (.list .stmt false)]
  | _, .ifElse =>
    [.must "test" (.node .expr), .must "body" (.list .stmt false),
      .may "orelse" (.list .stmt false)]
  | _, .importNames => [.must "names" (.list .alias false)]
  | _, .importFrom =>
    [.may "module" (.scalar .optionalDottedName), .must "names" (.list .alias false),
      .may "level" (.scalar .level)]
  | _, .globalNames => [.must "names" (.scalar .identifiers)]
  | _, .exprStmt => [.must "value" (.node .expr)]
  | _, .boolOp => [.must "op" (.node .boolOperator), .must "values" (.list .expr false)]
  | _, .binOp =>
    [.must "left" (.node .expr), .must "op" (.node .operator), .must "right" (.node .expr)]
  | _, .unaryOp => [.must "op" (.node .unaryOperator), .must "operand" (.node .expr)]
  | _, .ifExp =>
    [.must "test" (.node .expr), .must "body" (.node .expr), .must "orelse" (.node .expr)]
  | _, .dict => [.may "keys" (.list .expr true), .may "values" (.list .expr false)]
  | _, .compare =>
    [.must "left" (.node .expr), .must "ops" (.list .cmpOperator false),
      .must "comparators" (.list .expr false)]
  | _, .call =>
    [.must "func" (.node .expr), .may "args" (.list .expr false),
      .may "keywords" (.list .keyword false)]
  | _, .await => [.must "value" (.node .expr)]
  | _, .formattedValue =>
    [.must "value" (.node .expr), .may "conversion" (.scalar .conversion),
      .may "format_spec" (.optional .expr)]
  | _, .joinedStr => [.may "values" (.list .expr false)]
  | _, .constant =>
    [.must "value" (.scalar .constant), .may "kind" (.scalar .optionalText)]
  | _, .attribute =>
    [.must "value" (.node .expr), .must "attr" (.scalar .identifier),
      .may "ctx" (.node .context)]
  | _, .starred => [.must "value" (.node .expr), .may "ctx" (.node .context)]
  | _, .name => [.must "id" (.scalar .identifier), .may "ctx" (.node .context)]
  | _, .list => [.must "elts" (.list .expr false), .may "ctx" (.node .context)]
  | _, .tuple => [.must "elts" (.list .expr false), .may "ctx" (.node .context)]
  | _, .arguments =>
    [.may "posonlyargs" (.list .arg false), .may "args" (.list .arg false),
      .may "vararg" (.optional .arg), .may "kwonlyargs" (.list .arg false),
      .may "kw_defaults" (.list .expr false), .may "kwarg" (.optional .arg),
      .may "defaults" (.list .expr false)]
  | _, .arg => [.must "arg" (.scalar .identifier), .may "annotation" (.optional .expr)]
  | _, .keyword => [.may "arg" (.scalar .optionalIdentifier), .must "value" (.node .expr)]
  | _, .alias => [.must "name" (.scalar .dottedName), .may "asname" (.scalar .optionalIdentifier)]
  | _, _ => []

/-- The entries of a function definition. -/
def functionEntries : List Entry :=
  [.field "name" "name", .field "args" "args", .field "body" "body",
    .field "decorator_list" "decorator_list", .field "returns" "returns"]

/-- The entries of a choice or of a loop under a condition. -/
def branchEntries : List Entry :=
  [.field "test" "test", .field "body" "body", .field "orelse" "orelse"]

/-- The entries of a list or a tuple. -/
def itemEntries : List Entry := [.field "elts" "elts", .field "ctx" "ctx"]

/-- The entries of a class, in the order in which dumps and outlines show them. Those of a whole
module end with its type comments, which trees do not hold. -/
def shown : {c : Category} → Kind c → List Entry
  | _, .module => [.field "body" "body", .emptyList "type_ignores"]
  | _, .interactive => [.field "body" "body"]
  | _, .expression => [.field "body" "body"]
  | _, .functionDef => functionEntries
  | _, .asyncFunctionDef => functionEntries
  | _, .classDef =>
    [.field "name" "name", .field "bases" "bases", .field "keywords" "keywords",
      .field "body" "body", .field "decorator_list" "decorator_list"]
  | _, .returnValue => [.field "value" "value"]
  | _, .assign => [.field "targets" "targets", .field "value" "value"]
  | _, .augAssign => [.field "target" "target", .field "op" "op", .field "value" "value"]
  | _, .forLoop =>
    [.field "target" "target", .field "iter" "iter", .field "body" "body",
      .field "orelse" "orelse"]
  | _, .whileLoop => branchEntries
  | _, .ifElse => branchEntries
  | _, .importNames => [.field "names" "names"]
  | _, .importFrom => [.field "module" "module", .field "names" "names", .field "level" "level"]
  | _, .globalNames => [.field "names" "names"]
  | _, .exprStmt => [.field "value" "value"]
  | _, .pass => []
  | _, .breakLoop => []
  | _, .continueLoop => []
  | _, .boolOp => [.field "op" "op", .field "values" "values"]
  | _, .binOp => [.field "left" "left", .field "op" "op", .field "right" "right"]
  | _, .unaryOp => [.field "op" "op", .field "operand" "operand"]
  | _, .ifExp => [.field "test" "test", .field "body" "body", .field "orelse" "orelse"]
  | _, .dict => [.field "keys" "keys", .field "values" "values"]
  | _, .compare => [.field "left" "left", .field "ops" "ops", .field "comparators" "comparators"]
  | _, .call => [.field "func" "func", .field "args" "args", .field "keywords" "keywords"]
  | _, .await => [.field "value" "value"]
  | _, .formattedValue =>
    [.field "value" "value", .field "conversion" "conversion", .field "format_spec" "format_spec"]
  | _, .joinedStr => [.field "values" "values"]
  | _, .constant => [.field "value" "value", .field "kind" "kind"]
  | _, .attribute => [.field "value" "value", .field "attr" "attr", .field "ctx" "ctx"]
  | _, .starred => [.field "value" "value", .field "ctx" "ctx"]
  | _, .name => [.field "id" "id", .field "ctx" "ctx"]
  | _, .list => itemEntries
  | _, .tuple => itemEntries
  | _, .arguments =>
    [.field "posonlyargs" "posonlyargs", .field "args" "args", .field "vararg" "vararg",
      .field "kwonlyargs" "kwonlyargs", .field "kw_defaults" "kw_defaults",
      .field "kwarg" "kwarg", .field "defaults" "defaults"]
  | _, .arg => [.field "arg" "arg", .field "annotation" "annotation"]
  | _, .keyword => [.field "arg" "arg", .field "value" "value"]
  | _, .alias => [.field "name" "name", .field "asname" "asname"]
  | .operator, _ => []
  | .boolOperator, _ => []
  | .unaryOperator, _ => []
  | .cmpOperator, _ => []
  | .context, _ => []

/-- What a class shows of values that belong to its fields; `empty` is the value of an empty
list. -/
def arrange {α : Type} {c : Category} (k : Kind c) (empty : α) (values : List (String × α)) :
    List (String × α) :=
  k.shown.filterMap (·.pick empty values)

/-- The classes of a category in the order of the grammar. -/
def all : (c : Category) → List (Kind c)
  | .mod => [.module, .interactive, .expression]
  | .stmt =>
    [.functionDef, .asyncFunctionDef, .classDef, .returnValue, .assign, .augAssign, .forLoop,
      .whileLoop, .ifElse, .importNames, .importFrom, .globalNames, .exprStmt, .pass,
      .breakLoop, .continueLoop]
  | .expr =>
    [.boolOp, .binOp, .unaryOp, .ifExp, .dict, .compare, .call, .await, .formattedValue,
      .joinedStr, .constant, .attribute, .starred, .name, .list, .tuple]
  | .arguments => [.arguments]
  | .arg => [.arg]
  | .keyword => [.keyword]
  | .alias => [.alias]
  | .operator =>
    [.add, .sub, .mult, .matMult, .div, .mod, .pow, .lShift, .rShift, .bitOr, .bitXor, .bitAnd,
      .floorDiv]
  | .boolOperator => [.and, .or]
  | .unaryOperator => [.invert, .not, .uAdd, .uSub]
  | .cmpOperator => [.eq, .notEq, .lt, .ltE, .gt, .gtE, .is, .isNot, .isIn, .notIn]
  | .context => [.load, .store, .del]

/-- The class of a category that has a single one. Documents do not name it. -/
def only? : (c : Category) → Option (Kind c)
  | .arguments => some .arguments
  | .arg => some .arg
  | .keyword => some .keyword
  | .alias => some .alias
  | _ => none

/-- The class of a category that documents give under a name. -/
def ofName? (c : Category) (name : String) : Option (Kind c) :=
  (all c).find? (·.tag? == some name)

end Kind

/-- The names that a document may give to a node at the top, by the category of the node. -/
def Category.topNames : Category → List String
  | .mod => ["Module", "Interactive", "Expression"]
  | .stmt =>
    ["FunctionDef", "AsyncFunctionDef", "ClassDef", "Return", "Assign", "AugAssign", "For",
      "While", "If", "Import", "ImportFrom", "Global", "Expr", "Pass", "Break", "Continue"]
  | .expr =>
    ["BoolOp", "BinOp", "UnaryOp", "IfExp", "Dict", "Compare", "Call", "Await",
      "FormattedValue", "JoinedStr", "Constant", "Attribute", "Starred", "Name", "List", "Tuple"]
  | _ => []

end SyntaxDump
