import SyntaxDump.Node

/-!
# Building trees

Constructors for the classes of the grammar. Nothing is known of the locations of the nodes they
build, and names are taken as they are: only documents are checked.
-/

namespace SyntaxDump

/-- Whether the classes of a category have no fields: nodes then differ in their class alone. -/
def Category.isFieldless : Category → Bool
  | .operator => true
  | .boolOperator => true
  | .unaryOperator => true
  | .cmpOperator => true
  | .context => true
  | _ => false

/-- Operators and contexts have no fields. -/
theorem Kind.fields_eq_nil {c : Category} (h : c.isFieldless = true) (k : Kind c) :
    k.fields = [] := by
  cases k <;> simp_all [Category.isFieldless, Kind.fields]

namespace Node

/-- An operator or a context. -/
def plain {c : Category} (k : Kind c) (h : c.isFieldless = true := by decide) : Node c :=
  .mk k (k.fields_eq_nil h ▸ .nil) (c.place .unknown)

/-- A parameter list. -/
def arguments (posonlyargs args : List (Node .arg)) (vararg : Option (Node .arg))
    (kwonlyargs : List (Node .arg)) (kwDefaults : List Expr) (kwarg : Option (Node .arg))
    (defaults : List Expr) : Node .arguments :=
  .mk .arguments
    (.cons (.list (.ofList posonlyargs)) (.cons (.list (.ofList args))
      (.cons (.ofOption vararg) (.cons (.list (.ofList kwonlyargs))
        (.cons (.list (.ofList kwDefaults)) (.cons (.ofOption kwarg)
          (.cons (.list (.ofList defaults)) .nil))))))) ()

/-- A parameter. -/
def arg (name : String) (typeHint : Option Expr) : Node .arg :=
  .mk .arg (.cons (.scalar name) (.cons (.ofOption typeHint) .nil)) .unknown

/-- Positional parameters without annotations and defaults. -/
def positional (names : List String) : Node .arguments :=
  arguments [] (names.map fun name => arg name none) none [] [] none []

/-- An argument of a call that is given by name, or the unpacking of a mapping. -/
def keyword (name : Option String) (value : Expr) : Node .keyword :=
  .mk .keyword (.cons (.scalar name) (.cons (.node value) .nil)) .unknown

/-- An imported name, perhaps under another one. -/
def importAlias (name : String) (asName : Option String) : Node .alias :=
  .mk .alias (.cons (.scalar name) (.cons (.scalar asName) .nil)) .unknown

end Node

namespace Expr

/-- A name in the given context. -/
def nameIn (id : String) (context : Kind .context) : Expr :=
  .mk .name (.cons (.scalar id) (.cons (.node (.plain context)) .nil)) .unknown

/-- A name whose value is used. -/
def name (id : String) : Expr := nameIn id .load

/-- A name that is assigned to. -/
def store (id : String) : Expr := nameIn id .store

/-- A literal value with the mark that was written before it. -/
def constantKind (value : Constant) (kind : Option String) : Expr :=
  .mk .constant (.cons (.scalar value) (.cons (.scalar kind) .nil)) .unknown

/-- A literal value. -/
def constant (value : Constant) : Expr := constantKind value none

/-- The literal `None`. -/
def none_ : Expr := constant .none

/-- A binary operation. -/
def binOp (left : Expr) (op : Kind .operator) (right : Expr) : Expr :=
  .mk .binOp (.cons (.node left) (.cons (.node (.plain op)) (.cons (.node right) .nil))) .unknown

/-- A conjunction or a disjunction. -/
def boolOp (op : Kind .boolOperator) (values : List Expr) : Expr :=
  .mk .boolOp (.cons (.node (.plain op)) (.cons (.list (.ofList values)) .nil)) .unknown

/-- A unary operation. -/
def unaryOp (op : Kind .unaryOperator) (operand : Expr) : Expr :=
  .mk .unaryOp (.cons (.node (.plain op)) (.cons (.node operand) .nil)) .unknown

/-- A conditional expression. -/
def ifExp (test body orelse : Expr) : Expr :=
  .mk .ifExp (.cons (.node test) (.cons (.node body) (.cons (.node orelse) .nil))) .unknown

/-- A dictionary; a key is missing where a mapping is unpacked. -/
def dict (keys : List (Option Expr)) (values : List Expr) : Expr :=
  .mk .dict (.cons (.list (.ofOptions keys)) (.cons (.list (.ofList values)) .nil)) .unknown

/-- A chain of comparisons. -/
def compareChain (left : Expr) (ops : List (Kind .cmpOperator)) (comparators : List Expr) :
    Expr :=
  .mk .compare
    (.cons (.node left) (.cons (.list (.ofList (ops.map fun op => .plain op)))
      (.cons (.list (.ofList comparators)) .nil))) .unknown

/-- A comparison. -/
def compare (left : Expr) (op : Kind .cmpOperator) (right : Expr) : Expr :=
  compareChain left [op] [right]

/-- A call. -/
def callWithKeywords (func : Expr) (args : List Expr) (keywords : List (Node .keyword)) : Expr :=
  .mk .call
    (.cons (.node func) (.cons (.list (.ofList args)) (.cons (.list (.ofList keywords)) .nil)))
    .unknown

/-- A call without arguments given by name. -/
def call (func : Expr) (args : List Expr) : Expr := callWithKeywords func args []

/-- The awaiting of a value. -/
def await (value : Expr) : Expr := .mk .await (.cons (.node value) .nil) .unknown

/-- A formatted string. -/
def joinedStr (values : List Expr) : Expr :=
  .mk .joinedStr (.cons (.list (.ofList values)) .nil) .unknown

/-- A replacement field of a formatted string. -/
def formattedValueFull (value : Expr) (conversion : Int64) (formatSpec : Option Expr) : Expr :=
  .mk .formattedValue
    (.cons (.node value) (.cons (.scalar conversion) (.cons (.ofOption formatSpec) .nil)))
    .unknown

/-- A replacement field without conversion and format. -/
def formattedValue (value : Expr) : Expr := formattedValueFull value (-1) none

/-- The unpacking of a sequence. -/
def starred (value : Expr) : Expr :=
  .mk .starred (.cons (.node value) (.cons (.node (.plain .load)) .nil)) .unknown

/-- An attribute of a value. -/
def attributeOf (value : Expr) (attr : String) : Expr :=
  .mk .attribute
    (.cons (.node value) (.cons (.scalar attr) (.cons (.node (.plain .load)) .nil))) .unknown

/-- A list. -/
def list (elts : List Expr) : Expr :=
  .mk .list (.cons (.list (.ofList elts)) (.cons (.node (.plain .load)) .nil)) .unknown

/-- A tuple. -/
def tuple (elts : List Expr) : Expr :=
  .mk .tuple (.cons (.list (.ofList elts)) (.cons (.node (.plain .load)) .nil)) .unknown

/-- The same expression in another context; expressions without a context stay as they are. -/
def withContext (context : Kind .context) : Expr → Expr
  | .mk .name (.cons id (.cons _ .nil)) l =>
    .mk .name (.cons id (.cons (.node (.plain context)) .nil)) l
  | .mk .attribute (.cons value (.cons attr (.cons _ .nil))) l =>
    .mk .attribute (.cons value (.cons attr (.cons (.node (.plain context)) .nil))) l
  | .mk .starred (.cons value (.cons _ .nil)) l =>
    .mk .starred (.cons value (.cons (.node (.plain context)) .nil)) l
  | .mk .list (.cons elts (.cons _ .nil)) l =>
    .mk .list (.cons elts (.cons (.node (.plain context)) .nil)) l
  | .mk .tuple (.cons elts (.cons _ .nil)) l =>
    .mk .tuple (.cons elts (.cons (.node (.plain context)) .nil)) l
  | e => e

end Expr

namespace Stmt

/-- The fields of a function definition. -/
def functionFields (name : String) (args : Node .arguments) (body : List Stmt)
    (decoratorList : List Expr) (returns : Option Expr) : Fields Kind.functionFields :=
  .cons (.scalar name) (.cons (.node args) (.cons (.list (.ofList body))
    (.cons (.list (.ofList decoratorList)) (.cons (.ofOption returns) .nil))))

/-- A function definition with decorators and an annotation of the result. -/
def decoratedDef (name : String) (args : Node .arguments) (body : List Stmt)
    (decoratorList : List Expr) (returns : Option Expr) : Stmt :=
  .mk .functionDef (functionFields name args body decoratorList returns) .unknown

/-- A function definition. -/
def functionDef (name : String) (args : Node .arguments) (body : List Stmt) : Stmt :=
  decoratedDef name args body [] none

/-- A definition of a coroutine. -/
def asyncFunctionDef (name : String) (args : Node .arguments) (body : List Stmt) : Stmt :=
  .mk .asyncFunctionDef (functionFields name args body [] none) .unknown

/-- A class definition. -/
def classDef (name : String) (bases : List Expr) (body : List Stmt) : Stmt :=
  .mk .classDef
    (.cons (.scalar name) (.cons (.list (.ofList bases)) (.cons (.list .nil)
      (.cons (.list (.ofList body)) (.cons (.list .nil) .nil))))) .unknown

/-- A return statement. -/
def returnValue (value : Option Expr) : Stmt :=
  .mk .returnValue (.cons (.ofOption value) .nil) .unknown

/-- An assignment to one target. -/
def assign (target value : Expr) : Stmt :=
  .mk .assign (.cons (.list (.ofList [target])) (.cons (.node value) .nil)) .unknown

/-- An assignment combined with an operation. -/
def augAssign (target : Expr) (op : Kind .operator) (value : Expr) : Stmt :=
  .mk .augAssign (.cons (.node target) (.cons (.node (.plain op)) (.cons (.node value) .nil)))
    .unknown

/-- A loop over the items of a value. -/
def forLoop (target iter : Expr) (body : List Stmt) : Stmt :=
  .mk .forLoop
    (.cons (.node target) (.cons (.node iter) (.cons (.list (.ofList body))
      (.cons (.list .nil) .nil)))) .unknown

/-- A loop under a condition. -/
def whileLoop (test : Expr) (body : List Stmt) : Stmt :=
  .mk .whileLoop (.cons (.node test) (.cons (.list (.ofList body)) (.cons (.list .nil) .nil)))
    .unknown

/-- A choice. -/
def ifElse (test : Expr) (body orelse : List Stmt) : Stmt :=
  .mk .ifElse
    (.cons (.node test) (.cons (.list (.ofList body)) (.cons (.list (.ofList orelse)) .nil)))
    .unknown

/-- An import of modules. -/
def importNames (names : List (Node .alias)) : Stmt :=
  .mk .importNames (.cons (.list (.ofList names)) .nil) .unknown

/-- An import of names from a module. -/
def importFrom (module : Option String) (names : List (Node .alias)) (level : UInt64) : Stmt :=
  .mk .importFrom
    (.cons (.scalar module) (.cons (.list (.ofList names)) (.cons (.scalar level) .nil)))
    .unknown

/-- A declaration of global names. -/
def globalNames (names : List String) : Stmt :=
  .mk .globalNames (.cons (.scalar names) .nil) .unknown

/-- An expression that is evaluated for its effect. -/
def exprStmt (value : Expr) : Stmt := .mk .exprStmt (.cons (.node value) .nil) .unknown

/-- The statement that does nothing. -/
def pass : Stmt := .mk .pass .nil .unknown

/-- The end of a loop. -/
def breakLoop : Stmt := .mk .breakLoop .nil .unknown

/-- The next round of a loop. -/
def continueLoop : Stmt := .mk .continueLoop .nil .unknown

end Stmt

namespace Mod

/-- A file. -/
def module (body : List Stmt) : Mod := .mk .module (.cons (.list (.ofList body)) .nil) ()

/-- Input at a prompt. -/
def interactive (body : List Stmt) : Mod :=
  .mk .interactive (.cons (.list (.ofList body)) .nil) ()

/-- A single expression. -/
def expression (body : Expr) : Mod := .mk .expression (.cons (.node body) .nil) ()

end Mod

end SyntaxDump
