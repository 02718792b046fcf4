import SyntaxDump.Document.Encode
import SyntaxDump.Dump
import SyntaxDump.Json.Writer
import SyntaxDump.Outline

/-!
# Output formats

A format turns a tree into text under a name. A registry holds one format for every name, the
one registered last, in the order of the names.

What a format does can be cut short by the limits of a machine. Of the formats that are always there
this is so for dumps, whose margins are as long as the options say. The texts of the other two are
in proportion to the tree, and room for them is taken for granted.
-/

namespace SyntaxDump

/-- Why a tree was not serialized. -/
inductive FormatError where
  /-- No format has this name. -/
  | notFound (name : String)
  /-- The format cannot show the tree. -/
  | serialization (reason : String)
deriving DecidableEq, Repr

/-- The wording of an error. -/
def FormatError.message : FormatError → String
  | .notFound name => "Format '" ++ name ++ "' not found"
  | .serialization reason => "Serialization error: " ++ reason

/-- A way to turn trees into text. -/
structure Format where
  name : String
  description : String
  /-- The text of a tree, or why there is none. -/
  serialize : Tree Root → Except FormatError String
  /-- Serializes a tree. -/
  serializeWithin : Tree Root → Except Overflow (Except FormatError String) :=
    fun t => .ok (serialize t)
  /-- Unless it is cut short, the format gives the text or says why there is none. -/
  eq_serialize : ∀ {t r}, serializeWithin t = .ok r → r = serialize t := by
    exact fun h => (Except.ok.inj h).symm

/-- A node together with the options that it is dumped with; an indentation given by the dump
takes the place of theirs. -/
structure Configured where
  options : DumpOptions
  root : Root

instance : Dumpable Configured where
  dump indent c := c.root.render (c.options.withIndent indent)
  dumpWithin indent c := c.root.renderWithin (c.options.withIndent indent)
  eq_dump := Root.eq_render_of_renderWithin

/-- The same tree with its nodes changed one by one. -/
def Tree.map {α β : Type} (f : α → β) : Tree α → Tree β
  | .single n => .single (f n)
  | .many ns => .many (ns.map f)

namespace Format

/-- Dumps under the given options. -/
def dump (options : DumpOptions) : Format where
  name := "dump"
  description := "Canonical ast.dump-style text"
  serialize t := .ok ((t.map (Configured.mk options)).dump options.indent 0)
  serializeWithin t :=
    ((t.map (Configured.mk options)).dumpWithin .checked options.indent 0).map .ok
  eq_serialize h := by
    obtain ⟨text, htext, rfl⟩ := Except.map_eq_ok_iff.mp h
    exact congrArg Except.ok (Tree.eq_dump_of_dumpWithin htext)

/-- Documents with every item and every member on a line of its own. -/
def json : Format where
  name := "json"
  description := "Tree document as pretty-printed JSON"
  serialize t :=
    match t.toJson with
    | .ok j => .ok j.pretty
    | .error e => .error (.serialization e.message)

/-- Outlines. -/
def treeviz : Format where
  name := "treeviz"
  description := "One node per line with tree connectors"
  serialize t := .ok t.outline

end Format

/-- Formats by name. -/
structure Registry where
  /-- The formats in the order of their names, one for every name. -/
  formats : List Format

namespace Registry

/-- The registry without formats. -/
def empty : Registry := ⟨[]⟩

/-- Puts a format in its place among others, instead of the one of the same name. -/
def insert (f : Format) : List Format → List Format
  | [] => [f]
  | g :: rest =>
    if f.name < g.name then f :: g :: rest
    else if f.name = g.name then f :: rest
    else g :: insert f rest

/-- Adds a format; one of the same name is replaced. -/
def register (r : Registry) (f : Format) : Registry := ⟨insert f r.formats⟩

/-- The formats that are always there, dumps being written under the given options. -/
def withOptions (options : DumpOptions) : Registry :=
  ((empty.register (.dump options)).register .json).register .treeviz

/-- The names of the formats in order. -/
def names (r : Registry) : List String := r.formats.map Format.name

/-- The format of the given name. -/
def get? (r : Registry) (name : String) : Option Format := r.formats.find? (·.name == name)

/-- The text of a tree in the format of the given name. -/
def serialize (r : Registry) (t : Tree Root) (name : String) : Except FormatError String :=
  match r.get? name with
  | some f => f.serialize t
  | none => .error (.notFound name)

/-- Serializes a tree in the format of the given name. -/
def serializeWithin (r : Registry) (t : Tree Root) (name : String) :
    Except Overflow (Except FormatError String) :=
  match r.get? name with
  | some f => f.serializeWithin t
  | none => .ok (.error (.notFound name))

/-- Unless a format is cut short, the registry gives the text or says why there is none. -/
theorem eq_serialize {r : Registry} {t : Tree Root} {name : String}
    {result : Except FormatError String} (h : r.serializeWithin t name = .ok result) :
    result = r.serialize t name := by
  rw [serializeWithin] at h
  rw [serialize]
  split at h
  · next f hf => exact f.eq_serialize h
  · exact (Except.ok.inj h).symm

end Registry

end SyntaxDump
