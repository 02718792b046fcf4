import SyntaxDump.Indent
import SyntaxDump.Node
import SyntaxDump.Proofs.Term.Limits

/-!
# Dumps of trees

A node is dumped as the call that builds it: the name of its class and the values of the fields that
it shows.

A sequence of nodes is dumped as the dumps of its nodes between square brackets. This needs
nothing of the nodes but that they can be dumped (`Dumpable`).

`Node.render` and `Tree.dump` say what the texts are; `Node.renderWithin` and `Tree.dumpWithin`
write them, as far as the limits of a machine allow.
-/

namespace SyntaxDump

/-- A scalar as a term, unless it is absent. -/
def Scalar.term? : (s : Scalar) → s.Value → Option Term
  | .identifier, v => some (.atom (Literal.string v))
  | .optionalIdentifier, v => v.map fun t => .atom (Literal.string t)
  | .identifiers, v => some (.list (v.map fun t => .atom (Literal.string t)))
  | .dottedName, v => some (.atom (Literal.string v))
  | .optionalDottedName, v => v.map fun t => .atom (Literal.string t)
  | .constant, v => some (.atom v.literal)
  | .optionalText, v => v.map fun t => .atom (Literal.string t)
  | .level, v => some (.atom (toString v.toNat))
  | .conversion, v => some (.atom (toString v.toInt))

/-- The arguments for the known parts of a location. -/
def Category.locationArgs (c : Category) (place : c.Place) : List (Option String × Term) :=
  match c.location? place with
  | none => []
  | some l => l.attributes.map fun (name, n) => (some name, .atom (toString n.toNat))

mutual

/-- The call that builds a node. -/
def Node.term (o : DumpOptions) : {c : Category} → Node c → Term
  | c, .mk k fs place =>
    .call k.className
      (Term.arguments o.annotateFields (k.arrange (some (.list [])) (fs.terms o)) ++
        if o.includeAttributes then c.locationArgs place else [])

/-- The values of a list of fields by the names of the fields. -/
def Fields.terms (o : DumpOptions) : {fs : List Field} → Fields fs → List (String × Option Term)
  | _, .nil => []
  | f :: _, .cons slot rest => (f.name, slot.term? o) :: rest.terms o

/-- The value of a field, unless it is absent. -/
def Slot.term? (o : DumpOptions) : {k : Content} → Slot k → Option Term
  | _, .node n => some (n.term o)
  | _, .absent => none
  | _, .present n => some (n.term o)
  | _, .list ns => some (.list (ns.terms o))
  | .scalar s, .scalar v => s.term? v

/-- The items of a list of trees; a missing one shows as `None`. -/
def Nodes.terms (o : DumpOptions) : {c : Category} → {gaps : Bool} → Nodes c gaps → List Term
  | _, _, .nil => []
  | _, _, .cons n rest => n.term o :: rest.terms o
  | _, _, .gap rest => .atom "None" :: rest.terms o

end

/-- A node as a text. -/
def Node.render {c : Category} (n : Node c) (o : DumpOptions) : String :=
  (n.term o).text (o.indent.map Indent.unit) 0

/-- A node as a text. -/
def Root.render (r : Root) (o : DumpOptions) : String :=
  match r with
  | .mod n => n.render o
  | .stmt n => n.render o
  | .expr n => n.render o

/-! ## Within the limits of a machine -/

/-- Writes a node. The text for every level comes first, also if no line will begin with it. -/
def Node.renderWithin {c : Category} (n : Node c) (o : DumpOptions) : Except Overflow String := do
  (n.term o).textWithin (← Indent.unitsWithin o.indent) 0

/-- What is written for a node is its text. -/
theorem Node.eq_render_of_renderWithin {c : Category} {n : Node c} {o : DumpOptions} {s : String}
    (h : n.renderWithin o = .ok s) : s = n.render o := by
  obtain ⟨units, hunits, h⟩ := Except.bind_eq_ok_iff.mp h
  obtain rfl := Indent.eq_unit_of_unitsWithin hunits
  exact ((Term.textWithin_eq_ok_iff _ _ _).mp h).2

/-- Writes a node. -/
def Root.renderWithin (r : Root) (o : DumpOptions) : Except Overflow String :=
  match r with
  | .mod n => n.renderWithin o
  | .stmt n => n.renderWithin o
  | .expr n => n.renderWithin o

/-- What is written for a node is its text. -/
theorem Root.eq_render_of_renderWithin {r : Root} {o : DumpOptions} {s : String}
    (h : r.renderWithin o = .ok s) : s = r.render o := by
  cases r with
  | mod n | stmt n | expr n => exact Node.eq_render_of_renderWithin h

/-! ## Trees -/

/-- Things that can be dumped, on one line or with an indentation. -/
class Dumpable (α : Type) where
  /-- The text. -/
  dump : Option Indent → α → String
  /-- Writes the text. -/
  dumpWithin : Option Indent → α → Except Overflow String
  /-- What is written is the text. -/
  eq_dump : ∀ {indent n s}, dumpWithin indent n = .ok s → s = dump indent n

instance {c : Category} : Dumpable (Node c) where
  dump indent n := n.render (DumpOptions.default.withIndent indent)
  dumpWithin indent n := n.renderWithin (DumpOptions.default.withIndent indent)
  eq_dump := Node.eq_render_of_renderWithin

instance : Dumpable Root where
  dump indent r := r.render (DumpOptions.default.withIndent indent)
  dumpWithin indent r := r.renderWithin (DumpOptions.default.withIndent indent)
  eq_dump := Root.eq_render_of_renderWithin

namespace Tree

variable {α : Type} [Dumpable α]

/-- The dump of one node, which has no part in the counting of levels. -/
def dumpNode (indent : Option Indent) (_level : UInt64) (n : α) : String :=
  Dumpable.dump indent n

/-- The dump of a node or a sequence of nodes. The level counts the sequences around the input;
the items of a sequence are one level further down. It does not show in the text. -/
def dump (indent : Option Indent) (level : UInt64) : Tree α → String
  | .single n => dumpNode indent level n
  | .many ns => "[" ++ ", ".intercalate (ns.map (dumpNode indent (level + 1))) ++ "]"

/-- Writes one node. -/
def dumpNodeWithin (indent : Option Indent) (_level : UInt64) (n : α) : Except Overflow String :=
  Dumpable.dumpWithin indent n

/-- Writes a node or a sequence of nodes. The level of the items is counted for each of them,
although it does not show. -/
def dumpWithin (sums : Sums) (indent : Option Indent) (level : UInt64) :
    Tree α → Except Overflow String
  | .single n => dumpNodeWithin indent level n
  | .many ns => do
    let texts ← ns.mapM fun n => do dumpNodeWithin indent (← sums.next level) n
    Text.enclosedWithin "[" ", " texts "]"

/-- What is written for a tree is its dump. -/
theorem eq_dump_of_dumpWithin {sums : Sums} {indent : Option Indent} {level : UInt64} {t : Tree α}
    {s : String} (h : t.dumpWithin sums indent level = .ok s) : s = t.dump indent level := by
  cases t with
  | single n => exact Dumpable.eq_dump h
  | many ns =>
    obtain ⟨texts, htexts, h⟩ := Except.bind_eq_ok_iff.mp h
    -- an item is written as it is on its own: its level is counted but does not show
    have hitem : ∀ {n : α} {s}, (do dumpNodeWithin indent (← sums.next level) n) = .ok s →
        s = dumpNode indent (level + 1) n := by
      intro n s h
      obtain ⟨next, -, h⟩ := Except.bind_eq_ok_iff.mp h
      exact Dumpable.eq_dump h
    obtain rfl := eq_map_of_mapM hitem htexts
    exact (Text.enclosedWithin_eq_ok_iff.mp h).2

end Tree

end SyntaxDump
