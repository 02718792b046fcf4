import SyntaxDump.Limits

/-!
# Indentation and dump options
-/

namespace SyntaxDump

/-- How a dump over several lines indents its nested parts. -/
inductive Indent where
  /-- A number of spaces for every level. -/
  | spaces (n : UInt64)
  /-- A text for every level, taken as it is. -/
  | text (t : String)
deriving DecidableEq, Repr

namespace Indent

/-- The text that is written once for every level. -/
def unit : Indent → String
  | .spaces n => Text.times " " n.toNat
  | .text t => t

/-- The same text within the limits of a machine. Spaces are written out, a text is there
already. -/
def unitWithin : Indent → Except Overflow String
  | .spaces n => Text.timesWithin " " n.toNat
  | .text t => .ok t

/-- What can be written is the text for every level. -/
theorem eq_unit_of_unitWithin {i : Indent} {u : String} (h : i.unitWithin = .ok u) :
    u = i.unit := by
  cases i with
  | spaces n => exact (Text.timesWithin_eq_ok_iff.mp h).2
  | text t => exact (Except.ok.inj h).symm

/-- The text for every level, if there is an indentation. -/
def unitsWithin : Option Indent → Except Overflow (Option String)
  | none => .ok none
  | some i => i.unitWithin.map some

theorem eq_unit_of_unitsWithin {indent : Option Indent} {units : Option String}
    (h : unitsWithin indent = .ok units) : units = indent.map unit := by
  cases indent with
  | none => exact (Except.ok.inj h).symm
  | some i =>
    obtain ⟨u, hu, rfl⟩ := Except.map_eq_ok_iff.mp h
    exact congrArg some (eq_unit_of_unitWithin hu)

end Indent

/-- How a node is dumped. -/
structure DumpOptions where
  /-- Without an indentation the dump stays on one line. -/
  indent : Option Indent
  /-- Whether the values of fields are preceded by the names of the fields. -/
  annotateFields : Bool
  /-- Whether the locations of nodes are shown. -/
  includeAttributes : Bool
deriving DecidableEq, Repr

namespace DumpOptions

/-- One line, with the names of the fields and without locations. -/
def default : DumpOptions := ⟨none, true, false⟩

instance : Inhabited DumpOptions := ⟨default⟩

/-- The same options with another indentation. -/
def withIndent (o : DumpOptions) (indent : Option Indent) : DumpOptions :=
  { o with indent := indent }

end DumpOptions

end SyntaxDump
