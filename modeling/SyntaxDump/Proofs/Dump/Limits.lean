import SyntaxDump.Build
import SyntaxDump.Format
import SyntaxDump.Proofs.Shown

/-!
# Dumps within the limits of a machine

A dump is cut short for three reasons only: the level of a sequence is the last one that a word can
count, the indentation is so long that the margins of a node take more bytes than a text can, or the
dump as a whole does. The margins count even where a node stays on one line and no line begins with
them. In every other case what is written is the text that there is without limits, which is the
same at each level.

## Main statements

- `Node.renderWithin_eq_ok_iff`: which nodes can be written;
- `Tree.dumpWithin_eq_ok_iff`: which trees can be, at which level;
- `Tree.dumpWithin_configured_eq_ok_iff`: which trees the format of dumps can write.
-/

namespace SyntaxDump

/-! ## Units -/

namespace Indent

/-- The number of bytes that a line begins with for every level. -/
def unitBytes : Indent → Nat
  | .spaces n => n.toNat
  | .text t => t.utf8ByteSize

theorem utf8ByteSize_unit (i : Indent) : i.unit.utf8ByteSize = i.unitBytes := by
  cases i with
  | spaces n => exact (Text.utf8ByteSize_times " " n.toNat).trans (Nat.one_mul _)
  | text t => rfl

/-- The text for every level can be written if it has to be no longer than a text can be. -/
theorem unitsWithin_eq_ok {indent : Option Indent}
    (h : ∀ i ∈ indent, i.unitBytes ≤ Text.maxBytes) :
    unitsWithin indent = .ok (indent.map unit) := by
  cases indent with
  | none => rfl
  | some i =>
    refine Except.map_eq_ok_iff.mpr ⟨i.unit, ?_, rfl⟩
    cases i with
    | spaces n =>
      exact Text.timesWithin_eq_ok_iff.mpr ⟨(Nat.one_mul n.toNat).symm ▸ h _ rfl, rfl⟩
    | text t => rfl

end Indent

/-! ## Nodes -/

namespace Node

variable {c : Category} (n : Node c) (o : DumpOptions)

/-- How many levels the dump of a node opens, one inside the other. -/
def levels : Nat := (n.term o).levels

/-- A node is a call, which is a level. -/
theorem levels_pos : 0 < n.levels o := by
  cases n with
  | mk k fs place =>
    rw [levels, term_mk, Term.levels]
    exact Nat.succ_pos _

/-- A text can be as long as what separates the lines of the deepest level: a comma, a line break
and the margin. -/
def MarginsFit : Prop := ∀ i ∈ o.indent, i.unitBytes * n.levels o + 2 ≤ Text.maxBytes

/-- Then a text can be as long as what separates the lines of the first one. -/
theorem unitBytes_le_of_marginsFit {n : Node c} {o : DumpOptions} (h : n.MarginsFit o) :
    ∀ i ∈ o.indent, i.unitBytes + 2 ≤ Text.maxBytes := by
  intro i hi
  have hfirst := Nat.le_mul_of_pos_right i.unitBytes (n.levels_pos o)
  exact Nat.le_trans (Nat.add_le_add_right hfirst 2) (h i hi)

private theorem room_iff_marginsFit :
    Term.Room (o.indent.map Indent.unit) 0 (n.levels o) ↔ n.MarginsFit o := by
  have hpos := n.levels_pos o
  rw [MarginsFit, Term.Room]
  constructor
  · intro h i hi
    rw [← i.utf8ByteSize_unit, ← Nat.zero_add (n.levels o)]
    exact h _ (Option.mem_map_of_mem _ hi) hpos
  · intro h u hu _
    obtain ⟨i, hi, rfl⟩ := Option.map_eq_some_iff.mp hu
    rw [i.utf8ByteSize_unit, Nat.zero_add]
    exact h i hi

/-- A node can be written exactly if there is room for its margins and for its text. -/
theorem renderWithin_eq_ok_iff {s : String} :
    n.renderWithin o = .ok s ↔
      (n.MarginsFit o ∧ Text.Fits (n.render o)) ∧ s = n.render o := by
  have htext := Term.textWithin_eq_ok_iff (o.indent.map Indent.unit) 0 (n.term o) (s := s)
  rw [← levels, n.room_iff_marginsFit] at htext
  rw [renderWithin, Except.bind_eq_ok_iff]
  constructor
  · rintro ⟨units, hunits, h⟩
    obtain rfl := Indent.eq_unit_of_unitsWithin hunits
    exact htext.mp h
  · intro h
    -- the text for every level is the margin of the first one
    have hunits : ∀ i ∈ o.indent, i.unitBytes ≤ Text.maxBytes := fun i hi =>
      Nat.le_of_add_right_le (unitBytes_le_of_marginsFit h.1.1 i hi)
    exact ⟨_, Indent.unitsWithin_eq_ok hunits, htext.mpr h⟩

end Node

namespace Root

variable (r : Root) (o : DumpOptions)

/-- There is room for the margins of a node. -/
def MarginsFit : Prop := r.toNode.2.MarginsFit o

theorem renderWithin_eq_ok_iff {s : String} :
    r.renderWithin o = .ok s ↔
      (r.MarginsFit o ∧ Text.Fits (r.render o)) ∧ s = r.render o := by
  cases r with
  | mod n | stmt n | expr n => exact n.renderWithin_eq_ok_iff o

end Root

/-! ## Trees -/

namespace Tree

/-- A word can count the level of the items, if there are items. -/
def LevelsFit {α : Type} (level : UInt64) : Tree α → Prop
  | .single _ => True
  | .many ns => ns = [] ∨ level.toNat + 1 < UInt64.size

/-- There is room for the margins of each node. -/
def MarginsFit (o : DumpOptions) (t : Tree Root) : Prop := ∀ r ∈ t.nodes, r.MarginsFit o

section Dumpable

variable {α : Type} [Dumpable α] {P : α → Prop} {indent : Option Indent}

/-- An item of a sequence can be written exactly if it can be on its own, and if a word can count
its level where this matters. -/
private theorem dumpItemWithin_eq_ok_iff
    (h : ∀ {n : α} {s}, Dumpable.dumpWithin indent n = .ok s ↔
      (P n ∧ Text.Fits (Dumpable.dump indent n)) ∧ s = Dumpable.dump indent n)
    {sums : Sums} {level : UInt64} {n : α} {s : String} :
    (do dumpNodeWithin indent (← sums.next level) n) = .ok s ↔
      ((sums = .checked → level.toNat + 1 < UInt64.size) ∧
        P n ∧ Text.Fits (Dumpable.dump indent n)) ∧ s = Dumpable.dump indent n := by
  rw [Except.bind_eq_ok_iff_of Sums.next_eq_ok_iff, dumpNodeWithin, h]
  simp only [and_assoc]

/-- A tree of nodes that can be written under a condition, if there is room for their texts, can be
written under the same condition, if there is room for its own. No level matters but the last one,
and that only to a sequence with items where sums are checked. -/
theorem dumpWithin_eq_ok_iff_of
    (h : ∀ {n : α} {s}, Dumpable.dumpWithin indent n = .ok s ↔
      (P n ∧ Text.Fits (Dumpable.dump indent n)) ∧ s = Dumpable.dump indent n)
    (sums : Sums) (level : UInt64) (t : Tree α) {s : String} :
    t.dumpWithin sums indent level = .ok s ↔
      (sums = .checked → t.LevelsFit level) ∧ (∀ n ∈ t.nodes, P n) ∧
        Text.Fits (t.dump indent 0) ∧ s = t.dump indent 0 := by
  cases t with
  | single n =>
    rw [dumpWithin, dumpNodeWithin, h, nodes, List.forall_mem_singleton, and_assoc]
    exact (and_iff_right fun _ => trivial).symm
  | many ns =>
    rw [dumpWithin, Except.bind_eq_ok_iff_of (mapM_eq_ok_iff_map (dumpItemWithin_eq_ok_iff h)),
      Text.enclosedWithin_eq_ok_iff]
    constructor
    · rintro ⟨hitems, hwhole⟩
      refine ⟨fun hchecked => ?_, fun n hn => (hitems n hn).2.1, hwhole⟩
      -- without items no level is counted
      cases ns with
      | nil => exact .inl rfl
      | cons n ns => exact .inr ((hitems n List.mem_cons_self).1 hchecked)
    · rintro ⟨hlevel, hnodes, hwhole⟩
      refine ⟨fun n hn => ⟨fun hchecked => ?_, hnodes n hn, ?_⟩, hwhole⟩
      · -- a sequence with this item is not empty
        exact (hlevel hchecked).resolve_left (List.ne_nil_of_mem hn)
      · exact Text.fits_of_mem hwhole.1 (List.mem_map_of_mem hn)

end Dumpable

/-- Which trees can be dumped within the limits: a word has to count the levels of the items, and
there has to be room for the margins of each node and for the dump. The dump is the one that there
is without limits, whatever the level. -/
theorem dumpWithin_eq_ok_iff (sums : Sums) (indent : Option Indent) (level : UInt64)
    (t : Tree Root) (s : String) :
    t.dumpWithin sums indent level = .ok s ↔
      (sums = .checked → t.LevelsFit level) ∧
        t.MarginsFit (DumpOptions.default.withIndent indent) ∧
        Text.Fits (t.dump indent 0) ∧ s = t.dump indent 0 :=
  dumpWithin_eq_ok_iff_of (fun {r _} => r.renderWithin_eq_ok_iff _) sums level t

/-- A sequence whose node stays on one line has no dump if the indentation is too long to be
written, although no line would begin with it, and none at the last level, although no level
shows. -/
theorem dumpWithin_beyond_limits :
    let t : Tree Root := .many [.stmt Stmt.pass]
    t.dumpWithin .checked (some (.spaces 4)) 0xfffffffffffffffe = .ok "[Pass()]" ∧
      t.dumpWithin .checked (some (.spaces 4)) 0xffffffffffffffff = .error .sum ∧
      t.dumpWithin .wrapping (some (.spaces 0x8000000000000000)) 0 = .error .capacity := by
  decide +kernel

/-- There is room for what the format of dumps writes for a tree. -/
def DumpFits (o : DumpOptions) (t : Tree Root) : Prop :=
  t.MarginsFit o ∧ Text.Fits ((t.map (Configured.mk o)).dump o.indent 0)

/-- Which trees the format of dumps can write. -/
theorem dumpWithin_configured_eq_ok_iff (o : DumpOptions) (t : Tree Root) {s : String} :
    (t.map (Configured.mk o)).dumpWithin .checked o.indent 0 = .ok s ↔
      t.DumpFits o ∧ s = (t.map (Configured.mk o)).dump o.indent 0 := by
  -- the indentation that the dump is given is that of the options
  have hnodes : (∀ c ∈ (t.map (Configured.mk o)).nodes,
      c.root.MarginsFit (c.options.withIndent o.indent)) ↔ t.MarginsFit o := by
    cases t with
    | single r => simp [Tree.map, nodes, MarginsFit, DumpOptions.withIndent]
    | many rs => simp [Tree.map, nodes, MarginsFit, DumpOptions.withIndent]
  have hlevel : (t.map (Configured.mk o)).LevelsFit 0 := by
    cases t with
    | single r => trivial
    | many rs => exact .inr (by decide)
  rw [dumpWithin_eq_ok_iff_of (fun {c _} => c.root.renderWithin_eq_ok_iff _), hnodes, DumpFits,
    and_assoc]
  exact and_iff_right fun _ => hlevel

end Tree

end SyntaxDump
