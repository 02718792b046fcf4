import SyntaxDump.Proofs.Outline.Lexical
import SyntaxDump.Proofs.Term.Unambiguous

/-!
# Drawings determine forests

The margin of a line tells how deep its vertex is, since a connector is no part of a margin. So the
lines below a vertex are told apart from those of its later siblings and from whatever follows at a
smaller depth (`Outline.Ends`), and what a line says of its vertex is told apart from the margin and
from the next line.

## Main statements

- `Outline.drawAll_append_inj`: the drawing of siblings is told apart from what follows it;
- `Tree.outline_eq_iff_forest_eq`: which forests are drawn alike, and what their lines are.
-/

namespace SyntaxDump

namespace Outline

/-! ## Margins -/

/-- The characters of margins. -/
def isMarginChar (c : Char) : Bool := c == ' ' || c == '│'

/-- The length of the margin that a text begins with. -/
def marginLength (cs : List Char) : Nat := (cs.takeWhile isMarginChar).length

/-- A text in which the lines below a margin have come to an end: nothing is left, or the next line
has a shorter margin. -/
def Ends (margin : Nat) (cs : List Char) : Prop := cs = [] ∨ marginLength cs < margin

/-- The corner or the branch at the vertex. -/
def joint (isLast : Bool) : Char := if isLast then '└' else '├'

private theorem joint_injective {a b : Bool} (h : joint a = joint b) : a = b := by
  revert a b
  decide

private theorem isMarginChar_of_mem_guide (later : Bool) :
    ∀ c ∈ (guide later).toList, isMarginChar c :=
  List.all_eq_true.mp (by cases later <;> decide)

/-- A drawing, character by character. -/
private theorem toList_draw (margin : String) (isLast : Bool) (className label : String)
    (ts : List Outline) :
    (draw margin isLast (mk className label ts)).toList =
      margin.toList ++ joint isLast :: '─' :: ' ' :: ((line className label).toList ++ '\n' ::
        (drawAll (margin ++ guide (!isLast)) ts).toList) := by
  cases isLast <;> simp [draw, joint, guide]

private theorem toList_drawAll_cons (margin : String) (t : Outline) (rest : List Outline)
    (x : List Char) :
    (drawAll margin (t :: rest)).toList ++ x =
      (draw margin rest.isEmpty t).toList ++ ((drawAll margin rest).toList ++ x) := by
  rw [drawAll, String.toList_append, List.append_assoc]

section

variable {margin : String} (hmargin : ∀ c ∈ margin.toList, isMarginChar c)

include hmargin

/-- The margin of a drawing is the one that it is drawn behind. -/
private theorem marginLength_draw (isLast : Bool) (t : Outline) (x : List Char) :
    marginLength ((draw margin isLast t).toList ++ x) = margin.toList.length := by
  obtain ⟨className, label, ts⟩ := t
  have hjoint : isMarginChar (joint isLast) = false := by cases isLast <;> rfl
  rw [toList_draw, List.append_assoc, marginLength, List.takeWhile_append_of_pos hmargin,
    List.cons_append, List.takeWhile_cons, hjoint]
  simp

/-- Where the lines behind a margin have come to an end no outline is drawn behind it. -/
private theorem not_ends_draw (isLast : Bool) (t : Outline) (x : List Char) :
    ¬ Ends margin.toList.length ((draw margin isLast t).toList ++ x) := by
  rintro (hnil | hlt)
  · obtain ⟨className, label, ts⟩ := t
    rw [toList_draw] at hnil
    simp at hnil
  · rw [marginLength_draw hmargin] at hlt
    exact Nat.lt_irrefl _ hlt

/-- What is drawn below an outline comes to an end with its later siblings. -/
private theorem ends_drawAll_append (later : Bool) (ts : List Outline) {x : List Char}
    (hx : Ends margin.toList.length x) :
    Ends (margin ++ guide later).toList.length ((drawAll margin ts).toList ++ x) := by
  have hlonger : margin.toList.length < (margin ++ guide later).toList.length := by
    cases later <;> simp [guide]
  cases ts with
  | nil => exact hx.imp_right fun hlt => Nat.lt_trans hlt hlonger
  | cons t rest =>
    refine .inr ?_
    rw [toList_drawAll_cons, marginLength_draw hmargin]
    exact hlonger

/-- A margin with a guide is a margin. -/
private theorem isMarginChar_of_mem_append (later : Bool) :
    ∀ c ∈ (margin ++ guide later).toList, isMarginChar c := by
  rw [String.toList_append]
  exact List.forall_mem_append.mpr ⟨hmargin, isMarginChar_of_mem_guide later⟩

end

/-! ## Lines -/

/-- A class and a label are told apart from each other in a line. -/
private theorem line_inj {a b l m : String} (ha : IsWord a) (hb : IsWord b)
    (h : (line a l).toList = (line b m).toList) : a = b ∧ l = m := by
  -- the class is the word that the line begins with, and what follows begins with a colon
  have hword (l : String) : ∀ c ∈ (if l.isEmpty then [] else ':' :: ' ' :: l.toList).head?,
      isWordChar c = false := by
    split
    · nofun
    · exact Term.isWordChar_head (by decide) _
  rw [toList_line, toList_line] at h
  obtain ⟨hclass, hlabel⟩ := Term.word_append_inj ha.chars hb.chars (hword l) (hword m) h
  refine ⟨String.toList_inj.mp hclass, ?_⟩
  by_cases hl : l.isEmpty <;> by_cases hm : m.isEmpty
  · rw [String.isEmpty_iff.mp hl, String.isEmpty_iff.mp hm]
  · simp [hl, hm] at hlabel
  · simp [hl, hm] at hlabel
  · exact String.toList_inj.mp (by simpa [hl, hm] using hlabel)

/-- A line is told apart from what follows its line break. -/
private theorem newline_inj {l m x y : List Char} (hl : '\n' ∉ l) (hm : '\n' ∉ m)
    (h : l ++ '\n' :: x = m ++ '\n' :: y) : l = m ∧ x = y := by
  have hsplit := congrArg (List.splitOn '\n') h
  rw [List.splitOn_append_cons_self_of_not_mem hl, List.splitOn_append_cons_self_of_not_mem hm]
    at hsplit
  obtain rfl := (List.cons.inj hsplit).1
  exact ⟨rfl, (List.cons.inj (List.append_cancel_left h)).2⟩

/-! ## Forests -/

mutual

/-- The drawing of an outline is told apart from what follows it, and determines the outline. -/
theorem draw_append_inj : (t u : Outline) → t.Lexical → u.Lexical → {margin : String} →
    (∀ c ∈ margin.toList, isMarginChar c) → {a b : Bool} → {x y : List Char} →
    (∀ later, Ends (margin ++ guide later).toList.length x) →
    (∀ later, Ends (margin ++ guide later).toList.length y) →
    (draw margin a t).toList ++ x = (draw margin b u).toList ++ y → t = u ∧ x = y
  | .mk c l ts, .mk d m us, ht, hu, margin, hmargin, a, b, x, y, hx, hy, h => by
    simp only [toList_draw, List.append_assoc, List.cons_append] at h
    obtain ⟨hc, hl, hts⟩ := ht
    obtain ⟨hd, hm, hus⟩ := hu
    -- the margin, the connector and the line in turn
    obtain ⟨hjoint, htext⟩ := List.cons.inj (List.append_cancel_left h)
    obtain rfl := joint_injective hjoint
    have hlines := (List.cons.inj (List.cons.inj htext).2).2
    obtain ⟨hline, hbelow⟩ := newline_inj (newline_not_mem_line hc hl)
      (newline_not_mem_line hd hm) hlines
    obtain ⟨rfl, rfl⟩ := line_inj hc hd hline
    obtain ⟨rfl, hrest⟩ := drawAll_append_inj ts us hts hus (isMarginChar_of_mem_append hmargin _)
      (hx _) (hy _) hbelow
    exact ⟨rfl, hrest⟩

/-- The drawing of siblings is told apart from what follows it, and determines the outlines. -/
theorem drawAll_append_inj : (ts us : List Outline) → LexicalAll ts → LexicalAll us →
    {margin : String} → (∀ c ∈ margin.toList, isMarginChar c) → {x y : List Char} →
    Ends margin.toList.length x → Ends margin.toList.length y →
    (drawAll margin ts).toList ++ x = (drawAll margin us).toList ++ y → ts = us ∧ x = y
  | [], [], _, _, _, _, _, _, _, _, h => ⟨rfl, h⟩
  | [], u :: us, _, _, margin, hmargin, x, y, hx, _, h => by
    rw [toList_drawAll_cons] at h
    rw [show x = _ from h] at hx
    exact (not_ends_draw hmargin _ u _ hx).elim
  | t :: ts, [], _, _, margin, hmargin, x, y, _, hy, h => by
    rw [toList_drawAll_cons] at h
    rw [show y = _ from h.symm] at hy
    exact (not_ends_draw hmargin _ t _ hy).elim
  | t :: ts, u :: us, ht, hu, margin, hmargin, x, y, hx, hy, h => by
    rw [toList_drawAll_cons, toList_drawAll_cons] at h
    obtain ⟨rfl, hsiblings⟩ := draw_append_inj t u ht.1 hu.1 hmargin
      (fun later => ends_drawAll_append hmargin later ts hx)
      (fun later => ends_drawAll_append hmargin later us hy) h
    obtain ⟨rfl, hrest⟩ := drawAll_append_inj ts us ht.2 hu.2 hmargin hx hy hsiblings
    exact ⟨rfl, hrest⟩

end

/-- Forests of lexical form with the same drawing are the same. -/
theorem drawAll_injective {ts us : List Outline} (ht : LexicalAll ts) (hu : LexicalAll us)
    (h : drawAll "" ts = drawAll "" us) : ts = us := by
  have htext : (drawAll "" ts).toList ++ [] = (drawAll "" us).toList ++ [] := by rw [h]
  exact (drawAll_append_inj ts us ht hu (by simp) (.inl rfl) (.inl rfl) htext).1

end Outline

namespace Tree

/-- The drawing of a tree determines the forest whose vertices are the nodes of the tree, with their
classes and the labels that are shown, and nothing else. It has one line for every vertex in
preorder. The line consists of a guide for every vertex above, which is a bar if that vertex has a
later sibling, of the connector, which is a corner if the vertex itself has none, and of what is
said of the vertex. -/
theorem outline_eq_iff_forest_eq :
    (∀ n : AnyNode, n.2.outline =
      .mk n.className (Outline.shorten n.2.label) (n.children.map fun m => m.2.outline)) ∧
    (∀ s t : Tree Root, s.outline = t.outline ↔ s.forest = t.forest) ∧
    ∀ t : Tree Root,
      let vertices := Outline.verticesFrom 0 t.forest
      vertices.map Outline.Vertex.outline = t.subtrees.map (fun n => n.2.outline) ∧
      (∀ v ∈ vertices, (t.node? v.path).map (fun n => n.2.outline) = some v.outline) ∧
      t.outline = Text.unlines (vertices.map (Outline.lineAt t.forest)) ∧
      ∀ v ∈ vertices, '\n' ∉ (Outline.lineAt t.forest v).toList ∧
        (Outline.guides t.forest v.path).length = v.depth := by
  refine ⟨AnyNode.outline_eq, fun s t => ⟨fun h => ?_, fun h => ?_⟩, fun t => ⟨?_, ?_, ?_, ?_⟩⟩
  · rw [s.outline_eq, t.outline_eq] at h
    exact Outline.drawAll_injective s.lexical_forest t.lexical_forest h
  · rw [s.outline_eq, t.outline_eq, h]
  · exact t.map_outline_vertices
  · exact fun v hv => outline_of_mem_vertices hv
  · rw [t.outline_eq]
    exact Outline.drawAll_eq_unlines _
  · exact fun v hv => ⟨newline_not_mem_lineAt hv, by simp [Outline.guides, Outline.Vertex.depth]⟩

end Tree

end SyntaxDump
