import SyntaxDump.Proofs.Dump.Calls
import SyntaxDump.Proofs.Outline.Lexical

/-!
# The classes in an outline and in a dump

An outline and a dump are made by different walks: the one goes down to the children of a node, the
other through all of its fields, with those that are absent left out and the gaps of lists shown.
Both come across the same nodes in the same order, which is seen from the texts alone.

## Main statements

- `Outline.lineClass_lineAt`: the class of a vertex is read off its line;
- `Tree.calls_dump_eq_lines_outline`: the names in a dump on one line are those in the lines of the
  outline.
-/

namespace SyntaxDump

namespace Outline

/-- The class that a line of a drawing begins with, after the margin and the connector. -/
def lineClass (line : String) : String :=
  String.ofList ((line.toList.dropWhile fun c => !c.isAlpha).takeWhile Char.isAlpha)

example : lineClass "│   └─ Constant: value='Name(id'" = "Constant" := by decide

/-- A name is found behind characters that are no letters, if none comes right after it. -/
private theorem takeWhile_dropWhile_append {before name after : List Char}
    (hbefore : ∀ c ∈ before, c.isAlpha = false) (hname : ∀ c ∈ name, c.isAlpha) (hne : name ≠ [])
    (hafter : ∀ c ∈ after.head?, c.isAlpha = false) :
    ((before ++ (name ++ after)).dropWhile fun c => !c.isAlpha).takeWhile Char.isAlpha = name := by
  have hdrop : (before ++ (name ++ after)).dropWhile (fun c => !c.isAlpha) = name ++ after := by
    rw [List.dropWhile_append_of_pos fun c hc => by simp [hbefore c hc]]
    obtain ⟨c, cs, rfl⟩ := List.exists_cons_of_ne_nil hne
    simp [hname c List.mem_cons_self]
  rw [hdrop, List.takeWhile_append_of_pos hname]
  cases after with
  | nil => simp
  | cons c cs => simp [hafter c rfl]

/-- The class of a vertex is read off its line. -/
theorem lineClass_lineAt (ts : List Outline) {v : Vertex} (h : Term.IsName v.outline.className) :
    lineClass (lineAt ts v) = v.outline.className := by
  obtain ⟨hne, hletters⟩ := h
  have hplain {cs : List Char} (h : cs.all (!·.isAlpha)) : ∀ c ∈ cs, c.isAlpha = false :=
    fun c hc => by simpa using List.all_eq_true.mp h c hc
  have hguide (later : Bool) : ∀ c ∈ (guide later).toList, c.isAlpha = false :=
    hplain (by cases later <;> decide)
  have hconnector (later : Bool) : ∀ c ∈ (connector later).toList, c.isAlpha = false :=
    hplain (by cases later <;> decide)
  -- nothing before the class is a letter, and what comes after it is a colon
  let before := (guides ts v.path).flatMap String.toList ++
    ((connector (hasLater ts v.path)).toList ++ [' '])
  let after := if v.outline.label.isEmpty then [] else ':' :: ' ' :: v.outline.label.toList
  have hbefore : ∀ c ∈ before, c.isAlpha = false := by
    have hspace : ∀ c ∈ [' '], c.isAlpha = false := hplain (by decide)
    refine List.forall_mem_append.mpr ⟨?_, List.forall_mem_append.mpr ⟨hconnector _, hspace⟩⟩
    refine List.forall_mem_flatMap.mpr fun g hg => ?_
    obtain ⟨k, -, rfl⟩ := List.mem_map.mp hg
    exact hguide _
  have hafter : ∀ c ∈ after.head?, c.isAlpha = false := by
    unfold after
    split
    · intro c hc
      cases hc
    · intro c hc
      obtain rfl := Option.some.inj hc
      decide
  have htext : (lineAt ts v).toList = before ++ (v.outline.className.toList ++ after) := by
    simp [lineAt, before, after, toList_line, String.toList_join]
  rw [lineClass, htext, takeWhile_dropWhile_append hbefore hletters hne hafter,
    String.ofList_toList]

end Outline

/-- The classes in the lines of an outline are those of the nodes of the tree, in preorder. -/
theorem Tree.map_lineClass_lines (t : Tree Root) :
    (Text.lines t.outline).map Outline.lineClass = t.subtrees.map AnyNode.className := by
  -- every vertex is a node and so has the name of a class
  have hname {v : Outline.Vertex} (hv : v ∈ Outline.verticesFrom 0 t.forest) :
      Term.IsName v.outline.className := by
    obtain ⟨n, -, houtline⟩ := Tree.exists_of_mem_vertices hv
    rw [houtline, n.className_outline]
    exact n.2.kind.isName_className
  have hlines : ∀ l ∈ (Outline.verticesFrom 0 t.forest).map (Outline.lineAt t.forest),
      '\n' ∉ l.toList := by
    intro l hl
    obtain ⟨v, hv, rfl⟩ := List.mem_map.mp hl
    exact Tree.newline_not_mem_lineAt hv
  calc (Text.lines t.outline).map Outline.lineClass
      = (Outline.verticesFrom 0 t.forest).map fun v =>
          Outline.lineClass (Outline.lineAt t.forest v) := by
        rw [t.outline_eq, Outline.drawAll_eq_unlines, Text.lines_unlines hlines, List.map_map]
        rfl
    _ = (Outline.verticesFrom 0 t.forest).map fun v => v.outline.className :=
        List.map_congr_left fun v hv => Outline.lineClass_lineAt _ (hname hv)
    _ = ((Outline.verticesFrom 0 t.forest).map Outline.Vertex.outline).map Outline.className := by
        rw [List.map_map]
        rfl
    _ = t.subtrees.map AnyNode.className := by
        rw [t.map_outline_vertices, List.map_map]
        exact List.map_congr_left fun n _ => n.className_outline

/-- The names in the dump of a tree on one line, each of them a run of letters outside of literals
with a bracket right after it, are the classes in the lines of its outline, in the same order. They
are the classes of all nodes of the tree in preorder, so neither text leaves out a node or shows one
twice. This holds of the dump under any options, and a tree may be a node or a sequence. -/
theorem Tree.calls_dump_eq_lines_outline (t : Tree Root) (level : UInt64) :
    Term.scan (.outside []) (t.dump none level).toList =
        (Text.lines t.outline).map Outline.lineClass ∧
      (∀ o : DumpOptions,
        Term.scan (.outside []) ((t.map (Configured.mk o)).dump none level).toList =
          (Text.lines t.outline).map Outline.lineClass) ∧
      (Text.lines t.outline).map Outline.lineClass = t.subtrees.map AnyNode.className := by
  have hdefault : t.dump none level =
      (t.map (Configured.mk DumpOptions.default)).dump none level := by
    cases t with
    | single r => rfl
    | many rs =>
      simp only [Tree.map, Tree.dump, List.map_map]
      rfl
  refine ⟨?_, fun o => ?_, t.map_lineClass_lines⟩
  · rw [hdefault, t.scan_dump, t.map_lineClass_lines]
  · rw [t.scan_dump, t.map_lineClass_lines]

end SyntaxDump
