/-!
# The lines of a text

A text that consists of whole lines is the same as the list of its lines, as long as no line has a
line break inside it.

## Main statements

- `Text.lines_unlines`: the lines that a text was put together from are found again.
-/

namespace SyntaxDump.Text

/-- Lines one after another, each of them ended by a line break. -/
def unlines (ls : List String) : String := String.join (ls.map (· ++ "\n"))

/-- The lines of a text that consists of whole lines. What follows the last line break is no
line. -/
def lines (text : String) : List String := (text.toList.splitOn '\n').dropLast.map String.ofList

theorem unlines_cons (l : String) (ls : List String) :
    unlines (l :: ls) = l ++ "\n" ++ unlines ls :=
  String.join_cons

theorem unlines_append (ls ms : List String) : unlines (ls ++ ms) = unlines ls ++ unlines ms := by
  rw [unlines, List.map_append, String.join_append]
  rfl

/-- The lines that a text was put together from are found again. -/
theorem lines_unlines {ls : List String} (h : ∀ l ∈ ls, '\n' ∉ l.toList) :
    lines (unlines ls) = ls := by
  have hsplit : (unlines ls).toList.splitOn '\n' = ls.map String.toList ++ [[]] := by
    induction ls with
    | nil => rfl
    | cons l ls ih =>
      obtain ⟨hl, hls⟩ := List.forall_mem_cons.mp h
      have hline : (unlines (l :: ls)).toList = l.toList ++ '\n' :: (unlines ls).toList := by
        simp [unlines_cons]
      rw [hline, List.splitOn_append_cons_self_of_not_mem hl, ih hls, List.map_cons,
        List.cons_append]
  -- behind the last line break nothing is left
  rw [lines, hsplit, List.dropLast_concat, List.map_map]
  simp [Function.comp_def]

end SyntaxDump.Text
