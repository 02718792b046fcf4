import SyntaxDump.Outline
import SyntaxDump.Proofs.Text.Lines

/-!
# The lines of an outline

A drawing is made by going down the outlines with a margin that grows. Seen from the finished
drawing, there is one line for every vertex, and what stands in the margin of a line depends only on
where its vertex is: on which of the vertices above it, and whether itself, have a later sibling.
Vertices are found by paths, the position of an outline among its siblings on every level.

## Main statements

- `Outline.drawAll_eq_unlines`: a drawing has the line of every vertex, in preorder.
-/

namespace SyntaxDump.Outline

/-- The name of the class of the root. -/
def className : Outline → String
  | .mk className _ _ => className

/-- The label of the root. -/
def label : Outline → String
  | .mk _ label _ => label

/-- The outlines right below the root. -/
def children : Outline → List Outline
  | .mk _ _ children => children

/-! ## Vertices -/

/-- A place in sibling outlines. -/
structure Vertex where
  /-- The positions, among the siblings of every level, of the vertices above and of the vertex. -/
  path : List Nat
  /-- What is drawn from the vertex down. -/
  outline : Outline

/-- The place of a vertex that is found below another one. -/
def Vertex.under (index : Nat) (v : Vertex) : Vertex := ⟨index :: v.path, v.outline⟩

/-- The number of vertices above. -/
def Vertex.depth (v : Vertex) : Nat := v.path.length - 1

mutual

/-- The vertices of an outline with the paths to them from its root, the root first and then what is
below it in order. -/
def vertices : Outline → List Vertex
  | .mk className label children => ⟨[], .mk className label children⟩ :: verticesFrom 0 children

/-- The vertices of sibling outlines, if the first of them has the given position. -/
def verticesFrom (index : Nat) : List Outline → List Vertex
  | [] => []
  | t :: rest => t.vertices.map (Vertex.under index) ++ verticesFrom (index + 1) rest

end

/-- Whether the vertex that a path leads to has a later sibling. -/
def hasLater (ts : List Outline) : List Nat → Bool
  | [] => false
  | [i] => i + 1 < ts.length
  | i :: path => ts[i]?.any fun t => hasLater t.children path

/-- What stands in a margin for a vertex above: a bar goes down to its later siblings. -/
def guide (hasLater : Bool) : String := if hasLater then "│ " else "  "

/-- What connects a vertex to its siblings: the last one has a corner. -/
def connector (hasLater : Bool) : String := if hasLater then "├─" else "└─"

/-- The guides of the vertices above the one that a path leads to. The path to the vertex at depth
`k` consists of the first `k + 1` positions. -/
def guides (ts : List Outline) (path : List Nat) : List String :=
  (List.range (path.length - 1)).map fun k => guide (hasLater ts (path.take (k + 1)))

/-- The line of a vertex. -/
def lineAt (ts : List Outline) (v : Vertex) : String :=
  String.join (guides ts v.path) ++ connector (hasLater ts v.path) ++ " " ++
    line v.outline.className v.outline.label

/-! ## Drawings -/

/-- Paths to the vertices of siblings are not empty. -/
private theorem path_ne_nil_of_mem_verticesFrom {index : Nat} {ts : List Outline} {v : Vertex}
    (h : v ∈ verticesFrom index ts) : v.path ≠ [] := by
  induction ts generalizing index with
  | nil => cases h
  | cons t rest ih =>
    rw [verticesFrom, List.mem_append, List.mem_map] at h
    rcases h with ⟨w, -, rfl⟩ | h
    · exact List.cons_ne_nil _ _
    · exact ih h

section

variable (before after : List Outline) (t : Outline)

/-- An outline has a later sibling if it is not the last one. -/
private theorem hasLater_singleton :
    hasLater (before ++ t :: after) [before.length] = !after.isEmpty := by
  cases after <;> simp [hasLater]

/-- Below an outline siblings are found among its children. -/
private theorem hasLater_cons {path : List Nat} (h : path ≠ []) :
    hasLater (before ++ t :: after) (before.length :: path) = hasLater t.children path := by
  obtain ⟨i, path, rfl⟩ := List.exists_cons_of_ne_nil h
  simp [hasLater]

/-- The line of the root of an outline. -/
private theorem lineAt_under_root :
    lineAt (before ++ t :: after) (Vertex.under before.length ⟨[], t⟩) =
      connector (!after.isEmpty) ++ " " ++ line t.className t.label := by
  simp [lineAt, Vertex.under, guides, hasLater_singleton]

/-- The line of a vertex further down has the guide of the root before it. -/
private theorem lineAt_under {v : Vertex} (h : v.path ≠ []) :
    lineAt (before ++ t :: after) (v.under before.length) =
      guide (!after.isEmpty) ++ lineAt t.children v := by
  have hguides : guides (before ++ t :: after) (before.length :: v.path) =
      guide (!after.isEmpty) :: guides t.children v.path := by
    obtain ⟨i, path, hpath⟩ := List.exists_cons_of_ne_nil h
    -- the first guide is that of the root, and the others are of vertices below it
    simp [hpath, guides, List.range_succ_eq_map, hasLater_singleton, hasLater_cons]
  simp only [lineAt, Vertex.under, hguides, hasLater_cons before after t h, String.join_cons,
    String.append_assoc]

end

mutual

/-- The drawing of an outline among its siblings has the line of every vertex behind the margin. -/
theorem draw_eq_unlines : (t : Outline) → (margin : String) → (before after : List Outline) →
    draw margin after.isEmpty t =
      Text.unlines ((t.vertices.map (Vertex.under before.length)).map fun v =>
        margin ++ lineAt (before ++ t :: after) v)
  | .mk className label ts, margin, before, after => by
    -- all lines below the root have its guide, which is the margin they are drawn behind
    have hbelow := drawAll_append_eq_unlines ts (margin ++ guide (!after.isEmpty)) []
    have hlines :
        (verticesFrom 0 ts).map (fun v => margin ++ guide (!after.isEmpty) ++ lineAt ts v) =
          ((verticesFrom 0 ts).map (Vertex.under before.length)).map fun v =>
            margin ++ lineAt (before ++ mk className label ts :: after) v := by
      rw [List.map_map]
      refine List.map_congr_left fun v hv => ?_
      have hpath := path_ne_nil_of_mem_verticesFrom hv
      rw [Function.comp_apply, lineAt_under before after _ hpath, String.append_assoc]
      rfl
    rw [List.nil_append, List.length_nil, hlines] at hbelow
    rw [vertices, List.map_cons, List.map_cons, Text.unlines_cons, lineAt_under_root, ← hbelow]
    cases after <;> simp [draw, connector, guide, String.append_assoc] <;> rfl

/-- The drawing of the outlines that come after others has the lines of their vertices. -/
theorem drawAll_append_eq_unlines : (ts : List Outline) → (margin : String) →
    (before : List Outline) →
    drawAll margin ts =
      Text.unlines ((verticesFrom before.length ts).map fun v =>
        margin ++ lineAt (before ++ ts) v)
  | [], _, _ => rfl
  | t :: rest, margin, before => by
    have hrest := drawAll_append_eq_unlines rest margin (before ++ [t])
    simp only [List.length_append, List.length_singleton, List.append_assoc,
      List.singleton_append] at hrest
    rw [drawAll, draw_eq_unlines t margin before rest, hrest, verticesFrom, List.map_append,
      Text.unlines_append]

end

/-- A drawing has the line of every vertex, in preorder. -/
theorem drawAll_eq_unlines (ts : List Outline) :
    drawAll "" ts = Text.unlines ((verticesFrom 0 ts).map (lineAt ts)) := by
  simpa using drawAll_append_eq_unlines ts "" []

end SyntaxDump.Outline
