import SyntaxDump.Proofs.Outline.Lines
import SyntaxDump.Proofs.Subtrees

/-!
# The forest that a tree is drawn as

The outline of a node is its class, its label cut off to what is shown, and the outlines of its
children. So the vertices of the forest that is drawn are the nodes of the tree, in the same order
and under the same paths.

## Main statements

- `AnyNode.outline_eq`: the outline of a node, from its children;
- `Tree.map_outline_vertices`: the vertices of the forest are the nodes of the tree in preorder;
- `Tree.outline_of_mem_vertices`: the path to a vertex leads to its node.
-/

namespace SyntaxDump

open Outline (Vertex verticesFrom)

/-! ## Outlines of nodes -/

namespace AnyNode

/-- The outline of a node is its class, its label and the outlines of its children. -/
theorem outline_eq (n : AnyNode) :
    n.2.outline =
      .mk n.className (Outline.shorten n.2.label) (n.children.map fun m => m.2.outline) := by
  obtain ⟨c, k, fs, place⟩ := n
  exact Node.outline_mk k fs place

/-- The outline of a node shows its class. -/
theorem className_outline (n : AnyNode) : n.2.outline.className = n.className := by
  rw [n.outline_eq]
  rfl

end AnyNode

/-- The forest that a tree is drawn as: the outlines of the nodes at the top. -/
def Tree.forest (t : Tree Root) : List Outline := t.nodes.map fun r => r.toNode.2.outline

theorem Tree.outline_eq (t : Tree Root) : t.outline = Outline.drawAll "" t.forest := by
  have hroot (r : Root) : r.outline = r.toNode.2.outline := by cases r <;> rfl
  simp only [Tree.outline, Tree.forest, funext hroot]

/-! ## Vertices and nodes -/

namespace Outline

/-- The vertices of siblings are those of each of them in turn. -/
private theorem map_outline_verticesFrom (index : Nat) (ts : List Outline) :
    (verticesFrom index ts).map Vertex.outline =
      ts.flatMap fun t => t.vertices.map Vertex.outline := by
  induction ts generalizing index with
  | nil => rfl
  | cons t rest ih =>
    rw [verticesFrom, List.map_append, List.map_map, ih, List.flatMap_cons]
    rfl

/-- A vertex of siblings is a vertex of the one that the path to it begins with. -/
private theorem exists_of_mem_verticesFrom {index : Nat} {ts : List Outline} {v : Vertex}
    (h : v ∈ verticesFrom index ts) :
    ∃ (i : Nat) (t : Outline) (w : Vertex),
      ts[i]? = some t ∧ w ∈ t.vertices ∧ v = w.under (index + i) := by
  induction ts generalizing index with
  | nil => cases h
  | cons t rest ih =>
    rw [verticesFrom, List.mem_append, List.mem_map] at h
    rcases h with ⟨w, hw, rfl⟩ | h
    · exact ⟨0, t, w, rfl, hw, rfl⟩
    · obtain ⟨i, u, w, hu, hw, rfl⟩ := ih h
      refine ⟨i + 1, u, w, hu, hw, ?_⟩
      rw [Nat.add_assoc, Nat.add_comm 1 i]

end Outline

namespace AnyNode

/-- The vertices of the outline of a node are its subtrees. -/
private theorem map_outline_vertices (n : AnyNode) :
    n.2.outline.vertices.map Vertex.outline = n.2.subtrees.map fun m => m.2.outline := by
  induction n using induction_on_children with
  | step n ih =>
    have hchildren : (n.children.flatMap fun m => m.2.outline.vertices.map Vertex.outline) =
        n.children.flatMap fun m => m.2.subtrees.map fun m => m.2.outline := by
      simp only [List.flatMap_def, List.map_congr_left ih]
    rw [outline_eq, Outline.vertices, List.map_cons, Outline.map_outline_verticesFrom,
      List.flatMap_map, hchildren, subtrees_eq, List.map_cons, List.map_flatMap, outline_eq]

/-- The path to a vertex in the outline of a node leads to the node that is drawn there. -/
private theorem outline_of_mem_vertices {n : AnyNode} {v : Vertex} (h : v ∈ n.2.outline.vertices) :
    (n.descendant? v.path).map (fun m => m.2.outline) = some v.outline := by
  induction n using induction_on_children generalizing v with
  | step n ih =>
    rw [outline_eq, Outline.vertices, List.mem_cons] at h
    rcases h with rfl | h
    · rw [← outline_eq]
      rfl
    · -- the path goes on from the child at its first position
      obtain ⟨i, t, w, ht, hw, rfl⟩ := Outline.exists_of_mem_verticesFrom h
      rw [List.getElem?_map, Option.map_eq_some_iff] at ht
      obtain ⟨m, hm, rfl⟩ := ht
      rw [Nat.zero_add, Vertex.under, descendant?, hm]
      exact ih m (List.mem_of_getElem? hm) hw

end AnyNode

namespace Tree

variable (t : Tree Root)

/-- The vertices of the forest are the nodes of the tree, in the same order. -/
theorem map_outline_vertices :
    (verticesFrom 0 t.forest).map Vertex.outline = t.subtrees.map fun m => m.2.outline := by
  rw [Outline.map_outline_verticesFrom, forest, List.flatMap_map, subtrees, List.map_flatMap]
  simp only [AnyNode.map_outline_vertices]
  rfl

variable {t}

/-- What is drawn from a vertex of the forest down is the outline of a node of the tree. -/
theorem exists_of_mem_vertices {v : Vertex} (h : v ∈ verticesFrom 0 t.forest) :
    ∃ n ∈ t.subtrees, v.outline = n.2.outline := by
  have hmem := List.mem_map_of_mem (f := Vertex.outline) h
  rw [t.map_outline_vertices] at hmem
  obtain ⟨n, hn, houtline⟩ := List.mem_map.mp hmem
  exact ⟨n, hn, houtline.symm⟩

/-- The path to a vertex of the forest leads to the node that is drawn there. -/
theorem outline_of_mem_vertices {v : Vertex} (h : v ∈ verticesFrom 0 t.forest) :
    (t.node? v.path).map (fun m => m.2.outline) = some v.outline := by
  obtain ⟨i, u, w, hu, hw, rfl⟩ := Outline.exists_of_mem_verticesFrom h
  rw [forest, List.getElem?_map, Option.map_eq_some_iff] at hu
  obtain ⟨r, hr, rfl⟩ := hu
  rw [Nat.zero_add, Vertex.under, node?, hr]
  exact AnyNode.outline_of_mem_vertices hw

end Tree

end SyntaxDump
