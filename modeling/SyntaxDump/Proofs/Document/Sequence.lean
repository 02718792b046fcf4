import Mathlib.Data.List.Forall2
import SyntaxDump.Build
import SyntaxDump.Document.Load
import SyntaxDump.Proofs.Result

/-!
# Loading sequences

The items of an array are loaded one by one, from the first to the last. So an array is a tree
exactly if each of its items is a node by itself, and otherwise the first item that is none decides
what is reported: its shape and its position if it is no object, and its own fault if it is one.

## Main statement

- `Tree.ofJson_arr_itemwise`: loading an array in terms of loading its items by themselves.
-/

namespace SyntaxDump

/-- The value is an object, and by itself it is loaded as the node. -/
structure Json.LoadsAs (j : Json) (r : Root) : Prop where
  object : ∃ members, j = .obj members
  node : Tree.ofJson j = .ok (.single r)

/-- The value stands at the least position of the list where an item is not loaded by itself. -/
structure Json.FirstUnloadable (items : List Json) (i : Nat) (j : Json) : Prop where
  item : items[i]? = some j
  fails : ∀ r, ¬ j.LoadsAs r
  least : ∀ k < i, ∃ before r, items[k]? = some before ∧ before.LoadsAs r

variable {index : Nat} {items : List Json}

/-! ## Items -/

/-- An item is read as a node exactly if it is loaded as that node by itself. -/
theorem Root.ofItem_eq_ok_iff {j : Json} {r : Root} :
    Root.ofItem index j = .ok r ↔ j.LoadsAs r := by
  constructor
  · intro h
    cases j with
    | obj members =>
      refine ⟨⟨members, rfl⟩, Except.map_eq_ok_iff.mpr ⟨r, h, rfl⟩⟩
    | _ => cases h
  · rintro ⟨⟨members, rfl⟩, h⟩
    obtain ⟨r', hr', hsingle⟩ := Except.map_eq_ok_iff.mp h
    exact Tree.single.inj hsingle ▸ hr'

/-- What is reported of an item that is not loaded by itself: its shape and its position if it is no
object, and otherwise what is reported when it is loaded by itself. -/
private theorem Root.ofItem_eq_error {j : Json} {e : LoadError}
    (h : Root.ofItem index j = .error e) :
    ((∀ members, j ≠ .obj members) → e = .unsupported j.shape (some index)) ∧
      ∀ members, j = .obj members → Tree.ofJson j = .error e ∧ ∃ fault, e = .invalidNode fault := by
  cases j with
  | obj members =>
    obtain ⟨fault, hfault, rfl⟩ := Except.exists_of_mapError_eq_error h
    refine ⟨fun hne => absurd rfl (hne members), fun _ _ => ⟨?_, fault, rfl⟩⟩
    rw [Tree.ofJson, hfault]
    rfl
  | _ =>
    obtain rfl := Except.error.inj h
    exact ⟨fun _ => rfl, nofun⟩

/-! ## Sequences -/

/-- A sequence is read exactly if each of its items is, and then its nodes are theirs. -/
private theorem Root.ofItems_eq_ok_iff {rs : List Root} :
    Root.ofItems index items = .ok rs ↔ List.Forall₂ Json.LoadsAs items rs := by
  induction items generalizing index rs with
  | nil =>
    rw [List.forall₂_nil_left_iff, Root.ofItems]
    exact ⟨fun h => (Except.ok.inj h).symm, fun h => congrArg _ h.symm⟩
  | cons j rest ih =>
    rw [Root.ofItems, Except.bind_eq_ok_iff, List.forall₂_cons_left_iff]
    constructor
    · rintro ⟨r, hr, h⟩
      obtain ⟨rs', hrs', h⟩ := Except.bind_eq_ok_iff.mp h
      exact ⟨r, rs', Root.ofItem_eq_ok_iff.mp hr, ih.mp hrs', (Except.ok.inj h).symm⟩
    · rintro ⟨r, rs', hr, hrs', rfl⟩
      exact ⟨r, Root.ofItem_eq_ok_iff.mpr hr, Except.bind_eq_ok_iff.mpr ⟨rs', ih.mpr hrs', rfl⟩⟩

/-- If a sequence is not read, then what is reported is what is reported of the first item that is
not loaded by itself. -/
private theorem Root.exists_firstUnloadable {e : LoadError}
    (h : Root.ofItems index items = .error e) :
    ∃ i j, Json.FirstUnloadable items i j ∧ Root.ofItem (index + i) j = .error e := by
  induction items generalizing index with
  | nil => cases h
  | cons j rest ih =>
    rcases Except.eq_error_or_of_bind_eq_error h with hj | ⟨r, hr, h⟩
    · refine ⟨0, j, ⟨rfl, fun r hr => ?_, nofun⟩, hj⟩
      rw [Root.ofItem_eq_ok_iff.mpr hr] at hj
      cases hj
    · -- the first item is loaded, so the fault is one of the rest
      rcases Except.eq_error_or_of_bind_eq_error h with hrest | ⟨rs, -, h⟩
      · obtain ⟨i, bad, hbad, he⟩ := ih hrest
        refine ⟨i + 1, bad, ⟨hbad.item, hbad.fails, fun k hk => ?_⟩, ?_⟩
        · cases k with
          | zero => exact ⟨j, r, rfl, Root.ofItem_eq_ok_iff.mp hr⟩
          | succ k => exact hbad.least k (Nat.lt_of_succ_lt_succ hk)
        · rwa [Nat.add_comm i, ← Nat.add_assoc]
      · cases h

/-- There is only one first item that is not loaded by itself. -/
private theorem Json.FirstUnloadable.unique {i i' : Nat} {j j' : Json}
    (h : FirstUnloadable items i j) (h' : FirstUnloadable items i' j') : i = i' ∧ j = j' := by
  -- the item before the other one would be loaded and not loaded
  have hle {i i' : Nat} {j j' : Json} (h : FirstUnloadable items i j)
      (h' : FirstUnloadable items i' j') : i ≤ i' := by
    by_contra hlt
    obtain ⟨before, r, hbefore, hr⟩ := h.least i' (Nat.lt_of_not_le hlt)
    obtain rfl := Option.some.inj (hbefore.symm.trans h'.item)
    exact h'.fails r hr
  obtain rfl := Nat.le_antisymm (hle h h') (hle h' h)
  exact ⟨rfl, Option.some.inj (h.item.symm.trans h'.item)⟩

/-- No item is first among those that are not loaded if all are. -/
private theorem Json.FirstUnloadable.not_forall₂ {i : Nat} {j : Json} {rs : List Root}
    (h : FirstUnloadable items i j) : ¬ List.Forall₂ LoadsAs items rs := by
  intro hall
  obtain ⟨hi, hj⟩ := List.getElem?_eq_some_iff.mp h.item
  have hr := hall.get hi (hall.length_eq ▸ hi)
  rw [List.get_eq_getElem, hj] at hr
  exact h.fails _ hr

/-- An array is loaded as the nodes that its items are loaded as by themselves, in the same order
and number, if all are objects and are loaded. Otherwise there is a first item that is not, and
whatever comes after it, it is reported: with its shape and its position if it is no object, and if
it is one with just the fault that is reported when it is loaded by itself. -/
theorem Tree.ofJson_arr_itemwise (items : List Json) :
    (∀ t, Tree.ofJson (.arr items) = .ok t ↔
      ∃ rs, t = .many rs ∧ List.Forall₂ Json.LoadsAs items rs) ∧
    ((∃ rs, List.Forall₂ Json.LoadsAs items rs) ∨ ∃ i j, Json.FirstUnloadable items i j) ∧
    ∀ i j, Json.FirstUnloadable items i j →
      ∃ e, Tree.ofJson (.arr items) = .error e ∧
        ((∀ members, j ≠ .obj members) → e = .unsupported j.shape (some i) ∧
          e.message = "Unsupported input kind: expected a node or a sequence of nodes, got " ++
            j.shape.message ++ " at index " ++ toString i) ∧
        ∀ members, j = .obj members →
          Tree.ofJson j = .error e ∧ ∃ fault, e = .invalidNode fault := by
  refine ⟨fun t => ?_, ?_, fun i j hfirst => ?_⟩
  · rw [Tree.ofJson, Except.map_eq_ok_iff]
    constructor
    · rintro ⟨rs, hrs, rfl⟩
      exact ⟨rs, rfl, Root.ofItems_eq_ok_iff.mp hrs⟩
    · rintro ⟨rs, rfl, hrs⟩
      exact ⟨rs, Root.ofItems_eq_ok_iff.mpr hrs, rfl⟩
  · cases hitems : Root.ofItems 0 items with
    | ok rs => exact .inl ⟨rs, Root.ofItems_eq_ok_iff.mp hitems⟩
    | error e =>
      obtain ⟨i, j, hfirst, -⟩ := Root.exists_firstUnloadable hitems
      exact .inr ⟨i, j, hfirst⟩
  · cases hitems : Root.ofItems 0 items with
    | ok rs => exact absurd (Root.ofItems_eq_ok_iff.mp hitems) hfirst.not_forall₂
    | error e =>
      obtain ⟨i', j', hfirst', he⟩ := Root.exists_firstUnloadable hitems
      obtain ⟨rfl, rfl⟩ := hfirst.unique hfirst'
      rw [Nat.zero_add] at he
      obtain ⟨hshape, hobject⟩ := Root.ofItem_eq_error he
      refine ⟨e, ?_, fun hne => ⟨hshape hne, ?_⟩, hobject⟩
      · rw [Tree.ofJson, hitems]
        rfl
      · rw [hshape hne]
        exact String.append_assoc.symm

/-- An array inside the sequence is reported, although a malformed node comes after it. -/
theorem Tree.ofJson_arr_itemwise_nested :
    let items : List Json :=
      [.obj [("_type", .str "Pass")], .arr [.int 1], .obj [("_type", .str "Name")]]
    Json.FirstUnloadable items 1 (.arr [.int 1]) ∧
      ∃ e, Tree.ofJson (.arr items) = .error e ∧
        e.message = "Unsupported input kind: expected a node or a sequence of nodes, " ++
          "got sequence at index 1" := by
  intro items
  have hfirst : Json.FirstUnloadable items 1 (.arr [.int 1]) := by
    refine ⟨rfl, fun r hr => ?_, fun k hk => ?_⟩
    · obtain ⟨members, hmembers⟩ := hr.object
      cases hmembers
    · obtain rfl := Nat.lt_one_iff.mp hk
      exact ⟨_, .stmt Stmt.pass, rfl, ⟨_, rfl⟩, rfl⟩
  obtain ⟨-, -, hreport⟩ := Tree.ofJson_arr_itemwise items
  obtain ⟨e, he, hshape, -⟩ := hreport 1 _ hfirst
  refine ⟨hfirst, e, he, ?_⟩
  rw [(hshape nofun).2]
  decide +kernel

end SyntaxDump
