import SyntaxDump.Constant
import SyntaxDump.Json.Basic

/-!
# Parts of values

A value is taken apart into its parts, the items of an array or the values of the members of an
object. Readers of nodes go down from a value to its parts, so facts about what they read are shown
by induction on parts (`Json.induction_on_parts`).

## Main statements

- `Json.numbers_subset_of_mem_parts`: the numbers in a part are among those in the whole;
- `Json.nesting_lt_of_mem_parts`, `Json.nesting_le_of_parts`: the nesting of the whole is by one
  greater than that of its parts.
-/

namespace SyntaxDump.Json

/-- The values directly inside a value. -/
def parts : Json → List Json
  | .arr items => items
  | .obj members => members.map Prod.snd
  | _ => []

/-- A part is smaller than the whole. -/
private theorem sizeOf_lt_of_mem_parts {j part : Json} (h : part ∈ j.parts) :
    sizeOf part < sizeOf j := by
  cases j with
  | arr items =>
    have hlt : sizeOf part < sizeOf items := List.sizeOf_lt_of_mem h
    rw [Json.arr.sizeOf_spec]
    omega
  | obj members =>
    -- a value is smaller than its member, and the member than the list
    obtain ⟨m, hm, rfl⟩ := List.mem_map.mp h
    have hlt : sizeOf m < sizeOf members := List.sizeOf_lt_of_mem hm
    have hsnd : sizeOf m = 1 + sizeOf m.1 + sizeOf m.2 := by cases m; rfl
    rw [Json.obj.sizeOf_spec]
    omega
  | _ => cases h

/-- What holds of a value whenever it holds of its parts holds of every value. -/
@[elab_as_elim]
theorem induction_on_parts {motive : Json → Prop}
    (step : ∀ j, (∀ part ∈ j.parts, motive part) → motive j) (j : Json) : motive j :=
  step j fun part _ => induction_on_parts step part
termination_by sizeOf j
decreasing_by exact sizeOf_lt_of_mem_parts ‹_›

/-- The value of a member is a part. -/
theorem mem_parts_of_member? {members : List (String × Json)} {key : String} {value : Json}
    (h : member? members key = some value) : value ∈ (obj members).parts := by
  rw [member?, List.lookup_eq_some_iff] at h
  -- a lookup finds the member at the end of those with other keys
  obtain ⟨front, back, hmembers, -⟩ := h
  rw [parts, hmembers]
  simp

/-! ## Numbers -/

mutual

/-- The numbers in a value, at any depth, as constants. -/
def numbers : Json → List Constant
  | .int n => [.int n]
  | .float x => [.float x]
  | .arr items => numbersOfItems items
  | .obj members => numbersOfMembers members
  | _ => []

/-- The numbers in the items of an array. -/
def numbersOfItems : List Json → List Constant
  | [] => []
  | j :: rest => numbers j ++ numbersOfItems rest

/-- The numbers in the members of an object. -/
def numbersOfMembers : List (String × Json) → List Constant
  | [] => []
  | (_, j) :: rest => numbers j ++ numbersOfMembers rest

end

theorem numbersOfItems_eq_flatMap (items : List Json) :
    numbersOfItems items = items.flatMap numbers := by
  induction items with
  | nil => rfl
  | cons j rest ih => rw [numbersOfItems, List.flatMap_cons, ih]

theorem numbersOfMembers_eq_flatMap (members : List (String × Json)) :
    numbersOfMembers members = (members.map Prod.snd).flatMap numbers := by
  induction members with
  | nil => rfl
  | cons m rest ih => rw [numbersOfMembers, List.map_cons, List.flatMap_cons, ih]

theorem numbersOfMembers_append (front back : List (String × Json)) :
    numbersOfMembers (front ++ back) = numbersOfMembers front ++ numbersOfMembers back := by
  simp only [numbersOfMembers_eq_flatMap, List.map_append, List.flatMap_append]

/-- The numbers in a part are among those in the whole. -/
theorem numbers_subset_of_mem_parts {j part : Json} (h : part ∈ j.parts) :
    part.numbers ⊆ j.numbers := by
  intro number hnumber
  cases j with
  | arr items =>
    rw [numbers, numbersOfItems_eq_flatMap]
    exact List.mem_flatMap.mpr ⟨part, h, hnumber⟩
  | obj members =>
    rw [numbers, numbersOfMembers_eq_flatMap]
    exact List.mem_flatMap.mpr ⟨part, h, hnumber⟩
  | _ => cases h

/-! ## Nesting -/

private theorem nestingOfItems_le_iff {items : List Json} {d : Nat} :
    nestingOfItems items ≤ d ↔ ∀ j ∈ items, j.nesting ≤ d := by
  induction items with
  | nil => simp [nestingOfItems]
  | cons j rest ih => rw [nestingOfItems, Nat.max_le, ih, List.forall_mem_cons]

private theorem nestingOfMembers_le_iff {members : List (String × Json)} {d : Nat} :
    nestingOfMembers members ≤ d ↔ ∀ j ∈ members.map Prod.snd, j.nesting ≤ d := by
  induction members with
  | nil => simp [nestingOfMembers]
  | cons m rest ih => rw [nestingOfMembers, Nat.max_le, ih, List.map_cons, List.forall_mem_cons]

/-- A value nests at most one level deeper than its parts. -/
theorem nesting_le_of_parts {j : Json} {d : Nat} (h : ∀ part ∈ j.parts, part.nesting ≤ d) :
    j.nesting ≤ d + 1 := by
  cases j with
  | arr items => exact Nat.succ_le_succ (nestingOfItems_le_iff.mpr h)
  | obj members => exact Nat.succ_le_succ (nestingOfMembers_le_iff.mpr h)
  | _ => exact Nat.zero_le _

/-- A value nests more deeply than each of its parts. -/
theorem nesting_lt_of_mem_parts {j part : Json} (h : part ∈ j.parts) :
    part.nesting < j.nesting := by
  cases j with
  | arr items => exact Nat.lt_succ_of_le (nestingOfItems_le_iff.mp (Nat.le_refl _) part h)
  | obj members => exact Nat.lt_succ_of_le (nestingOfMembers_le_iff.mp (Nat.le_refl _) part h)
  | _ => cases h

end SyntaxDump.Json
