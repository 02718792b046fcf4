import SyntaxDump.Json.Basic

/-!
# Members of objects

A writer lists the members of an object in the order of the grammar, a reader of texts in the order
of their keys. Whoever takes a value apart looks members up by key, so either list will do. To say
so for values of any depth, `Json.rearrange` lists the members of every object anew; `Json.ordered`
is the case of the order of keys, which is the form that values have once they have been read.

## Main statements

- `Json.member?_insertMember`: adding a member changes the lookup of its key and of no other;
- `Json.keepsLookups_orderedMembers`: members with distinct keys can be put in order;
- `Json.mem_orderedMembers`: putting members in order adds none.
-/

namespace SyntaxDump.Json

/-- The keys of the members of an object. -/
def keys (members : List (String × Json)) : List String := members.map Prod.fst

@[simp]
theorem keys_nil : keys [] = [] := rfl

@[simp]
theorem keys_cons (m : String × Json) (members : List (String × Json)) :
    keys (m :: members) = m.1 :: keys members := rfl

@[simp]
theorem keys_append (front back : List (String × Json)) :
    keys (front ++ back) = keys front ++ keys back := List.map_append

section Lookup

variable {members : List (String × Json)} {key : String}

@[simp]
theorem member?_nil : member? [] key = none := rfl

/-- A lookup stops at the first member with the key. -/
theorem member?_cons (m : String × Json) :
    member? (m :: members) key = if m.1 = key then some m.2 else member? members key := by
  obtain ⟨k, v⟩ := m
  by_cases h : k = key
  · rw [if_pos h, h]
    exact List.lookup_cons_self
  · have hne : (key == k) = false := by simpa using Ne.symm h
    rw [if_neg h]
    simp only [member?, List.lookup_cons, hne]

/-- Nothing is found exactly when the key is not there. -/
theorem member?_eq_none_iff : member? members key = none ↔ key ∉ keys members := by
  induction members with
  | nil => simp
  | cons m rest ih =>
    rw [member?_cons, keys_cons, List.mem_cons, not_or, ← ih]
    by_cases h : m.1 = key
    · simp [h]
    · simp [h, Ne.symm h]

/-- A key that the first of two lists does not have is looked up in the second. -/
theorem member?_append_of_not_mem {front : List (String × Json)} (h : key ∉ keys front) :
    member? (front ++ members) key = member? members key := by
  have hnone : front.lookup key = none := member?_eq_none_iff.mpr h
  rw [member?, List.lookup_append, hnone, Option.none_or]
  rfl

/-- A key that the second of two lists does not have is looked up in the first. -/
theorem member?_append_of_not_mem_right {back : List (String × Json)} (h : key ∉ keys back) :
    member? (members ++ back) key = member? members key := by
  have hnone : back.lookup key = none := member?_eq_none_iff.mpr h
  rw [member?, List.lookup_append, hnone, Option.or_none]
  rfl

/-- Adding a member changes the lookup of its key and of no other. -/
theorem member?_insertMember (name : String) (value : Json) :
    member? (insertMember name value members) key =
      if name = key then some value else member? members key := by
  induction members with
  | nil => rw [insertMember, member?_cons]
  | cons m rest ih =>
    obtain ⟨k, v⟩ := m
    rw [insertMember]
    split
    · rw [member?_cons]
    split
    · next hname =>
      -- the old value of the key is covered by the new one
      subst hname
      rw [member?_cons, member?_cons]
      split <;> rfl
    · next hname =>
      -- the member goes further back, behind one with another key
      rw [member?_cons, member?_cons, ih]
      split
      · next hk =>
        have hne : ¬ name = key := fun h => hname (h.trans hk.symm)
        rw [if_neg hne]
      · rfl

/-- Members with distinct keys are found in order as they were found before. -/
private theorem member?_foldl_insertMember (ordered : List (String × Json))
    (hnodup : (keys members).Nodup) :
    member? (members.foldl (fun acc m => insertMember m.1 m.2 acc) ordered) key =
      if key ∈ keys members then member? members key else member? ordered key := by
  induction members generalizing ordered with
  | nil => simp
  | cons m rest ih =>
    -- the first member is added before the others, none of which has its key
    obtain ⟨hm, hrest⟩ := List.nodup_cons.mp hnodup
    rw [List.foldl_cons, ih _ hrest, member?_insertMember, member?_cons, keys_cons]
    by_cases hkey : m.1 = key
    · subst hkey
      have hm' : m.1 ∉ keys rest := hm
      simp [hm']
    · have hne : ¬ key = m.1 := Ne.symm hkey
      simp [hkey, hne]

end Lookup

/-- What is among the members after one was added is that one or was there before. -/
theorem mem_insertMember {m : String × Json} {key : String} {value : Json}
    {members : List (String × Json)} (h : m ∈ insertMember key value members) :
    m = (key, value) ∨ m ∈ members := by
  induction members with
  | nil => exact .inl (List.mem_singleton.mp h)
  | cons first rest ih =>
    rw [insertMember] at h
    split at h
    · exact List.mem_cons.mp h
    split at h
    · exact (List.mem_cons.mp h).imp_right (List.mem_cons_of_mem _)
    · rcases List.mem_cons.mp h with rfl | h
      · exact .inr List.mem_cons_self
      · exact (ih h).imp_right (List.mem_cons_of_mem _)

/-- Putting members in order adds none. -/
theorem mem_orderedMembers {m : String × Json} {members : List (String × Json)}
    (h : m ∈ orderedMembers members) : m ∈ members := by
  have hfold : ∀ ordered,
      m ∈ members.foldl (fun acc m => insertMember m.1 m.2 acc) ordered →
        m ∈ members ∨ m ∈ ordered := by
    clear h
    induction members with
    | nil => exact fun _ h => .inr h
    | cons first rest ih =>
      intro ordered h
      rcases ih _ h with h | h
      · exact .inl (List.mem_cons_of_mem _ h)
      · exact (mem_insertMember h).imp_left fun heq => List.mem_cons.mpr (.inl heq)
  exact (hfold [] h).resolve_right List.not_mem_nil

/-! ## Rearranging a value -/

/-- A way to list members that does not matter to lookups, as long as keys are distinct. -/
def KeepsLookups (arrange : List (String × Json) → List (String × Json)) : Prop :=
  ∀ members, (keys members).Nodup → ∀ key, member? (arrange members) key = member? members key

theorem keepsLookups_id : KeepsLookups id := fun _ _ _ => rfl

/-- Putting members in the order of their keys does not matter to lookups. -/
theorem keepsLookups_orderedMembers : KeepsLookups orderedMembers := by
  intro members hnodup key
  rw [orderedMembers, member?_foldl_insertMember [] hnodup]
  split
  · rfl
  · next hkey => rw [member?_eq_none_iff.mpr hkey, member?_nil]

section Rearrange

variable (arrange : List (String × Json) → List (String × Json))

mutual

/-- The value with the members of every object, at any depth, listed anew. -/
def rearrange : Json → Json
  | .arr items => .arr (rearrangeItems items)
  | .obj members => .obj (arrange (rearrangeMembers members))
  | .null => .null
  | .bool b => .bool b
  | .int n => .int n
  | .float x => .float x
  | .str s => .str s

/-- The items of an array, each rearranged. -/
def rearrangeItems : List Json → List Json
  | [] => []
  | j :: rest => rearrange j :: rearrangeItems rest

/-- The members of an object with their values rearranged. -/
def rearrangeMembers : List (String × Json) → List (String × Json)
  | [] => []
  | (key, j) :: rest => (key, rearrange j) :: rearrangeMembers rest

end

/-- The items of an array are rearranged one by one. -/
theorem rearrangeItems_eq_map (items : List Json) :
    rearrangeItems arrange items = items.map (rearrange arrange) := by
  induction items with
  | nil => rfl
  | cons j rest ih => rw [rearrangeItems, List.map_cons, ih]

/-- Rearranging the values of members leaves the keys as they are. -/
theorem keys_rearrangeMembers (members : List (String × Json)) :
    keys (rearrangeMembers arrange members) = keys members := by
  induction members with
  | nil => rfl
  | cons m rest ih => rw [rearrangeMembers, keys_cons, ih, keys_cons]

/-- The member of a rearranged value is the rearranged member. -/
theorem member?_rearrangeMembers (members : List (String × Json)) (key : String) :
    member? (rearrangeMembers arrange members) key =
      (member? members key).map (rearrange arrange) := by
  induction members with
  | nil => rfl
  | cons m rest ih =>
    rw [rearrangeMembers, member?_cons, member?_cons, ih]
    split <;> rfl

end Rearrange

mutual

/-- Listing the members of every object as they are changes nothing. -/
theorem rearrange_id : (j : Json) → rearrange id j = j
  | .arr items => by rw [rearrange, rearrangeItems_id items]
  | .obj members => by rw [rearrange, rearrangeMembers_id members]; rfl
  | .null | .bool _ | .int _ | .float _ | .str _ => by rw [rearrange]

theorem rearrangeItems_id : (items : List Json) → rearrangeItems id items = items
  | [] => rfl
  | j :: rest => by rw [rearrangeItems, rearrange_id j, rearrangeItems_id rest]

theorem rearrangeMembers_id : (members : List (String × Json)) →
    rearrangeMembers id members = members
  | [] => rfl
  | (key, j) :: rest => by rw [rearrangeMembers, rearrange_id j, rearrangeMembers_id rest]

end

/-- The value as a reader lists it: the members of every object in the order of their keys. -/
def ordered (j : Json) : Json := rearrange orderedMembers j

end SyntaxDump.Json
