import SyntaxDump.Settings.Layer

/-!
# What stands at a key of a store

Everything that is put into a store is a table: the members of a file, or a single value under the
keys of a path. Putting tables one after another leaves at each key the value that was put there
last, except that a table is merged with what it finds: one without members leaves it as it is.

What is merged into a table does not matter to settings, since no setting is a table, so a store is
compared with values only as far as the values themselves (`Store.Shows`).

## Main statements

- `Store.putPath_eq`: a value at the end of a path of keys is put like a table;
- `Store.shows_putMembers`: what stands at a key after a table was put;
- `Store.shows_setting?_putMembers`: what stands at a key of a group after a document was put.
-/

namespace SyntaxDump

namespace Json

/-- Whether the value is a table. -/
def isTable : Json → Bool
  | .obj _ => true
  | _ => false

/-- Whether the value is a table without members. -/
def isEmptyTable : Json → Bool
  | .obj [] => true
  | _ => false

/-- The values that members give to a key, whose letters are compared without case. -/
def valuesAt (key : String) (members : List (String × Json)) : List Json :=
  (members.filter fun m => Unicode.lower m.1 == key).map Prod.snd

theorem valuesAt_cons_of_eq {key name : String} (h : Unicode.lower name = key) (j : Json)
    (rest : List (String × Json)) :
    valuesAt key ((name, j) :: rest) = j :: valuesAt key rest := by
  simp [valuesAt, h]

theorem valuesAt_cons_of_ne {key name : String} (h : Unicode.lower name ≠ key) (j : Json)
    (rest : List (String × Json)) : valuesAt key ((name, j) :: rest) = valuesAt key rest := by
  simp [valuesAt, h]

/-- The members of a table; other values have none. -/
def tableMembers : Json → List (String × Json)
  | .obj members => members
  | _ => []

/-- The values that members give to a key of a group. -/
def valuesIn (group key : String) (members : List (String × Json)) : List Json :=
  (valuesAt group members).flatMap fun j => valuesAt key j.tableMembers

/-- The value inside of tables, one for each key. -/
def nested (j : Json) : List String → Json
  | [] => j
  | key :: path => .obj [(key, nested j path)]

/-- The table with a single value at the end of a path of keys. -/
def atPath (j : Json) : List String → List (String × Json)
  | [] => []
  | key :: path => [(key, nested j path)]

end Json

namespace Settings

open Json (valuesAt)

/-- What counts at a key where values were put one after another on top of what was below: the last
one that is no empty table. An empty table counts only if there is nothing else. -/
def prevailing (below : Option Json) (values : List Json) : Option Json :=
  ((values.filter (!·.isEmptyTable)).getLast?.or below).or values.head?

/-- What counts after one more value was put. -/
def puttingOver (below : Option Json) (j : Json) : Json :=
  if j.isEmptyTable then below.getD j else j

theorem prevailing_nil (below : Option Json) : prevailing below [] = below := by
  cases below <;> rfl

/-- The first of several values is put on top of what was below before the others are. -/
theorem prevailing_cons (below : Option Json) (j : Json) (values : List Json) :
    prevailing below (j :: values) = prevailing (some (puttingOver below j)) values := by
  unfold prevailing puttingOver
  by_cases h : j.isEmptyTable
  · rw [List.filter_cons_of_neg (by simpa using h), if_pos h]
    cases (values.filter (!·.isEmptyTable)).getLast? <;> cases below <;> rfl
  · rw [List.filter_cons_of_pos (by simpa using h), if_neg h, List.getLast?_cons]
    cases (values.filter (!·.isEmptyTable)).getLast? <;> rfl

theorem prevailing_append (below : Option Json) (first second : List Json) :
    prevailing below (first ++ second) = prevailing (prevailing below first) second := by
  induction first generalizing below with
  | nil => rw [List.nil_append, prevailing_nil]
  | cons j rest ih => rw [List.cons_append, prevailing_cons, ih, ← prevailing_cons]

/-- Of values without empty tables the last one counts. -/
theorem prevailing_eq {values : List Json} (h : ∀ j ∈ values, j.isEmptyTable = false)
    (below : Option Json) : prevailing below values = values.getLast?.or below := by
  have hall : values.filter (!·.isEmptyTable) = values :=
    List.filter_eq_self.mpr fun j hj => by simp [h j hj]
  rw [prevailing, hall]
  cases values with
  | nil => cases below <;> rfl
  | cons j rest => rw [List.getLast?_cons, Option.some_or, Option.some_or]

end Settings

namespace Store

open Settings (prevailing puttingOver prevailing_nil prevailing_cons)

/-! ## Tables of single values -/

/-- A value at the end of a path is a table of tables. -/
theorem putPath_eq (file : Option String) (j : Json) (path : List String) (s : Store) :
    putPath file j path s = putMembers file (j.atPath path) s := by
  induction path generalizing s with
  | nil => rfl
  | cons key path ih =>
    cases path with
    | nil => rfl
    | cons key' path =>
      -- the rest of the path is put into what is at its first key
      have hinner : putPath file j (key' :: path) = putMembers file (j.atPath (key' :: path)) :=
        funext ih
      rw [putPath, hinner]
      · rfl
      · nofun

theorem putMembers_append (file : Option String) (front back : List (String × Json)) (s : Store) :
    putMembers file (front ++ back) s = putMembers file back (putMembers file front s) := by
  induction front generalizing s with
  | nil => rfl
  | cons m rest ih => rw [List.cons_append, putMembers, putMembers, ih]

/-! ## One key -/

/-- A lookup stops at the first entry with the key. -/
private theorem lookup_cons_eq_ite (k name : String) (s : Store)
    (entries : List (String × Store)) :
    ((name, s) :: entries).lookup k = if k = name then some s else entries.lookup k := by
  by_cases h : k = name
  · rw [if_pos h, h, List.lookup_cons_self]
  · rw [if_neg h, List.lookup_cons, beq_eq_false_iff_ne.mpr h]

/-- A change at one key shows there and nowhere else. -/
private theorem lookup_alter (key : String) (f : Option Store → Store)
    (entries : List (String × Store)) (k : String) :
    (alter key f entries).lookup k =
      if k = key then some (f (entries.lookup key)) else entries.lookup k := by
  induction entries with
  | nil => rw [alter, lookup_cons_eq_ite, List.lookup_nil, List.lookup_nil]
  | cons e rest ih =>
    obtain ⟨name, s⟩ := e
    rw [alter]
    by_cases hname : name = key
    · subst hname
      rw [if_pos rfl, lookup_cons_eq_ite, lookup_cons_eq_ite, lookup_cons_eq_ite, if_pos rfl]
      split <;> rfl
    · rw [if_neg hname, lookup_cons_eq_ite, lookup_cons_eq_ite, lookup_cons_eq_ite, ih,
        if_neg (Ne.symm hname)]
      -- no key is both that of the entry and the one of the change
      by_cases hk : k = name
      · rw [if_pos hk, if_pos hk, if_neg (hk ▸ hname)]
      · rw [if_neg hk, if_neg hk]

/-- A change at one key of a store shows there and nowhere else. -/
theorem get?_at_ (key : String) (f : Store → Store) (s : Store) (k : String) :
    (at_ key f s).get? k =
      if k = Unicode.lower key then some (f ((s.get? k).getD (.table []))) else s.get? k := by
  rw [at_, get?, entries, lookup_alter]
  by_cases h : k = Unicode.lower key
  · rw [if_pos h, if_pos h, h]
    rfl
  · rw [if_neg h, if_neg h]
    rfl

/-- A store is, or has at a key, what a value tells: the value itself, or a table for a table. -/
inductive Shows : Option Store → Option Json → Prop
  | nothing : Shows none none
  | leaf {j : Json} (h : j.isTable = false) (file : Option String) :
    Shows (some (.leaf j file)) (some j)
  | table (entries : List (String × Store)) (members : List (String × Json)) :
    Shows (some (.table entries)) (some (.obj members))

/-- Putting members into a table leaves a table. -/
private theorem exists_putMembers_table (file : Option String) (members : List (String × Json))
    (entries : List (String × Store)) :
    ∃ entries', putMembers file members (.table entries) = .table entries' := by
  induction members generalizing entries with
  | nil => exact ⟨entries, rfl⟩
  | cons m rest ih =>
    obtain ⟨key, j⟩ := m
    rw [putMembers]
    cases j <;> exact ih _

/-- Putting members, at least one, leaves a table whatever was there. -/
private theorem exists_putMembers_cons (file : Option String) (m : String × Json)
    (members : List (String × Json)) (s : Store) :
    ∃ entries, putMembers file (m :: members) s = .table entries := by
  obtain ⟨key, j⟩ := m
  rw [putMembers]
  cases j <;> exact exists_putMembers_table file members _

/-- A value that is put at one key leaves all others alone. -/
private theorem get?_put_of_ne (file : Option String) (j : Json) (s : Store) {key k : String}
    (h : Unicode.lower key ≠ k) : (put file key j s).get? k = s.get? k := by
  cases j with
  | obj members => rw [put, get?_at_, if_neg (Ne.symm h)]
  | _ =>
    rw [put, get?_at_, if_neg (Ne.symm h)]
    nofun

/-- What a value leaves at its own key and at others. -/
theorem shows_put {s : Store} {k : String} {below : Option Json} (h : Shows (s.get? k) below)
    (file : Option String) (key : String) (j : Json) :
    Shows ((put file key j s).get? k)
      (if Unicode.lower key = k then some (puttingOver below j) else below) := by
  by_cases hkey : Unicode.lower key = k
  · rw [if_pos hkey]
    cases j with
    | obj members =>
      rw [put, get?_at_, if_pos hkey.symm]
      cases members with
      | nil =>
        -- nothing is merged: what was there stays
        generalize s.get? k = old at h ⊢
        cases h with
        | nothing => exact .table [] []
        | leaf hj f => exact .leaf hj f
        | table es ms => exact .table es ms
      | cons m rest =>
        obtain ⟨entries, hentries⟩ := exists_putMembers_cons file m rest
          ((s.get? k).getD (.table []))
        rw [hentries]
        exact .table entries (m :: rest)
    | _ =>
      rw [put, get?_at_, if_pos hkey.symm]
      · exact .leaf rfl file
      · nofun
  · rwa [if_neg hkey, get?_put_of_ne file j s hkey]

/-- What the members of a table leave at a key. -/
theorem shows_putMembers {s : Store} {k : String} {below : Option Json}
    (h : Shows (s.get? k) below) (file : Option String) (members : List (String × Json)) :
    Shows ((putMembers file members s).get? k)
      (prevailing below (Json.valuesAt k members)) := by
  induction members generalizing s below with
  | nil => rwa [Json.valuesAt, List.filter_nil, List.map_nil, prevailing_nil]
  | cons m rest ih =>
    obtain ⟨key, j⟩ := m
    -- what the first member leaves is what the others are put on top of
    have hrest := ih (shows_put h file key j)
    rw [putMembers]
    by_cases hkey : Unicode.lower key = k
    · rw [if_pos hkey] at hrest
      rwa [Json.valuesAt_cons_of_eq hkey, prevailing_cons]
    · rw [if_neg hkey] at hrest
      rwa [Json.valuesAt_cons_of_ne hkey]

/-! ## Keys of groups -/

/-- What stands at a key of a group. -/
def setting? (group key : String) (s : Store) : Option Store := (s.get? group).bind (get? key)

/-- The group is there and is a table. -/
def HasTable (group : String) (s : Store) : Prop := ∃ entries, s.get? group = some (.table entries)

variable {group : String}

/-- At the key of a group a table leaves what it has, if all it puts for the group are tables. -/
theorem shows_setting?_putMembers {s : Store} {key : String} {below : Option Json}
    (h : Shows (s.setting? group key) below) (file : Option String)
    {members : List (String × Json)} (htables : ∀ j ∈ Json.valuesAt group members, j.isTable) :
    Shows ((putMembers file members s).setting? group key)
      (prevailing below (Json.valuesIn group key members)) := by
  induction members generalizing s below with
  | nil => rwa [Json.valuesIn, Json.valuesAt, List.filter_nil, List.map_nil, List.flatMap_nil,
      prevailing_nil]
  | cons m rest ih =>
    obtain ⟨name, j⟩ := m
    rw [putMembers]
    by_cases hname : Unicode.lower name = group
    · rw [Json.valuesAt_cons_of_eq hname, List.forall_mem_cons] at htables
      obtain ⟨hj, hrest⟩ := htables
      cases j with
      | obj members =>
        -- the table is put into what the group was
        have hinner : ((put file name (.obj members) s).setting? group key) =
            (putMembers file members ((s.get? group).getD (.table []))).get? key := by
          rw [setting?, put, get?_at_, if_pos hname.symm, Option.bind_some]
        have hbelow : Shows (((s.get? group).getD (.table [])).get? key) below := by
          rw [setting?] at h
          cases hgroup : s.get? group with
          | none => rwa [hgroup] at h
          | some t => rwa [hgroup] at h
        have hput := shows_putMembers hbelow file members
        rw [← hinner] at hput
        rw [Json.valuesIn, Json.valuesAt_cons_of_eq hname, List.flatMap_cons,
          Settings.prevailing_append]
        exact ih hput hrest
      | _ => cases hj
    · -- a member of another group changes nothing here
      have hother : (put file name j s).setting? group key = s.setting? group key := by
        rw [setting?, setting?, get?_put_of_ne file j s hname]
      rw [Json.valuesAt_cons_of_ne hname] at htables
      rw [Json.valuesIn, Json.valuesAt_cons_of_ne hname]
      exact ih (hother ▸ h) htables

/-- A group stays a table if all that is put for it are tables. -/
theorem HasTable.putMembers {s : Store} (h : s.HasTable group) (file : Option String)
    {members : List (String × Json)} (htables : ∀ j ∈ Json.valuesAt group members, j.isTable) :
    (putMembers file members s).HasTable group := by
  obtain ⟨entries, hentries⟩ := h
  induction members generalizing s entries with
  | nil => exact ⟨entries, hentries⟩
  | cons m rest ih =>
    obtain ⟨name, j⟩ := m
    rw [Store.putMembers]
    by_cases hname : Unicode.lower name = group
    · rw [Json.valuesAt_cons_of_eq hname, List.forall_mem_cons] at htables
      obtain ⟨hj, hrest⟩ := htables
      cases j with
      | obj members =>
        obtain ⟨entries', hentries'⟩ := exists_putMembers_table file members entries
        refine ih hrest entries' ?_
        rw [put, get?_at_, if_pos hname.symm, hentries, Option.getD_some, hentries']
      | _ => cases hj
    · rw [Json.valuesAt_cons_of_ne hname] at htables
      refine ih htables entries ?_
      rw [get?_put_of_ne file j s hname, hentries]

end Store

end SyntaxDump
