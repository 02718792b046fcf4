import SyntaxDump.Document.Load
import SyntaxDump.Proofs.Constants
import SyntaxDump.Proofs.Document.Encode
import SyntaxDump.Proofs.Document.RoundTrip
import SyntaxDump.Proofs.Json.Range
import SyntaxDump.Proofs.Json.Text

/-!
# What the text of a document is read as

The text of a document carries a tree up to its constants. Integers of 64 bits are read as they
were written, but the reader makes floats of wider ones; it rounds floats more than once; and floats
that are no finite numbers are written as `null`. Here the tree is determined that is read from the
text of the document of another: it is the other tree with each constant replaced by what its
numeral is read as.

## Main statements

- `Constant.reloaded_int`, `Constant.reloaded_float`, `Constant.reloaded_eq_self_iff`: what
  constants are read as, and which ones are read as themselves;
- `Tree.toJson_reloaded`: to replace the numbers of a document is to replace the constants of the
  tree;
- `Tree.ofJsonText_pretty`, `Tree.ofJsonText_compact`: the tree that is read, on either layout.
-/

namespace SyntaxDump

open Json (numbersOfItems numbersOfMembers renumberedItems renumberedMembers reread)

/-! ## Constants -/

/-- A number as a constant. -/
def Json.number : Json → Constant
  | .int n => .int n
  | .float x => .float x
  | _ => .none

/-- The constant that is read where a constant was written. -/
def Constant.reloaded : Constant → Constant
  | .int n => (reread (Json.writeInt n)).number
  | .float x => if x.isFinite then (reread (Json.writeFloat x)).number else .none
  | c => c

/-- Integers of 64 bits are read as themselves. -/
theorem Json.renumbered_int {n : ℤ} (h : (Constant.int n).InRange) :
    (Json.int n).renumbered = .int n := by
  rw [renumbered, (readsAs_writeInt h.1 h.2).reread_eq]

/-- Integers that fit into documents have a text. -/
theorem Constant.writable_of_fitsDocument {n : ℤ} (h : fitsDocument n) :
    (Constant.int n).Writable := by
  rw [fitsDocument_iff] at h
  rw [Writable, Width.holds, Bool.or_eq_true, Width.signed_iff, Width.unsigned_iff]
  simp only [Width.values, Nat.pow_eq]
  omega

/-- What is read is within the range of documents, whatever was written. -/
theorem Constant.inRange_reloaded (c : Constant) : c.reloaded.InRange := by
  have hreread (text : List Char) : (reread text).number.InRange := by
    rw [reread]
    split
    · next j rest hread =>
      have hnumbers := (Json.readValue_readable 0 text j rest hread).numbers
      cases j with
      | int n => exact hnumbers _ List.mem_cons_self
      | float x => exact hnumbers _ List.mem_cons_self
      | _ => trivial
    · trivial
  cases c with
  | int n => exact hreread _
  | float x =>
    rw [reloaded]
    split
    · exact hreread _
    · -- an infinite float is written as `null`
      trivial
  | _ => trivial

/-- An integer is read as itself if it has 64 bits; the text of a wider one, of 128 bits, is that of
a finite float. -/
theorem Constant.reloaded_int {n : ℤ} (h : (Constant.int n).Writable) :
    if (Constant.int n).InRange then (Constant.int n).reloaded = .int n
    else ∃ x : Binary64, x.isFinite ∧ (Constant.int n).reloaded = .float x := by
  rcases Json.readsAs_int h with ⟨hread, hrange⟩ | ⟨x, hx, hread⟩
  · rw [if_pos hrange, reloaded, hread.reread_eq, Json.number]
  · have hreloaded : (Constant.int n).reloaded = .float x := by
      rw [reloaded, hread.reread_eq, Json.number]
    -- within the range it would be read as an integer
    have hrange : ¬ (Constant.int n).InRange := by
      intro hrange
      have hself := (Json.readsAs_writeInt hrange.1 hrange.2).reread_eq
      rw [hread.reread_eq] at hself
      cases hself
    rw [if_neg hrange]
    exact ⟨x, hx, hreloaded⟩

/-- A finite float is read as a finite float, any other one as no value. -/
theorem Constant.reloaded_float (x : Binary64) :
    if x.isFinite then ∃ y : Binary64, y.isFinite ∧ (Constant.float x).reloaded = .float y
    else (Constant.float x).reloaded = .none := by
  split
  · next hx =>
    obtain ⟨y, hy, hread⟩ := Json.readsAs_writeFloat hx
    refine ⟨y, hy, ?_⟩
    rw [reloaded, if_pos hx, hread.reread_eq, Json.number]
  · next hx => rw [reloaded, if_neg hx]

/-- The constants that are read as themselves: integers of 64 bits, finite floats that the reader
rounds to themselves, and everything that is no number. -/
theorem Constant.reloaded_eq_self_iff (c : Constant) :
    c.reloaded = c ↔
      c.InRange ∧ ∀ x, c = .float x → reread (Json.writeFloat x) = .float x := by
  constructor
  · intro h
    refine ⟨h ▸ c.inRange_reloaded, ?_⟩
    rintro x rfl
    rw [reloaded] at h
    -- a float that comes back is finite, as others come back as no value
    split at h
    · next hx =>
      obtain ⟨y, -, hread⟩ := Json.readsAs_writeFloat hx
      rw [hread.reread_eq, Json.number] at h
      rw [hread.reread_eq, Constant.float.inj h]
    · cases h
  · rintro ⟨hrange, hfloat⟩
    cases c with
    | int n => rw [reloaded, (Json.readsAs_writeInt hrange.1 hrange.2).reread_eq, Json.number]
    | float x =>
      have hx : x.isFinite = true := hrange
      rw [reloaded, if_pos hx, hfloat x rfl, Json.number]
    | _ => rfl

/-! ## Documents -/

theorem Json.renumberedItems_eq_map (items : List Json) :
    renumberedItems items = items.map renumbered := by
  induction items with
  | nil => rfl
  | cons j rest ih => rw [renumberedItems, List.map_cons, ih]

theorem Json.renumberedMembers_append (front back : List (String × Json)) :
    renumberedMembers (front ++ back) = renumberedMembers front ++ renumberedMembers back := by
  induction front with
  | nil => rfl
  | cons m rest ih =>
    rw [List.cons_append, renumberedMembers, renumberedMembers, ih, List.cons_append]

/-- A value whose numbers have a text and are read as they are. -/
structure Json.Stable (j : Json) : Prop where
  writable : ∀ c ∈ j.numbers, c.Writable
  renumbered_eq : j.renumbered = j

theorem Json.stable_int {n : ℤ} (h : (Constant.int n).InRange) : (Json.int n).Stable where
  writable := List.forall_mem_singleton.mpr
    (Constant.writable_of_fitsDocument (fitsDocument_of_inRange h))
  renumbered_eq := renumbered_int h

theorem Json.stable_str (s : String) : (Json.str s).Stable :=
  ⟨List.forall_mem_nil _, by rw [renumbered]⟩

theorem Json.stable_arr {items : List Json} (h : ∀ j ∈ items, j.Stable) :
    (Json.arr items).Stable where
  writable := by
    rw [numbers, numbersOfItems_eq_flatMap, List.forall_mem_flatMap]
    exact fun j hj => (h j hj).writable
  renumbered_eq := by
    rw [renumbered, renumberedItems_eq_map, List.map_congr_left fun j hj => (h j hj).renumbered_eq,
      List.map_id']

theorem Json.stable_obj {members : List (String × Json)} (h : ∀ m ∈ members, m.2.Stable) :
    (Json.obj members).Stable where
  writable := by
    rw [numbers, numbersOfMembers_eq_flatMap, List.forall_mem_flatMap, List.forall_mem_map]
    exact fun m hm => (h m hm).writable
  renumbered_eq := by
    have hsame : renumberedMembers members = members := by
      induction members with
      | nil => rfl
      | cons m rest ih =>
        rw [renumberedMembers, (h m List.mem_cons_self).renumbered_eq,
          ih fun m' hm' => h m' (List.mem_cons_of_mem m hm')]
    rw [renumbered, hsame]

/-- Words are read as they are, and so are bytes. -/
theorem Json.stable_word {n : Nat} (h : n < 2 ^ 64) : (Json.int n).Stable :=
  stable_int ⟨by omega, by exact_mod_cast h⟩

/-- The document of a constant has a text, and what is read from it is the document of the constant
that is read. -/
theorem Constant.toJson_reloaded {c : Constant} {j : Json} (h : c.toJson = .ok j) :
    (∀ number ∈ j.numbers, number.Writable) ∧ c.reloaded.toJson = .ok j.renumbered := by
  cases c with
  | int n =>
    rw [toJson] at h
    split at h
    · next hfits =>
      obtain rfl := Except.ok.inj h
      have hwritable := writable_of_fitsDocument hfits
      refine ⟨List.forall_mem_singleton.mpr hwritable, ?_⟩
      rw [reloaded, Json.renumbered]
      -- the numeral makes the same integer, or a finite float, whose document is the float
      rcases Json.readsAs_int hwritable with ⟨hread, -⟩ | ⟨x, hx, hread⟩
      · rw [hread.reread_eq, Json.number, toJson, if_pos hfits]
      · rw [hread.reread_eq, Json.number, toJson, if_pos hx]
    · cases h
  | float x =>
    obtain rfl := Except.ok.inj h
    rw [reloaded]
    split
    · next hx =>
      obtain ⟨y, hy, hread⟩ := Json.readsAs_writeFloat hx
      refine ⟨List.forall_mem_singleton.mpr hx, ?_⟩
      rw [Json.renumbered, hread.reread_eq, Json.number, toJson, if_pos hy]
    · -- written as `null`, which is the document of no value
      exact ⟨List.forall_mem_nil _, rfl⟩
  | bytes bs =>
    obtain rfl := Except.ok.inj h
    have hstable : (Json.arr (bs.map fun b => .int b.toNat)).Stable := by
      refine Json.stable_arr (List.forall_mem_map.mpr fun b _ => Json.stable_word ?_)
      exact b.toNat_lt.trans (by decide)
    refine ⟨hstable.writable, ?_⟩
    rw [hstable.renumbered_eq]
    rfl
  | _ =>
    obtain rfl := Except.ok.inj h
    exact ⟨List.forall_mem_nil _, by rw [Json.renumbered]; rfl⟩

/-- What a scalar that is no constant is written as is read as it is. -/
theorem Scalar.stable_toJson? {s : Scalar} (hs : s ≠ .constant) {v : s.Value} {value : Option Json}
    (h : s.toJson? v = .ok value) : ∀ j ∈ value, j.Stable := by
  have htext (v : Option String) : ∀ j ∈ v.map Json.str, j.Stable := by
    intro j hj
    obtain ⟨s, -, rfl⟩ := Option.map_eq_some_iff.mp hj
    exact Json.stable_str s
  cases s with
  | constant => exact absurd rfl hs
  | identifiers =>
    obtain rfl := Except.ok.inj h
    intro j hj
    obtain rfl := Option.some.inj hj
    exact Json.stable_arr (List.forall_mem_map.mpr fun s _ => Json.stable_str s)
  -- the numbers among the scalars are far from the bounds of the range
  | level =>
    obtain rfl := Except.ok.inj h
    intro j hj
    obtain rfl := Option.some.inj hj
    exact Json.stable_word v.toNat_lt
  | conversion =>
    obtain rfl := Except.ok.inj h
    intro j hj
    obtain rfl := Option.some.inj hj
    exact Json.stable_int ⟨v.le_toInt, v.toInt_lt.trans (by decide)⟩
  | identifier | dottedName =>
    obtain rfl := Except.ok.inj h
    exact htext (some v)
  | optionalIdentifier | optionalDottedName | optionalText =>
    obtain rfl := Except.ok.inj h
    exact htext v

/-- A scalar that is a constant is read as constants are, any other one as it is. -/
theorem Scalar.toJson?_reloaded {s : Scalar} {v : s.Value} {value : Option Json}
    (h : s.toJson? v = .ok value) :
    (∀ j ∈ value, ∀ number ∈ j.numbers, number.Writable) ∧
      s.toJson? (s.mapConstant Constant.reloaded v) = .ok (value.map Json.renumbered) := by
  by_cases hs : s = .constant
  · subst hs
    obtain ⟨j, hj, rfl⟩ := Except.map_eq_ok_iff.mp h
    obtain ⟨hwritable, hreloaded⟩ := Constant.toJson_reloaded hj
    refine ⟨fun j' hj' => Option.some.inj hj' ▸ hwritable, ?_⟩
    rw [mapConstant, toJson?, hreloaded]
    rfl
  · -- all other scalars stay as they are
    have hstable := Scalar.stable_toJson? hs h
    have hsame : s.mapConstant Constant.reloaded v = v := by
      cases s with
      | constant => exact absurd rfl hs
      | _ => rfl
    have hvalue : value.map Json.renumbered = value := by
      cases value with
      | none => rfl
      | some j => rw [Option.map_some, (hstable j rfl).renumbered_eq]
    rw [hsame, h, hvalue]
    exact ⟨fun j hj => (hstable j hj).writable, rfl⟩

/-- The numbers of a place are words. -/
theorem Category.stable_placeMembers {c : Category} (place : c.Place) :
    (Json.obj (c.placeMembers place)).Stable := by
  refine Json.stable_obj ?_
  rw [placeMembers_eq]
  split
  · exact List.forall_mem_nil _
  · rw [Location.members_eq, List.forall_mem_map]
    exact fun a _ => Json.stable_word a.2.toNat_lt

/-- The name of a class is a text. -/
theorem Kind.stable_tagMembers {c : Category} (k : Kind c) : (Json.obj k.tagMembers).Stable := by
  refine Json.stable_obj ?_
  rw [tagMembers_eq]
  split
  · exact List.forall_mem_singleton.mpr (Json.stable_str _)
  · exact List.forall_mem_nil _

/-- The members of an object that stay as they are, whatever is done to others. -/
theorem Json.Stable.renumberedMembers_eq {members : List (String × Json)}
    (h : (Json.obj members).Stable) : renumberedMembers members = members := by
  have heq := h.renumbered_eq
  rw [renumbered] at heq
  exact Json.obj.inj heq

mutual

/-- The document of a tree has a text, and what is read from it is the document of the tree with the
constants that are read. -/
theorem Node.toJson_reloaded : {c : Category} → (n : Node c) → {j : Json} → n.toJson = .ok j →
    (∀ number ∈ j.numbers, number.Writable) ∧
      (n.mapConstants Constant.reloaded).toJson = .ok j.renumbered
  | c, .mk k fs place, j, h => by
    obtain ⟨members, hmembers, rfl⟩ := Node.toJson_mk_eq_ok_iff.mp h
    obtain ⟨hwritable, hreloaded⟩ := Fields.members_reloaded fs hmembers
    have htag := k.stable_tagMembers
    have hplace := Category.stable_placeMembers place
    constructor
    · rw [Json.numbers, Json.numbersOfMembers_append, Json.numbersOfMembers_append,
        List.forall_mem_append, List.forall_mem_append]
      exact ⟨⟨htag.writable, hwritable⟩, hplace.writable⟩
    · rw [Node.mapConstants, Node.toJson_mk_eq_ok_iff]
      refine ⟨_, hreloaded, ?_⟩
      rw [Json.renumbered, Json.renumberedMembers_append, Json.renumberedMembers_append,
        htag.renumberedMembers_eq, hplace.renumberedMembers_eq]

theorem Fields.members_reloaded : {fs : List Field} → (v : Fields fs) →
    {members : List (String × Json)} → v.members = .ok members →
    (∀ number ∈ numbersOfMembers members, number.Writable) ∧
      (v.mapConstants Constant.reloaded).members = .ok (renumberedMembers members)
  | _, .nil, _, h => by
    obtain rfl := Except.ok.inj h
    exact ⟨List.forall_mem_nil _, rfl⟩
  | f :: _, .cons slot rest, _, h => by
    obtain ⟨value, others, hvalue, hothers, rfl⟩ := Fields.members_cons_eq_ok_iff.mp h
    obtain ⟨hwritable, hreloaded⟩ := Slot.toJson?_reloaded slot hvalue
    obtain ⟨hrest, hrest'⟩ := Fields.members_reloaded rest hothers
    rw [Fields.mapConstants, Fields.members_cons_eq_ok_iff]
    cases value with
    | none => exact ⟨hrest, _, _, hreloaded, hrest', rfl⟩
    | some j =>
      refine ⟨?_, _, _, hreloaded, hrest', rfl⟩
      show ∀ number ∈ j.numbers ++ numbersOfMembers others, number.Writable
      rw [List.forall_mem_append]
      exact ⟨hwritable j rfl, hrest⟩

theorem Slot.toJson?_reloaded : {k : Content} → (slot : Slot k) → {value : Option Json} →
    slot.toJson? = .ok value →
    (∀ j ∈ value, ∀ number ∈ j.numbers, number.Writable) ∧
      (slot.mapConstants Constant.reloaded).toJson? = .ok (value.map Json.renumbered)
  | _, .node n, _, h | _, .present n, _, h => by
    obtain ⟨j, hj, rfl⟩ := Except.map_eq_ok_iff.mp h
    obtain ⟨hwritable, hreloaded⟩ := Node.toJson_reloaded n hj
    refine ⟨fun j' hj' => Option.some.inj hj' ▸ hwritable, ?_⟩
    rw [Slot.mapConstants, Slot.toJson?, hreloaded]
    rfl
  | _, .absent, _, h => by
    obtain rfl := Except.ok.inj h
    exact ⟨fun j hj => absurd hj (Option.not_mem_none j), rfl⟩
  | _, .list ns, _, h => by
    obtain ⟨items, hitems, rfl⟩ := Except.map_eq_ok_iff.mp h
    obtain ⟨hwritable, hreloaded⟩ := Nodes.items_reloaded ns hitems
    refine ⟨fun j' hj' => Option.some.inj hj' ▸ hwritable, ?_⟩
    rw [Slot.mapConstants, Slot.toJson?, hreloaded, Option.map_some, Json.renumbered]
    rfl
  | .scalar _, .scalar _, _, h => Scalar.toJson?_reloaded h

theorem Nodes.items_reloaded : {c : Category} → {gaps : Bool} → (ns : Nodes c gaps) →
    {items : List Json} → ns.items = .ok items →
    (∀ number ∈ numbersOfItems items, number.Writable) ∧
      (ns.mapConstants Constant.reloaded).items = .ok (renumberedItems items)
  | _, _, .nil, _, h => by
    obtain rfl := Except.ok.inj h
    exact ⟨List.forall_mem_nil _, rfl⟩
  | _, _, .cons n rest, _, h => by
    obtain ⟨j, hj, h⟩ := Except.bind_eq_ok_iff.mp h
    obtain ⟨items, hitems, h⟩ := Except.bind_eq_ok_iff.mp h
    obtain rfl := Except.ok.inj h
    obtain ⟨hwritable, hreloaded⟩ := Node.toJson_reloaded n hj
    obtain ⟨hrest, hrest'⟩ := Nodes.items_reloaded rest hitems
    constructor
    · rw [numbersOfItems, List.forall_mem_append]
      exact ⟨hwritable, hrest⟩
    · rw [Nodes.mapConstants, Nodes.items, hreloaded, hrest', renumberedItems]
      rfl
  | _, _, .gap rest, _, h => by
    obtain ⟨items, hitems, h⟩ := Except.bind_eq_ok_iff.mp h
    obtain rfl := Except.ok.inj h
    obtain ⟨hrest, hrest'⟩ := Nodes.items_reloaded rest hitems
    constructor
    · exact hrest
    · rw [Nodes.mapConstants, Nodes.items, hrest', renumberedItems, Json.renumbered]
      rfl

end

/-- The nodes at the top are written like all others. -/
private theorem Root.toJson_reloaded {r : Root} {j : Json} (h : r.toJson = .ok j) :
    (∀ number ∈ j.numbers, number.Writable) ∧
      (r.mapConstants Constant.reloaded).toJson = .ok j.renumbered := by
  cases r <;> exact Node.toJson_reloaded _ h

/-- The nodes of a sequence. -/
private theorem Root.mapM_toJson_reloaded {rs : List Root} {items : List Json}
    (h : rs.mapM Root.toJson = .ok items) :
    (∀ number ∈ numbersOfItems items, number.Writable) ∧
      (rs.map (Root.mapConstants Constant.reloaded)).mapM Root.toJson =
        .ok (renumberedItems items) := by
  induction rs generalizing items with
  | nil =>
    obtain rfl := Except.ok.inj h
    exact ⟨List.forall_mem_nil _, rfl⟩
  | cons r rest ih =>
    obtain ⟨j, others, hj, hothers, rfl⟩ := mapM_cons_eq_ok_iff.mp h
    obtain ⟨hwritable, hreloaded⟩ := Root.toJson_reloaded hj
    obtain ⟨hrest, hrest'⟩ := ih hothers
    constructor
    · rw [numbersOfItems, List.forall_mem_append]
      exact ⟨hwritable, hrest⟩
    · rw [List.map_cons, mapM_cons_eq_ok_iff]
      exact ⟨_, _, hreloaded, hrest', rfl⟩

/-- The document of a tree has a text, and what is read from it is the document of the tree with the
constants that are read. -/
theorem Tree.toJson_reloaded {t : Tree Root} {j : Json} (h : t.toJson = .ok j) :
    (∀ number ∈ j.numbers, number.Writable) ∧
      (t.mapConstants Constant.reloaded).toJson = .ok j.renumbered := by
  cases t with
  | single r => exact Root.toJson_reloaded h
  | many rs =>
    obtain ⟨items, hitems, rfl⟩ := Except.map_eq_ok_iff.mp h
    obtain ⟨hwritable, hreloaded⟩ := Root.mapM_toJson_reloaded hitems
    refine ⟨hwritable, ?_⟩
    rw [mapConstants, Tree.map, toJson, hreloaded, Json.renumbered]
    rfl

/-! ## Texts -/

/-- A text is read as a tree if it is read as the document of one. -/
theorem Tree.ofJsonText_eq_ok_iff {text : String} {t : Tree Root} :
    Tree.ofJsonText text = .ok t ↔
      ∃ j, Json.read documentDepth text = .ok j ∧ Tree.ofJson j = .ok t := by
  rw [ofJsonText]
  cases Json.read documentDepth text with
  | ok j => simp
  | error fault => simp

private theorem Tree.ofJsonText_of_yields {text : String} {v : Json} {t : Tree Root}
    (hread : Json.Yields (Json.read documentDepth text) (v.nesting ≤ documentDepth) v.reloaded) :
    Tree.ofJsonText text = .ok t ↔
      v.nesting ≤ documentDepth ∧ Tree.ofJson v.reloaded = .ok t := by
  rw [Tree.ofJsonText_eq_ok_iff]
  constructor
  · rintro ⟨v', hv', ht⟩
    obtain ⟨hnesting, rfl⟩ := (hread v').mp hv'
    exact ⟨hnesting, ht⟩
  · rintro ⟨hnesting, ht⟩
    exact ⟨_, (hread _).mpr ⟨hnesting, rfl⟩, ht⟩

/-- The tree that is read from a document on lines of their own. -/
theorem Tree.ofJsonText_pretty_eq_ok_iff {v : Json} {t : Tree Root}
    (hnumbers : ∀ number ∈ v.numbers, number.Writable) :
    Tree.ofJsonText v.pretty = .ok t ↔
      v.nesting ≤ documentDepth ∧ Tree.ofJson v.reloaded = .ok t :=
  Tree.ofJsonText_of_yields (Json.read_pretty documentDepth hnumbers)

/-- The tree that is read from a document on one line. -/
theorem Tree.ofJsonText_compact_eq_ok_iff {v : Json} {t : Tree Root}
    (hnumbers : ∀ number ∈ v.numbers, number.Writable) :
    Tree.ofJsonText v.compact = .ok t ↔
      v.nesting ≤ documentDepth ∧ Tree.ofJson v.reloaded = .ok t :=
  Tree.ofJsonText_of_yields (Json.read_compact documentDepth hnumbers)

section Texts

variable {t : Tree Root} {j : Json} (hnames : t.WellNamed) (h : t.toJson = .ok j)

include hnames h

/-- Names are read as names, and constants as whatever their numerals are read as. -/
theorem Tree.ofJson_reloaded : Tree.ofJson j.reloaded = .ok (t.mapConstants Constant.reloaded) := by
  -- the tree with the constants that are read is valid, so its own document is read as it
  have hvalid := Tree.valid_mapConstants Constant.inRange_reloaded hnames
  obtain ⟨j', hj', hread⟩ := Tree.ofJson_rearrange_toJson Json.orderedMembers
    Json.keepsLookups_orderedMembers _ hvalid
  rw [(Tree.toJson_reloaded h).2] at hj'
  obtain rfl := Except.ok.inj hj'
  exact hread

/-- The tree that is read from the text of a tree on lines of their own, unless it nests too
deeply. -/
theorem Tree.ofJsonText_pretty {t' : Tree Root} :
    Tree.ofJsonText j.pretty = .ok t' ↔
      j.nesting ≤ documentDepth ∧ t' = t.mapConstants Constant.reloaded := by
  rw [Tree.ofJsonText_pretty_eq_ok_iff (Tree.toJson_reloaded h).1, Tree.ofJson_reloaded hnames h,
    Except.ok.injEq, eq_comm (a := t')]

/-- The tree that is read from the text of a tree on one line, unless it nests too deeply. -/
theorem Tree.ofJsonText_compact {t' : Tree Root} :
    Tree.ofJsonText j.compact = .ok t' ↔
      j.nesting ≤ documentDepth ∧ t' = t.mapConstants Constant.reloaded := by
  rw [Tree.ofJsonText_compact_eq_ok_iff (Tree.toJson_reloaded h).1, Tree.ofJson_reloaded hnames h,
    Except.ok.injEq, eq_comm (a := t')]

end Texts

/-- The format of documents succeeds with trees that have one. -/
theorem Format.serialize_json_eq_ok_iff {t : Tree Root} {text : String} :
    Format.json.serialize t = .ok text ↔ ∃ j, t.toJson = .ok j ∧ j.pretty = text := by
  cases hwrite : t.toJson with
  | ok j => simp [json, hwrite]
  | error e => simp [json, hwrite]

end SyntaxDump
