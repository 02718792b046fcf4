import SyntaxDump.Proofs.Json.Members
import SyntaxDump.Proofs.Json.Parts
import SyntaxDump.Proofs.Validity
import SyntaxDump.Yaml.Value

/-!
# What YAML texts are read as

Whatever a text spells, the numbers of the value that is read from it are integers of 64 bits and
finite floats: wider integers are refused or read as floats, and what is not finite becomes null.
Numbers come from scalars only, and collections, tags and aliases pass them on.

## Main statements

- `Yaml.inRange_of_scalarValue`: the value of a scalar;
- `Yaml.inRange_of_read`: the value of a text.
-/

namespace SyntaxDump

/-- The numbers in the value are integers of 64 bits and finite floats. -/
def Json.InRange (j : Json) : Prop := ∀ c ∈ j.numbers, c.InRange

namespace Json

theorem inRange_arr {items : List Json} (h : ∀ j ∈ items, j.InRange) : (arr items).InRange := by
  rw [InRange, numbers, numbersOfItems_eq_flatMap, List.forall_mem_flatMap]
  exact h

theorem inRange_obj {members : List (String × Json)} (h : ∀ m ∈ members, m.2.InRange) :
    (obj members).InRange := by
  rw [InRange, numbers, numbersOfMembers_eq_flatMap, List.forall_mem_flatMap, List.forall_mem_map]
  exact h

end Json

namespace Yaml

/-! ## Scalars -/

private theorem inRange_int {n : Int} (h : IntegerSize.of n = .narrow) : (Json.int n).InRange := by
  have hholds : Width.holds 64 n := by
    rw [IntegerSize.of] at h
    split at h
    · assumption
    · split at h <;> cases h
  rw [Width.holds, Bool.or_eq_true, Width.signed_iff, Width.unsigned_iff] at hholds
  simp only [Width.values, Nat.pow_eq] at hholds
  exact List.forall_mem_singleton.mpr ⟨by omega, by omega⟩

private theorem inRange_floatValue (x : Binary64) : (floatValue x).InRange := by
  rw [floatValue]
  split
  · next h => exact List.forall_mem_singleton.mpr h
  · nofun

private theorem inRange_floatOrText (text : String) : (floatOrText text).InRange := by
  rw [floatOrText]
  split
  · nofun
  · split
    · exact inRange_floatValue _
    · nofun

private theorem inRange_of_untaggedValue {text : String} {isPlain : Bool} {j : Json}
    (h : untaggedValue text isPlain = some j) : j.InRange := by
  rw [untaggedValue] at h
  split at h
  · rw [plainValue] at h
    split at h
    · exact Option.some.inj h ▸ nofun
    split at h
    · exact Option.some.inj h ▸ nofun
    split at h
    · exact Option.some.inj h ▸ inRange_floatOrText text
    -- an integer, of which only a narrow one is kept
    split at h
    · next hsize => exact Option.some.inj h ▸ inRange_int hsize
    · cases h
    · exact Option.some.inj h ▸ inRange_floatOrText text
  · exact Option.some.inj h ▸ nofun

private theorem inRange_of_taggedValue {tag text : String} {j : Json}
    (h : taggedValue tag text = some j) : j.InRange := by
  rw [taggedValue] at h
  split at h
  · obtain ⟨b, -, rfl⟩ := Option.map_eq_some_iff.mp h
    nofun
  split at h
  · rw [taggedInteger] at h
    obtain ⟨n, -, h⟩ := Option.bind_eq_some_iff.mp h
    split at h
    · next hsize => exact Option.some.inj h ▸ inRange_int hsize
    · cases h
  split at h
  · obtain ⟨x, -, rfl⟩ := Option.map_eq_some_iff.mp h
    exact inRange_floatValue x
  split at h
  · split at h
    · exact Option.some.inj h ▸ nofun
    · cases h
  · exact Option.some.inj h ▸ nofun

/-- A tag adds no numbers. -/
private theorem inRange_underTag (tag : Option String) {j : Json} (h : j.InRange) :
    (underTag tag j).InRange := by
  unfold underTag
  split
  · split
    · exact Json.inRange_obj (List.forall_mem_singleton.mpr h)
    · exact h
  · exact h

/-- The value of a scalar is no number outside of the range. -/
theorem inRange_of_scalarValue {tag : Option String} {text : String} {isPlain : Bool} {j : Json}
    (h : scalarValue tag text isPlain = some j) : j.InRange := by
  unfold scalarValue at h
  split at h
  · exact inRange_of_untaggedValue h
  · split at h
    · obtain ⟨j, hj, rfl⟩ := Option.map_eq_some_iff.mp h
      exact inRange_underTag _ (inRange_of_untaggedValue hj)
    · exact inRange_of_taggedValue h

/-! ## Nodes -/

/-- The values that are read are in range. -/
def KeepsRange (value : NodeReader) : Prop :=
  ∀ budget n j rest, value budget n = some (j, rest) → j.InRange

section

variable {value : NodeReader} (hvalue : KeepsRange value)

include hvalue

private theorem inRange_of_itemValues {items : List LinkedNode} {budget rest : Nat}
    {js : List Json} (h : itemValues value budget items = some (js, rest)) :
    ∀ j ∈ js, j.InRange := by
  induction items generalizing budget js rest with
  | nil =>
    obtain ⟨rfl, -⟩ := Prod.mk.inj (Option.some.inj h)
    nofun
  | cons n items ih =>
    obtain ⟨⟨j, budget⟩, hj, h⟩ := Option.bind_eq_some_iff.mp h
    obtain ⟨⟨js, budget⟩, hjs, h⟩ := Option.bind_eq_some_iff.mp h
    obtain ⟨rfl, -⟩ := Prod.mk.inj (Option.some.inj h)
    exact List.forall_mem_cons.mpr ⟨hvalue _ _ _ _ hj, ih hjs⟩

private theorem inRange_of_entryValues {entries : List (LinkedNode × LinkedNode)}
    {keys : List Json} {budget rest : Nat} {ms : List (String × Json)}
    (h : entryValues value budget keys entries = some (ms, rest)) :
    ∀ m ∈ ms, m.2.InRange := by
  induction entries generalizing budget keys ms rest with
  | nil =>
    obtain ⟨rfl, -⟩ := Prod.mk.inj (Option.some.inj h)
    nofun
  | cons e entries ih =>
    obtain ⟨⟨key, budget⟩, -, h⟩ := Option.bind_eq_some_iff.mp h
    obtain ⟨name, -, h⟩ := Option.bind_eq_some_iff.mp h
    split at h
    · cases h
    · obtain ⟨⟨j, budget⟩, hj, h⟩ := Option.bind_eq_some_iff.mp h
      obtain ⟨⟨ms, budget⟩, hms, h⟩ := Option.bind_eq_some_iff.mp h
      obtain ⟨rfl, -⟩ := Prod.mk.inj (Option.some.inj h)
      exact List.forall_mem_cons.mpr ⟨hvalue _ _ _ _ hj, ih hms⟩

end

private theorem keepsRange_directValue {nested : Option NodeReader}
    (hnested : ∀ value ∈ nested, KeepsRange value) : KeepsRange (directValue nested) := by
  intro budget n j rest h
  cases n with
  | scalar anchor tag text isPlain =>
    obtain ⟨j, hj, h⟩ := Option.map_eq_some_iff.mp h
    obtain ⟨rfl, -⟩ := Prod.mk.inj h
    exact inRange_of_scalarValue hj
  | sequence anchor tag items =>
    obtain ⟨value, hvalue, h⟩ := Option.bind_eq_some_iff.mp h
    obtain ⟨⟨js, budget⟩, hjs, h⟩ := Option.bind_eq_some_iff.mp h
    obtain ⟨rfl, -⟩ := Prod.mk.inj (Option.some.inj h)
    exact inRange_underTag tag (Json.inRange_arr (inRange_of_itemValues (hnested value hvalue) hjs))
  | mapping anchor tag entries =>
    obtain ⟨value, hvalue, h⟩ := Option.bind_eq_some_iff.mp h
    obtain ⟨⟨ms, budget⟩, hms, h⟩ := Option.bind_eq_some_iff.mp h
    obtain ⟨rfl, -⟩ := Prod.mk.inj (Option.some.inj h)
    -- members are put in order, which adds none
    have hmembers := inRange_of_entryValues (hnested value hvalue) hms
    exact inRange_underTag tag
      (Json.inRange_obj fun m hm => hmembers m (Json.mem_orderedMembers hm))
  | _ => cases h

private theorem keepsRange_valueWith (anchors : List (Nat × LinkedNode))
    {nested : Option NodeReader} (hnested : ∀ value ∈ nested, KeepsRange value) :
    KeepsRange (valueWith anchors nested) := by
  have hdirect := keepsRange_directValue hnested
  intro budget n j rest h
  unfold valueWith at h
  split at h
  · -- an alias is followed once, to a node that is none
    split at h
    · exact hdirect _ _ _ _ h
    · cases h
  · exact hdirect _ _ _ _ h

/-- The values of nodes are in range. The induction is on the limit, as the reader of items and
entries is the one for the next smaller limit. -/
theorem keepsRange_value (anchors : List (Nat × LinkedNode)) (limit : Nat) :
    KeepsRange (value anchors limit) := by
  induction limit with
  | zero => exact keepsRange_valueWith anchors fun value h => absurd h (Option.not_mem_none value)
  | succ limit ih =>
    exact keepsRange_valueWith anchors fun value h => Option.some.inj h ▸ ih

/-- The numbers of a value that a text is read as are integers of 64 bits and finite floats. -/
theorem inRange_of_read {text : String} {j : Json} (h : read text = some j) : j.InRange := by
  obtain ⟨ts, -, h⟩ := Option.bind_eq_some_iff.mp h
  obtain ⟨n, -, h⟩ := Option.bind_eq_some_iff.mp h
  cases n with
  | none => exact Option.some.inj h ▸ nofun
  | some n =>
    obtain ⟨⟨linked, names⟩, -, h⟩ := Option.bind_eq_some_iff.mp h
    obtain ⟨⟨value, budget⟩, hvalue, h⟩ := Option.bind_eq_some_iff.mp h
    exact Option.some.inj h ▸ keepsRange_value _ _ _ _ _ _ hvalue

end Yaml

end SyntaxDump
