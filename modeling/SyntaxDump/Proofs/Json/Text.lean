import SyntaxDump.Proofs.Json.Members
import SyntaxDump.Proofs.Json.Number
import SyntaxDump.Proofs.Json.Parts
import SyntaxDump.Proofs.Json.Quoted
import SyntaxDump.Proofs.Result
import SyntaxDump.Proofs.Validity

/-!
# JSON text written and read

A value that is written in a layout of blanks is read back, up to two things that text does not
carry: the members of objects come in the order of their keys, and numbers are those that their
numerals are read as. Reading fails if and only if the value nests more deeply than the reader
allows.

## Main statements

- `Json.readValue_write`: reading what was written, with anything after it that ends a numeral;
- `Json.read_pretty`, `Json.read_compact`: the same for whole texts.
-/

namespace SyntaxDump

/-- Numbers that have a text: integers of 128 bits, with a sign or without, and finite floats. -/
def Constant.Writable : Constant → Prop
  | .int n => Width.holds 128 n
  | .float x => x.isFinite
  | _ => True

namespace Json

/-! ## What numbers are read as -/

/-- The value that a text by itself is read as. -/
def reread (text : List Char) : Json :=
  match readValue 0 text with
  | .ok (j, _) => j
  | .error _ => .null

theorem ReadsAs.reread_eq {text : List Char} {j : Json} (h : ReadsAs text j) : reread text = j := by
  have hread := h.read none [] endsNumeral_nil
  rw [List.append_nil] at hread
  rw [reread, readValue, hread]

mutual

/-- The value with every number replaced by the one that its text is read as. -/
def renumbered : Json → Json
  | .int n => reread (writeInt n)
  | .float x => reread (writeFloat x)
  | .arr items => .arr (renumberedItems items)
  | .obj members => .obj (renumberedMembers members)
  | .null => .null
  | .bool b => .bool b
  | .str s => .str s

/-- The items of an array with their numbers replaced. -/
def renumberedItems : List Json → List Json
  | [] => []
  | j :: rest => renumbered j :: renumberedItems rest

/-- The members of an object with the numbers in their values replaced. -/
def renumberedMembers : List (String × Json) → List (String × Json)
  | [] => []
  | (key, j) :: rest => (key, renumbered j) :: renumberedMembers rest

end

/-- The value that is read from the text of a value. -/
def reloaded (j : Json) : Json := j.renumbered.ordered

/-- The integers that have a text. -/
private theorem natAbs_lt_of_writable {n : ℤ} (h : (Constant.int n).Writable) :
    n.natAbs < 2 ^ 128 := by
  rw [Constant.Writable, Width.holds, Bool.or_eq_true, Width.signed_iff, Width.unsigned_iff] at h
  simp only [Width.values, Nat.pow_eq] at h
  omega

/-- The text of an integer is read as the integer or as a finite float. -/
theorem readsAs_int {n : ℤ} (h : (Constant.int n).Writable) :
    ReadsAs (writeInt n) (.int n) ∧ (Constant.int n).InRange ∨
      ∃ x : Binary64, x.isFinite ∧ ReadsAs (writeInt n) (.float x) := by
  by_cases hrange : -2 ^ 63 ≤ n ∧ n < 2 ^ 64
  · exact .inl ⟨readsAs_writeInt hrange.1 hrange.2, hrange⟩
  · exact .inr (readsAs_writeInt_float hrange (natAbs_lt_of_writable h))

/-- Numbers are read, and as numbers. -/
private theorem readsAs_reloaded_int {n : ℤ} (h : (Constant.int n).Writable) :
    ReadsAs (writeInt n) (Json.int n).reloaded := by
  rcases readsAs_int h with ⟨hread, -⟩ | ⟨x, -, hread⟩
  all_goals
    rw [reloaded, renumbered, hread.reread_eq]
    exact hread

private theorem readsAs_reloaded_float {x : Binary64} (h : x.isFinite) :
    ReadsAs (writeFloat x) (Json.float x).reloaded := by
  obtain ⟨y, -, hread⟩ := readsAs_writeFloat h
  rw [reloaded, renumbered, hread.reread_eq]
  exact hread

/-! ## Readings with a known outcome -/

/-- A reading succeeds exactly under a condition, and then with a known result. -/
def Yields {α : Type} (x : Except Fault α) (condition : Prop) (a : α) : Prop :=
  ∀ b, x = .ok b ↔ condition ∧ b = a

section Yields

variable {α β γ : Type} {p q : Prop} {a : α} {b : β} {more tail : List Char}

private theorem Yields.ok : Yields (.ok a) True a := by
  intro b
  rw [true_and]
  exact ⟨fun h => (Except.ok.inj h).symm, fun h => congrArg _ h.symm⟩

private theorem Yields.fault {fault : Fault} : Yields (.error fault) False a :=
  fun _ => ⟨nofun, fun h => h.1.elim⟩

/-- One step after another. -/
private theorem Yields.bind {x : Except Fault α} (hx : Yields x p a) {next : α → Except Fault β}
    (hnext : Yields (next a) q b) : Yields (x >>= next) (p ∧ q) b := by
  intro b'
  rw [Except.bind_eq_ok_iff, and_assoc, ← hnext]
  constructor
  · rintro ⟨a', ha', h⟩
    obtain ⟨hp, rfl⟩ := (hx a').mp ha'
    exact ⟨hp, h⟩
  · rintro ⟨hp, h⟩
    exact ⟨a, (hx a).mpr ⟨hp, rfl⟩, h⟩

private theorem Yields.of_iff {x : Except Fault α} (hx : Yields x p a) (h : p ↔ q) :
    Yields x q a :=
  fun b => by rw [hx b, h]

/-- A reading whose result is changed. -/
private theorem Yields.map {first : Except Fault (α × List Char)}
    (hfirst : Yields first p (a, more)) (make : α → γ) :
    Yields (first >>= fun (a, rest) => pure (make a, rest)) p (make a, more) := by
  have hstep : Yields (first >>= fun (a, rest) => pure (make a, rest)) (p ∧ True) (make a, more) :=
    hfirst.bind .ok
  exact hstep.of_iff (by rw [and_true])

/-- Two readings, one after the other. -/
private theorem Yields.both {first : Except Fault (α × List Char)}
    (hfirst : Yields first p (a, more)) (next : Reader β) (hnext : Yields (next more) q (b, tail))
    (make : α → β → γ) :
    Yields (first >>= fun (a, rest) => next rest >>= fun (b, rest) => pure (make a b, rest)) (p ∧ q)
      (make a b, tail) :=
  hfirst.bind (hnext.map (make a))

end Yields

/-! ## Blanks -/

/-- A layout consists of blanks. -/
structure Layout.Blank (layout : Layout) : Prop where
  gap : ∀ level, ∀ c ∈ layout.gap level, isBlank c
  afterColon : ∀ c ∈ layout.afterColon, isBlank c

theorem Layout.blank_compact : compact.Blank := ⟨fun _ => nofun, nofun⟩

theorem Layout.blank_pretty : pretty.Blank where
  gap level c hc := by
    rcases List.mem_cons.mp hc with rfl | hc
    · rfl
    · rw [List.eq_of_mem_replicate hc]
      rfl
  afterColon := List.forall_mem_singleton.mpr rfl

section Blanks

variable {blanks : List Char} (hblanks : ∀ c ∈ blanks, isBlank c)

include hblanks in
/-- Blanks are passed over. -/
private theorem skipBlanks_append (cs : List Char) :
    skipBlanks (blanks ++ cs) = skipBlanks cs :=
  List.dropWhile_append_of_pos hblanks

/-- Nothing else is. -/
private theorem skipBlanks_cons {c : Char} (hc : isBlank c = false) (cs : List Char) :
    skipBlanks (c :: cs) = c :: cs := by
  rw [skipBlanks, List.dropWhile_cons, if_neg (by simp [hc])]

include hblanks in
/-- Blanks before a value are passed over. -/
private theorem readValue_append (limit : Nat) (cs : List Char) :
    readValue limit (blanks ++ cs) = readValue limit cs := by
  cases limit <;> rw [readValue, readWith, skipBlanks_append hblanks] <;> rfl

include hblanks in
/-- A blank ends a numeral. -/
private theorem EndsNumeral.append {cs : List Char} (h : EndsNumeral cs) :
    EndsNumeral (blanks ++ cs) := by
  cases blanks with
  | nil => exact h
  | cons c blanks =>
    intro c' hc'
    obtain rfl := Option.some.inj hc'
    have hc := hblanks c List.mem_cons_self
    simp only [isBlank, Bool.or_eq_true, beq_iff_eq] at hc
    rcases hc with ((rfl | rfl) | rfl) | rfl <;> decide

/-- So does a mark of the syntax. -/
private theorem endsNumeral_cons {c : Char} (hc : c ∈ [',', ']', '\x7d']) (cs : List Char) :
    EndsNumeral (c :: cs) := by
  intro c' hc'
  obtain rfl := Option.some.inj hc'
  simp only [List.mem_cons, List.not_mem_nil, or_false] at hc
  rcases hc with rfl | rfl | rfl <;> decide

/-! ## Items and members -/

section Items

variable {item : Reader Json} {text more tail : List Char} {p q : Prop} {j : Json}
  {items : List Json} {rounds : Nat}

include hblanks in
private theorem yields_readItems (hhead : ∃ c cs, text = c :: cs ∧ isBlank c = false ∧ c ≠ ']')
    (hitem : Yields (item (text ++ more)) p (j, more))
    (hmore : Yields (readMoreItems item (more.length + 1) more) q (items, tail)) :
    Yields (readItems item (blanks ++ (text ++ more))) (p ∧ q) (j :: items, tail) := by
  obtain ⟨c, cs, rfl, hblank, hclose⟩ := hhead
  rw [readItems, skipBlanks_append hblanks, List.cons_append, skipBlanks_cons hblank]
  split
  · next heq => cases heq
  · next heq => exact absurd (List.cons.inj heq).1 hclose
  · exact hitem.both (fun rest => readMoreItems item (rest.length + 1) rest) hmore List.cons

include hblanks in
private theorem yields_readMoreItems_nil :
    Yields (readMoreItems item (rounds + 1) (blanks ++ ']' :: tail)) True ([], tail) := by
  rw [readMoreItems, skipBlanks_append hblanks, skipBlanks_cons rfl]
  exact .ok

include hblanks in
private theorem yields_readMoreItems_cons
    (hhead : ∃ c cs, text = c :: cs ∧ isBlank c = false ∧ c ≠ ']')
    (hitem : Yields (item (text ++ more)) p (j, more))
    (hmore : Yields (readMoreItems item rounds more) q (items, tail)) :
    Yields (readMoreItems item (rounds + 1) (',' :: (blanks ++ (text ++ more)))) (p ∧ q)
      (j :: items, tail) := by
  obtain ⟨c, cs, rfl, hblank, hclose⟩ := hhead
  have hskip : skipBlanks (blanks ++ (c :: cs ++ more)) = c :: (cs ++ more) := by
    rw [skipBlanks_append hblanks, List.cons_append, skipBlanks_cons hblank]
  rw [readMoreItems, skipBlanks_cons rfl]
  simp only [hskip]
  split
  · next heq => cases heq
  · next heq => exact absurd (List.cons.inj heq).1 hclose
  · exact hitem.both (readMoreItems item rounds) hmore List.cons

end Items

section Members

variable {item : Reader Json} {key : String} {value more tail : List Char} {p q : Prop} {j : Json}
  {members : List (String × Json)} {rounds : Nat}

/-- A member after the opening quote of its key. -/
private theorem yields_readMember (hvalue : Yields (item value) p (j, more)) :
    Yields (readMember item (key.toList.flatMap escapeChar ++ '\x22' :: ':' :: value)) p
      ((key, j), more) := by
  rw [readMember, readCharacters_writeString]
  exact hvalue.map (key, ·)

include hblanks in
private theorem yields_readMembers (key : String)
    (hvalue : Yields (item value) p (j, more))
    (hmore : Yields (readMoreMembers item (more.length + 1) more) q (members, tail)) :
    Yields (readMembers item (blanks ++ (writeString key ++ ':' :: value))) (p ∧ q)
      ((key, j) :: members, tail) := by
  rw [readMembers, skipBlanks_append hblanks, writeString, List.cons_append, skipBlanks_cons rfl,
    List.append_assoc]
  exact (yields_readMember hvalue).both
    (fun rest => readMoreMembers item (rest.length + 1) rest) hmore List.cons

include hblanks in
private theorem yields_readMoreMembers_nil :
    Yields (readMoreMembers item (rounds + 1) (blanks ++ '\x7d' :: tail)) True ([], tail) := by
  rw [readMoreMembers, skipBlanks_append hblanks, skipBlanks_cons rfl]
  exact .ok

include hblanks in
private theorem yields_readMoreMembers_cons
    (hvalue : Yields (item value) p (j, more))
    (hmore : Yields (readMoreMembers item rounds more) q (members, tail)) :
    Yields (readMoreMembers item (rounds + 1)
      (',' :: (blanks ++ (writeString key ++ ':' :: value)))) (p ∧ q)
      ((key, j) :: members, tail) := by
  have hskip : skipBlanks (blanks ++ (writeString key ++ ':' :: value)) =
      '\x22' :: (key.toList.flatMap escapeChar ++ '\x22' :: ':' :: value) := by
    rw [skipBlanks_append hblanks, writeString, List.cons_append, skipBlanks_cons rfl,
      List.append_assoc]
    rfl
  rw [readMoreMembers, skipBlanks_cons rfl]
  simp only [hskip]
  exact (yields_readMember hvalue).both (readMoreMembers item rounds) hmore List.cons

end Members

end Blanks

/-! ## Values -/

variable {layout : Layout}

/-- What is read of a scalar does not depend on how deep values may nest. -/
private theorem readsAs_write (level : Nat) : (j : Json) → (∀ c ∈ j.numbers, c.Writable) →
    j.nesting = 0 → ReadsAs (write layout level j) j.reloaded
  | .null, _, _ => by
    rw [write]
    exact ⟨⟨'n', _, rfl, rfl, by decide⟩, fun _ _ _ => rfl⟩
  | .bool true, _, _ => by
    rw [write]
    exact ⟨⟨'t', _, rfl, rfl, by decide⟩, fun _ _ _ => rfl⟩
  | .bool false, _, _ => by
    rw [write]
    exact ⟨⟨'f', _, rfl, rfl, by decide⟩, fun _ _ _ => rfl⟩
  | .int n, h, _ => by
    rw [write]
    exact readsAs_reloaded_int (h _ List.mem_cons_self)
  | .float x, h, _ => by
    rw [write]
    exact readsAs_reloaded_float (h _ List.mem_cons_self)
  | .str s, _, _ => by
    rw [write, writeString]
    refine ⟨⟨'\x22', _, rfl, rfl, by decide⟩, fun nested rest _ => ?_⟩
    have hstring := readCharacters_writeString s rest
    rw [List.cons_append, List.append_assoc, List.singleton_append, readWith, skipBlanks_cons rfl]
    simp only [hstring]
    rfl
  | .arr _, _, h | .obj _, _, h => by
    rw [nesting] at h
    cases h

/-- The text of a value begins with no blank, and not like the end of an array. -/
private theorem write_head (level : Nat) : (j : Json) → (∀ c ∈ j.numbers, c.Writable) →
    ∃ c cs, write layout level j = c :: cs ∧ isBlank c = false ∧ c ≠ ']'
  | .null, h | .bool _, h | .int _, h | .float _, h | .str _, h =>
    (readsAs_write level _ h rfl).head
  | .arr [], _ => ⟨'[', _, by rw [write], rfl, by decide⟩
  | .arr (_ :: _), _ => ⟨'[', _, by rw [write], rfl, by decide⟩
  | .obj [], _ => ⟨'\x7b', _, by rw [write], rfl, by decide⟩
  | .obj ((_, _) :: _), _ => ⟨'\x7b', _, by rw [write], rfl, by decide⟩

private theorem yields_of_readsAs {text rest : List Char} {j j' : Json} (h : ReadsAs text j')
    (hj : j.nesting = 0) (limit : Nat) (hrest : EndsNumeral rest) :
    Yields (readValue limit (text ++ rest)) (j.nesting ≤ limit) (j', rest) := by
  have hread : readValue limit (text ++ rest) = .ok (j', rest) := by
    cases limit <;> exact h.read _ rest hrest
  rw [hread]
  exact Yields.ok.of_iff (by simp [hj])

/-- After a value comes a mark of the syntax, with or without blanks before it. -/
private theorem endsNumeral_writeItems {blanks : List Char} (hblanks : ∀ c ∈ blanks, isBlank c)
    (layout : Layout) (level : Nat)
    (items : List Json) (rest : List Char) :
    EndsNumeral (writeItems layout level items ++ (blanks ++ ']' :: rest)) := by
  cases items with
  | nil => exact (endsNumeral_cons (by simp) rest).append hblanks
  | cons j items => exact endsNumeral_cons (by simp) _

private theorem endsNumeral_writeMembers {blanks : List Char} (hblanks : ∀ c ∈ blanks, isBlank c)
    (layout : Layout) (level : Nat)
    (members : List (String × Json)) (rest : List Char) :
    EndsNumeral (writeMembers layout level members ++ (blanks ++ '\x7d' :: rest)) := by
  cases members with
  | nil => exact (endsNumeral_cons (by simp) rest).append hblanks
  | cons m members => exact endsNumeral_cons (by simp) _

/-- Every item takes at least one character, so the characters are rounds enough to read them. -/
private theorem length_lt_length_writeItems (layout : Layout) (level : Nat) (items : List Json)
    (rest : List Char) : items.length < (writeItems layout level items ++ rest).length + 1 := by
  induction items with
  | nil => exact Nat.succ_pos _
  | cons j items ih =>
    rw [List.length_append] at ih
    rw [writeItems, List.length_append, List.length_cons, List.length_cons, List.length_append]
    omega

private theorem length_lt_length_writeMembers (layout : Layout) (level : Nat)
    (members : List (String × Json)) (rest : List Char) :
    members.length < (writeMembers layout level members ++ rest).length + 1 := by
  induction members with
  | nil => exact Nat.succ_pos _
  | cons m members ih =>
    obtain ⟨key, j⟩ := m
    rw [List.length_append] at ih
    rw [writeMembers, List.length_append, List.length_cons, List.length_cons, List.length_append]
    omega

/-- The text of an array: the first item, the others, and the end. -/
theorem write_arr_cons (layout : Layout) (level : Nat) (j : Json) (items : List Json)
    (rest : List Char) :
    write layout level (.arr (j :: items)) ++ rest =
      '[' :: (layout.gap (level + 1) ++ (write layout (level + 1) j ++
        (writeItems layout (level + 1) items ++ (layout.gap level ++ ']' :: rest)))) := by
  simp [write]

/-- The text of an object: the first key and its value, the others, and the end. -/
theorem write_obj_cons (layout : Layout) (level : Nat) (key : String) (j : Json)
    (members : List (String × Json)) (rest : List Char) :
    write layout level (.obj ((key, j) :: members)) ++ rest =
      '\x7b' :: (layout.gap (level + 1) ++ (writeString key ++ ':' :: (layout.afterColon ++
        (write layout (level + 1) j ++ (writeMembers layout (level + 1) members ++
          (layout.gap level ++ '\x7d' :: rest)))))) := by
  simp [write]

mutual

/-- A value is read from its text, whatever follows that ends a numeral, unless it nests too
deeply. -/
theorem readValue_write (hlayout : layout.Blank) (level limit : Nat) {rest : List Char}
    (hrest : EndsNumeral rest) : (j : Json) → (∀ c ∈ j.numbers, c.Writable) →
    Yields (readValue limit (write layout level j ++ rest)) (j.nesting ≤ limit) (j.reloaded, rest)
  | .null, h | .bool _, h | .int _, h | .float _, h | .str _, h =>
    yields_of_readsAs (readsAs_write level _ h rfl) rfl limit hrest
  | .arr [], _ => by
    cases limit with
    | zero => exact Yields.fault.of_iff (by simp [nesting])
    | succ limit => exact Yields.ok.of_iff (by simp [nesting, nestingOfItems])
  | .arr (j :: items), h => by
    rw [numbers, numbersOfItems, List.forall_mem_append] at h
    cases limit with
    | zero =>
      rw [write]
      exact Yields.fault.of_iff (by simp [nesting])
    | succ limit =>
      have hblanks := hlayout.gap level
      have hitem := readValue_write hlayout (level + 1) limit
        (endsNumeral_writeItems hblanks layout (level + 1) items rest) j h.1
      have hmore := readMoreItems_write hlayout (level + 1) limit hblanks rest items h.2 _
        (length_lt_length_writeItems layout (level + 1) items (layout.gap level ++ ']' :: rest))
      have hread := yields_readItems (hlayout.gap (level + 1)) (write_head (level + 1) j h.1) hitem
        hmore
      rw [write_arr_cons]
      -- one level of the limit is for the array itself, the others are for its items
      exact (hread.map Json.arr).of_iff (by
        rw [nesting, nestingOfItems, Nat.succ_le_succ_iff, Nat.max_le])
  | .obj [], _ => by
    cases limit with
    | zero => exact Yields.fault.of_iff (by simp [nesting])
    | succ limit => exact Yields.ok.of_iff (by simp [nesting, nestingOfMembers])
  | .obj ((key, j) :: members), h => by
    rw [numbers, numbersOfMembers, List.forall_mem_append] at h
    cases limit with
    | zero =>
      rw [write]
      exact Yields.fault.of_iff (by simp [nesting])
    | succ limit =>
      have hblanks := hlayout.gap level
      have hvalue := readValue_write hlayout (level + 1) limit
        (endsNumeral_writeMembers hblanks layout (level + 1) members rest) j h.1
      -- the value is read after the colon, so the blank there belongs to its text
      rw [← readValue_append hlayout.afterColon] at hvalue
      have hmore := readMoreMembers_write hlayout (level + 1) limit hblanks rest members h.2 _
        (length_lt_length_writeMembers layout (level + 1) members
          (layout.gap level ++ '\x7d' :: rest))
      have hread := yields_readMembers (hlayout.gap (level + 1)) key hvalue hmore
      rw [write_obj_cons]
      -- the members are put in order after they have been read
      exact (hread.map fun members => Json.obj (orderedMembers members)).of_iff (by
        rw [nesting, nestingOfMembers, Nat.succ_le_succ_iff, Nat.max_le])

/-- The items of an array after the first. -/
theorem readMoreItems_write (hlayout : layout.Blank) (level limit : Nat) {blanks : List Char}
    (hblanks : ∀ c ∈ blanks, isBlank c) (rest : List Char) : (items : List Json) →
    (∀ c ∈ numbersOfItems items, c.Writable) → (rounds : Nat) → items.length < rounds →
    Yields
      (readMoreItems (readValue limit) rounds
        (writeItems layout level items ++ (blanks ++ ']' :: rest)))
      (nestingOfItems items ≤ limit)
      (rearrangeItems orderedMembers (renumberedItems items), rest)
  | _, _, 0, hrounds => absurd hrounds (Nat.not_lt_zero _)
  | [], _, rounds + 1, _ =>
    (yields_readMoreItems_nil hblanks).of_iff (by simp [nestingOfItems])
  | j :: items, h, rounds + 1, hrounds => by
    rw [numbersOfItems, List.forall_mem_append] at h
    have hitem := readValue_write hlayout level limit
      (endsNumeral_writeItems hblanks layout level items rest) j h.1
    have hmore := readMoreItems_write hlayout level limit hblanks rest items h.2 rounds
      (Nat.lt_of_succ_lt_succ hrounds)
    rw [writeItems, List.cons_append, List.append_assoc, List.append_assoc]
    have hread := yields_readMoreItems_cons (hlayout.gap level) (write_head level j h.1) hitem hmore
    exact hread.of_iff (by rw [nestingOfItems, Nat.max_le])

/-- The members of an object after the first. -/
theorem readMoreMembers_write (hlayout : layout.Blank) (level limit : Nat) {blanks : List Char}
    (hblanks : ∀ c ∈ blanks, isBlank c) (rest : List Char) : (members : List (String × Json)) →
    (∀ c ∈ numbersOfMembers members, c.Writable) → (rounds : Nat) → members.length < rounds →
    Yields
      (readMoreMembers (readValue limit) rounds
        (writeMembers layout level members ++ (blanks ++ '\x7d' :: rest)))
      (nestingOfMembers members ≤ limit)
      (rearrangeMembers orderedMembers (renumberedMembers members), rest)
  | _, _, 0, hrounds => absurd hrounds (Nat.not_lt_zero _)
  | [], _, rounds + 1, _ =>
    (yields_readMoreMembers_nil hblanks).of_iff (by simp [nestingOfMembers])
  | (key, j) :: members, h, rounds + 1, hrounds => by
    rw [numbersOfMembers, List.forall_mem_append] at h
    have hvalue := readValue_write hlayout level limit
      (endsNumeral_writeMembers hblanks layout level members rest) j h.1
    rw [← readValue_append hlayout.afterColon] at hvalue
    have hmore := readMoreMembers_write hlayout level limit hblanks rest members h.2 rounds
      (Nat.lt_of_succ_lt_succ hrounds)
    have htext : writeMembers layout level ((key, j) :: members) ++ (blanks ++ '\x7d' :: rest) =
        ',' :: (layout.gap level ++ (writeString key ++ ':' :: (layout.afterColon ++
          (write layout level j ++
            (writeMembers layout level members ++ (blanks ++ '\x7d' :: rest)))))) := by
      simp [writeMembers]
    rw [htext]
    exact (yields_readMoreMembers_cons (hlayout.gap level) hvalue hmore).of_iff
      (by rw [nestingOfMembers, Nat.max_le])

end

/-! ## Texts -/

/-- A text that holds nothing but a value is read as a whole. -/
private theorem yields_read (hlayout : layout.Blank) (limit : Nat) {j : Json}
    (h : ∀ c ∈ j.numbers, c.Writable) :
    Yields (read limit (String.ofList (write layout 0 j))) (j.nesting ≤ limit) j.reloaded := by
  have hread := readValue_write hlayout 0 limit endsNumeral_nil j h
  rw [List.append_nil] at hread
  rw [read, String.toList_ofList]
  -- no text is left over
  refine Yields.of_iff (hread.bind (q := True) ?_) (by rw [and_true])
  exact .ok

/-- Text on lines of their own is read back, unless the value nests too deeply. -/
theorem read_pretty (limit : Nat) {j : Json} (h : ∀ c ∈ j.numbers, c.Writable) :
    Yields (read limit j.pretty) (j.nesting ≤ limit) j.reloaded :=
  yields_read Layout.blank_pretty limit h

/-- Text on one line is read back, unless the value nests too deeply. -/
theorem read_compact (limit : Nat) {j : Json} (h : ∀ c ∈ j.numbers, c.Writable) :
    Yields (read limit j.compact) (j.nesting ≤ limit) j.reloaded :=
  yields_read Layout.blank_compact limit h

end Json

end SyntaxDump
