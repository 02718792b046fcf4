import SyntaxDump.Build
import SyntaxDump.Proofs.Document.Nesting
import SyntaxDump.Proofs.Document.Reread
import SyntaxDump.Proofs.Dump.Scalar

/-!
# Saving and loading again

A tree is saved as the text of its document and loaded from it. Without floats, within the range of
documents and not nested too deeply, it comes back. In general it does not: constants beyond the
range come back as other constants, without a fault on either side, and a document at the limit of
nesting that leaves out what the writer spells out is saved as a text that the reader refuses.

## Main statements

- `Tree.ofJsonText_serialize_of_valid`: which trees come back, in either layout;
- `Tree.eq_mapConstants_of_reload`: what comes back if anything does, and when it is the same tree;
- `Tree.reload_iff_of_ofJsonText`: when a tree that was loaded can be saved and loaded again.
-/

namespace SyntaxDump

/-! ## Trees that come back -/

/-- A valid tree without floats whose document encloses at most 127 arrays and objects in one
another is saved, and loaded again from the text of either layout. -/
theorem Tree.ofJsonText_serialize_of_valid {t : Tree Root} (hvalid : t.Valid)
    (hfloats : ∀ n ∈ t.subtrees, ∀ c ∈ n.constants, c.isFloat = false)
    (hnesting : ∀ j, t.toJson = .ok j → j.nesting ≤ 127) :
    ∃ j, t.toJson = .ok j ∧ Format.json.serialize t = .ok j.pretty ∧
      Tree.ofJsonText j.pretty = .ok t ∧ Tree.ofJsonText j.compact = .ok t := by
  obtain ⟨j, hwrite, -⟩ := Tree.ofJson_rearrange_toJson id Json.keepsLookups_id t hvalid
  -- every constant is read as itself, so the whole tree is
  have hsame : t = t.mapConstants Constant.reloaded := by
    rw [eq_comm, Tree.mapConstants_eq_self_iff]
    intro n hn c hc
    rw [Constant.reloaded_eq_self_iff]
    refine ⟨(hvalid n hn).constants c hc, ?_⟩
    rintro x rfl
    cases hfloats n hn _ hc
  refine ⟨j, hwrite, Format.serialize_json_eq_ok_iff.mpr ⟨j, hwrite, rfl⟩, ?_, ?_⟩
  · exact (Tree.ofJsonText_pretty hvalid.wellNamed hwrite).mpr ⟨hnesting j hwrite, hsame⟩
  · exact (Tree.ofJsonText_compact hvalid.wellNamed hwrite).mpr ⟨hnesting j hwrite, hsame⟩

/-- A sequence with names, the least integer, and a text with a quotation mark and a line break. -/
theorem Tree.ofJsonText_serialize_sequence :
    let t : Tree Root := .many
      [.stmt (Stmt.globalNames ["x", "y"]), .expr (Expr.constant (.int (-2 ^ 63))),
        .expr (Expr.constant (.str "\"\n"))]
    t.Valid ∧ (∀ n ∈ t.subtrees, ∀ c ∈ n.constants, c.isFloat = false) ∧
      (∀ j, t.toJson = .ok j → j.nesting ≤ 127) ∧
      ∃ j, t.toJson = .ok j ∧ Format.json.serialize t = .ok j.pretty ∧
        Tree.ofJsonText j.pretty = .ok t ∧ Tree.ofJsonText j.compact = .ok t := by
  intro t
  have hvalid : t.Valid := by decide +kernel
  have hfloats : ∀ n ∈ t.subtrees, ∀ c ∈ n.constants, c.isFloat = false := by decide +kernel
  have hnesting : ∀ j, t.toJson = .ok j → j.nesting ≤ 127 := by
    intro j h
    obtain rfl := Except.ok.inj h
    decide
  exact ⟨hvalid, hfloats, hnesting, Tree.ofJsonText_serialize_of_valid hvalid hfloats hnesting⟩

/-! ## Trees that come back changed -/

/-- If a tree whose names are names is saved and loaded again, then what comes back is the tree with
its constants read anew. It is the same tree exactly when each integer has 64 bits, with a sign or
without, and each float is finite and one that the reader rounds to itself. -/
theorem Tree.eq_mapConstants_of_reload {t t' : Tree Root} {text : String} (hnames : t.WellNamed)
    (hsave : Format.json.serialize t = .ok text) (hload : Tree.ofJsonText text = .ok t') :
    t' = t.mapConstants Constant.reloaded ∧
      (t' = t ↔ ∀ n ∈ t.subtrees, ∀ c ∈ n.constants,
        c.InRange ∧ ∀ x, c = .float x → Json.reread (Json.writeFloat x) = .float x) := by
  obtain ⟨j, hwrite, rfl⟩ := Format.serialize_json_eq_ok_iff.mp hsave
  obtain ⟨-, rfl⟩ := (Tree.ofJsonText_pretty hnames hwrite).mp hload
  refine ⟨rfl, ?_⟩
  rw [Tree.mapConstants_eq_self_iff]
  simp only [Constant.reloaded_eq_self_iff]

/-- The least integer beyond 64 bits. -/
private def wideInteger : Tree Root := .single (.expr (Expr.constant (.int (2 ^ 64))))

/-- The float of the same value. -/
private def wideFloat : Tree Root := .single (.expr (Expr.constant (.float ⟨0x43F0000000000000⟩)))

private theorem wideInteger_wellNamed : wideInteger.WellNamed := by decide +kernel

private theorem wideInteger_reload :
    ∃ text, Format.json.serialize wideInteger = .ok text ∧
      Tree.ofJsonText text = .ok wideFloat := by
  have hwrite : wideInteger.toJson =
      .ok (.obj [("_type", .str "Constant"), ("value", .int (2 ^ 64))]) := rfl
  have hconstant : Constant.reloaded (.int (2 ^ 64)) = .float ⟨0x43F0000000000000⟩ := by
    decide +kernel
  have hfloat : wideFloat = wideInteger.mapConstants Constant.reloaded := by
    rw [wideFloat, ← hconstant]
    rfl
  refine ⟨_, Format.serialize_json_eq_ok_iff.mpr ⟨_, hwrite, rfl⟩, ?_⟩
  exact (Tree.ofJsonText_pretty wideInteger_wellNamed hwrite).mpr ⟨by decide, hfloat⟩

/-- The least integer beyond 64 bits comes back as a float, as it is not within the range. -/
theorem Tree.eq_mapConstants_of_reload_wideInteger :
    let t : Tree Root := .single (.expr (Expr.constant (.int (2 ^ 64))))
    let t' : Tree Root := .single (.expr (Expr.constant (.float ⟨0x43F0000000000000⟩)))
    t.WellNamed ∧ ∃ text, Format.json.serialize t = .ok text ∧ Tree.ofJsonText text = .ok t' ∧
      t' = t.mapConstants Constant.reloaded ∧
      (t' = t ↔ ∀ n ∈ t.subtrees, ∀ c ∈ n.constants,
        c.InRange ∧ ∀ x, c = .float x → Json.reread (Json.writeFloat x) = .float x) := by
  intro t t'
  obtain ⟨text, hsave, hload⟩ := wideInteger_reload
  exact ⟨wideInteger_wellNamed, text, hsave, hload,
    Tree.eq_mapConstants_of_reload wideInteger_wellNamed hsave hload⟩

/-- A tree whose names are names and that holds no float can be saved and come back as another
one. -/
theorem Tree.wideInteger_reload_ne :
    let t : Tree Root := .single (.expr (Expr.constant (.int (2 ^ 64))))
    t.WellNamed ∧ (∀ n ∈ t.subtrees, ∀ c ∈ n.constants, c.isFloat = false) ∧
      ∃ text t', Format.json.serialize t = .ok text ∧ Tree.ofJsonText text = .ok t' ∧ t' ≠ t := by
  intro t
  obtain ⟨text, hsave, hload⟩ := wideInteger_reload
  have hfloats : ∀ n ∈ t.subtrees, ∀ c ∈ n.constants, c.isFloat = false := by decide +kernel
  refine ⟨wideInteger_wellNamed, hfloats, text, wideFloat, hsave, hload, ?_⟩
  -- the tree that comes back does hold a float
  intro heq
  have hnone : ∀ n ∈ wideFloat.subtrees, ∀ c ∈ n.constants, c.isFloat = false := heq ▸ hfloats
  revert hnone
  decide +kernel

/-! ## Documents at the limit of nesting -/

/-- If a tree was loaded from a text, then saving it succeeds, its document nests at most one level
deeper than the one in the text, and exactly if it encloses at most 127 arrays and objects in one
another is it loaded again. -/
theorem Tree.reload_iff_of_ofJsonText {text : String} {t : Tree Root}
    (h : Tree.ofJsonText text = .ok t) :
    ∃ v j, Json.read 127 text = .ok v ∧ t.toJson = .ok j ∧ Format.json.serialize t = .ok j.pretty ∧
      j.nesting ≤ v.nesting + 1 ∧
      ∀ t', Tree.ofJsonText j.pretty = .ok t' ↔
        j.nesting ≤ 127 ∧ t' = t.mapConstants Constant.reloaded := by
  obtain ⟨v, hread, hload⟩ := Tree.ofJsonText_eq_ok_iff.mp h
  have hnumbers := (Json.readable_of_read hread).numbers
  have hvalid : t.Valid := fun n hn =>
    (AnyNode.valid_iff n).mpr (Tree.loaded_of_ofJson hnumbers hload n hn).scalars
  obtain ⟨j, hwrite, -⟩ := Tree.ofJson_rearrange_toJson id Json.keepsLookups_id t hvalid
  have hsave := Format.serialize_json_eq_ok_iff.mpr ⟨j, hwrite, rfl⟩
  have hnesting := Tree.nesting_le_of_ofJson hload hwrite
  exact ⟨v, j, hread, hwrite, hsave, hnesting,
    fun t' => Tree.ofJsonText_pretty hvalid.wellNamed hwrite⟩

/-- A document of awaited expressions, one inside the other, around a name without a context. -/
def Json.awaits : Nat → Json
  | 0 => .obj [("_type", .str "Name"), ("id", .str "x")]
  | n + 1 => .obj [("_type", .str "Await"), ("value", awaits n)]

/-- Awaited expressions, one inside the other, around a name. -/
def Expr.awaits : Nat → Expr
  | 0 => Expr.name "x"
  | n + 1 => Expr.await (awaits n)

namespace Json

private theorem nesting_awaits (n : Nat) : (awaits n).nesting = n + 1 := by
  induction n with
  | zero => rfl
  | succ n ih => simp [awaits, nesting, nestingOfMembers, ih]

private theorem numbers_awaits (n : Nat) : (awaits n).numbers = [] := by
  induction n with
  | zero => rfl
  | succ n ih => simp [awaits, numbers, numbersOfMembers, ih]

/-- The members stand in the order of their keys. -/
private theorem reloaded_awaits (n : Nat) : (awaits n).reloaded = awaits n := by
  have horder : ¬ "value" < "_type" := by decide
  have horder' : ¬ "id" < "_type" := by decide
  induction n with
  | zero =>
    simp [awaits, reloaded, renumbered, renumberedMembers, ordered, rearrange, rearrangeMembers,
      orderedMembers, insertMember, horder']
  | succ n ih =>
    rw [reloaded, ordered] at ih
    simp [awaits, reloaded, renumbered, renumberedMembers, ordered, rearrange, rearrangeMembers,
      orderedMembers, insertMember, horder, ih]

end Json

private theorem Node.ofJson_awaits (inside : Bool) (n : Nat) :
    Node.ofJson inside (Json.awaits n) .expr = .ok (Expr.awaits n) := by
  induction n generalizing inside with
  | zero => rfl
  | succ n ih =>
    refine Node.ofJson_obj_eq_ok_iff.mpr
      ⟨.await, .cons (.node (Expr.awaits n)) .nil, .unknown, rfl, ?_, rfl, rfl⟩
    refine Fields.read_cons_eq_ok_iff.mpr ⟨_, .nil, Field.read_eq_ok_iff.mpr (.inl ?_), rfl, rfl⟩
    rw [Slot.ofMembers_eq]
    show some (Slot.ofJson (Json.awaits n) (.node .expr)) = _
    rw [Slot.ofJson_node, ih true]
    rfl

private theorem Node.exists_toJson_awaits (n : Nat) :
    ∃ j, (Expr.awaits n).toJson = .ok j ∧ j.nesting = n + 2 := by
  induction n with
  | zero => exact ⟨_, rfl, rfl⟩
  | succ n ih =>
    obtain ⟨j, hj, hnesting⟩ := ih
    refine ⟨.obj [("_type", .str "Await"), ("value", j)], ?_, ?_⟩
    · refine Node.toJson_mk_eq_ok_iff.mpr ⟨[("value", j)], ?_, rfl⟩
      refine Fields.members_cons_eq_ok_iff.mpr ⟨some j, [], ?_, rfl, rfl⟩
      show (Expr.awaits n).toJson.map some = _
      rw [hj]
      rfl
    · simp [Json.nesting, Json.nestingOfMembers, hnesting]

/-- Up to 126 awaited expressions are read. -/
private theorem Tree.ofJsonText_awaits {n : Nat} (hn : n ≤ 126) :
    Tree.ofJsonText (Json.awaits n).compact = .ok (.single (.expr (Expr.awaits n))) := by
  rw [Tree.ofJsonText_compact_eq_ok_iff (by simp [Json.numbers_awaits]), Json.reloaded_awaits]
  constructor
  · rw [Json.nesting_awaits, documentDepth]
    omega
  · have hread := Node.ofJson_awaits false n
    cases n with
    | zero => rfl
    | succ n =>
      have hclass (j : Json) : Root.ofClass "Await" j =
          ((Node.ofJson false j .expr).map .expr).mapError (.inNode "Await") := rfl
      rw [Json.awaits] at hread ⊢
      rw [Tree.ofJson, Root.ofJson_obj rfl, hclass, hread]
      rfl

/-- A single awaited expression is loaded and can be saved and loaded again. -/
theorem Tree.reload_iff_of_ofJsonText_await :
    let t : Tree Root := .single (.expr (Expr.awaits 1))
    let text := (Json.awaits 1).compact
    Tree.ofJsonText text = .ok t ∧
      ∃ v j, Json.read 127 text = .ok v ∧ t.toJson = .ok j ∧
        Format.json.serialize t = .ok j.pretty ∧ j.nesting ≤ v.nesting + 1 ∧
        ∀ t', Tree.ofJsonText j.pretty = .ok t' ↔
          j.nesting ≤ 127 ∧ t' = t.mapConstants Constant.reloaded := by
  intro t text
  have hload : Tree.ofJsonText text = .ok t := Tree.ofJsonText_awaits (by decide)
  exact ⟨hload, Tree.reload_iff_of_ofJsonText hload⟩

/-- Of 126 awaited expressions the document is at the limit, as it has no context for the name. The
tree is loaded, but the text that it is saved as is refused: the context is one level more. -/
theorem Tree.reload_awaits_ne :
    let t : Tree Root := .single (.expr (Expr.awaits 126))
    Tree.ofJsonText (Json.awaits 126).compact = .ok t ∧
      ∃ text, Format.json.serialize t = .ok text ∧ ∀ t', Tree.ofJsonText text ≠ .ok t' := by
  intro t
  have hload : Tree.ofJsonText (Json.awaits 126).compact = .ok t :=
    Tree.ofJsonText_awaits (Nat.le_refl _)
  obtain ⟨j, hwrite, hnesting⟩ := Node.exists_toJson_awaits 126
  refine ⟨hload, j.pretty, Format.serialize_json_eq_ok_iff.mpr ⟨j, hwrite, rfl⟩, fun t' ht' => ?_⟩
  have hwritable := (Tree.toJson_reloaded (t := t) hwrite).1
  have hle := ((Tree.ofJsonText_pretty_eq_ok_iff hwritable).mp ht').1
  rw [hnesting, documentDepth] at hle
  omega

end SyntaxDump
