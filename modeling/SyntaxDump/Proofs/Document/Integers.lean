import SyntaxDump.Build
import SyntaxDump.Proofs.Document.Reread
import SyntaxDump.Proofs.Document.Rounded
import SyntaxDump.Proofs.Dump.Scalar
import SyntaxDump.Proofs.Json.Words

/-!
# Integers from documents to dumps

An integer of 64 bits that a document spells is in the tree and is shown by every dump of its node,
digit by digit. An integer of any other size is not: if the document is accepted at all, there is a
float in its place, and the digits of that float are shown.

## Main statement

- `Tree.integers_of_ofJsonText`: what becomes of the integers that a text spells.
-/

namespace SyntaxDump

/-- If a text is accepted, then the tree is the one that the text spells with its integers rounded.
Where it spells an integer of 64 bits, with a sign or without, every dump of the node shows the
digits that are in the text; where it spells another one, the node holds a finite float and its
dumps show that. -/
theorem Tree.integers_of_ofJsonText {text : String} {t : Tree Root}
    (h : Tree.ofJsonText text = .ok t) :
    ∃ spelled t', Json.readExact 127 text = .ok spelled ∧ Tree.ofJson spelled = .ok t' ∧
      t = t'.mapConstants Constant.rounded ∧
      ∀ m ∈ t'.subtrees, ∀ n : ℤ, .int n ∈ m.constants →
        let m' := m.mapConstants Constant.rounded
        m' ∈ t.subtrees ∧
        (-2 ^ 63 ≤ n ∧ n < 2 ^ 64 → m'.constants = [.int n] ∧
          ∀ o : DumpOptions, o.Shows (String.ofList (Json.writeInt n)) (m'.2.render o)) ∧
        (¬ (-2 ^ 63 ≤ n ∧ n < 2 ^ 64) → ∃ x, x.isFinite ∧ m'.constants = [.float x] ∧
          ∀ o : DumpOptions, o.Shows (Literal.float x) (m'.2.render o)) := by
  obtain ⟨j, hread, hload⟩ := Tree.ofJsonText_eq_ok_iff.mp h
  obtain ⟨spelled, hspelled, rfl⟩ := Json.readExact_of_read hread
  obtain ⟨t', ht', rfl⟩ := Tree.ofJson_mirrors spelled t hload
  refine ⟨spelled, t', hspelled, ht', rfl, fun m hm n hn => ?_⟩
  intro m'
  have hm' : m' ∈ (t'.mapConstants Constant.rounded).subtrees := by
    rw [Tree.subtrees_mapConstants]
    exact List.mem_map_of_mem hm
  have hconstants : m'.constants = [Constant.rounded (.int n)] := by
    obtain ⟨kind, place, rfl⟩ := AnyNode.eq_constant_of_mem_constants hn
    rfl
  have hshows (o : DumpOptions) : o.Shows (Constant.rounded (.int n)).literal (m'.2.render o) :=
    m'.shows_literal o (hconstants ▸ List.mem_singleton_self _)
  refine ⟨hm', fun hrange => ?_, fun hrange => ?_⟩
  · have hself := (Constant.rounded_int_eq_self_iff n).mpr hrange
    rw [hself] at hconstants hshows
    rw [← Json.toList_toString_int, String.ofList_toList]
    exact ⟨hconstants, hshows⟩
  · have hfloat : Constant.rounded (.int n) = .float (Json.floatOfInt n) := if_neg hrange
    rw [hfloat] at hconstants hshows
    -- the tree that was read holds finite floats only
    have hnumbers := (Json.readable_of_read hread).numbers
    have hvalid := (AnyNode.valid_iff m').mpr (Tree.loaded_of_ofJson hnumbers hload m' hm').scalars
    have hfinite : (Constant.float (Json.floatOfInt n)).InRange :=
      hvalid.constants _ (hconstants ▸ List.mem_singleton_self _)
    exact ⟨_, hfinite, hconstants, hshows⟩

/-! ## The integers at the limit -/

private theorem Constant.reloaded_limit :
    Constant.reloaded (.int (2 ^ 64 - 1)) = .int (2 ^ 64 - 1) ∧
      Constant.reloaded (.int (2 ^ 64)) = .float ⟨0x43F0000000000000⟩ := by
  decide +kernel

/-- Of the greatest integer of 64 bits and the next one the first is shown. -/
theorem Tree.integers_of_ofJsonText_neighbours :
    let text := "[\x7b\"_type\":\"Constant\",\"value\":18446744073709551615\x7d," ++
      "\x7b\"_type\":\"Constant\",\"value\":18446744073709551616\x7d]"
    let t : Tree Root := .many [.expr (Expr.constant (.int (2 ^ 64 - 1))),
      .expr (Expr.constant (.float ⟨0x43F0000000000000⟩))]
    Tree.ofJsonText text = .ok t ∧
      ∃ spelled t', Json.readExact 127 text = .ok spelled ∧ Tree.ofJson spelled = .ok t' ∧
        t = t'.mapConstants Constant.rounded ∧
        ∀ m ∈ t'.subtrees, ∀ n : ℤ, .int n ∈ m.constants →
          let m' := m.mapConstants Constant.rounded
          m' ∈ t.subtrees ∧
          (-2 ^ 63 ≤ n ∧ n < 2 ^ 64 → m'.constants = [.int n] ∧
            ∀ o : DumpOptions, o.Shows (String.ofList (Json.writeInt n)) (m'.2.render o)) ∧
          (¬ (-2 ^ 63 ≤ n ∧ n < 2 ^ 64) → ∃ x, x.isFinite ∧ m'.constants = [.float x] ∧
            ∀ o : DumpOptions, o.Shows (Literal.float x) (m'.2.render o)) := by
  intro text t
  let t' : Tree Root := .many [.expr (Expr.constant (.int (2 ^ 64 - 1))),
    .expr (Expr.constant (.int (2 ^ 64)))]
  let document : Json := .arr [
    .obj [("_type", .str "Constant"), ("value", .int (2 ^ 64 - 1))],
    .obj [("_type", .str "Constant"), ("value", .int (2 ^ 64))]]
  have hload : Tree.ofJsonText text = .ok t := by
    have hwrite : t'.toJson = .ok document := rfl
    have htext : text = document.compact := by decide +kernel
    -- the text is that of a tree with both integers, so its constants are read anew
    rw [htext, Tree.ofJsonText_compact (t := t') (by decide +kernel) hwrite]
    obtain ⟨hlast, hnext⟩ := Constant.reloaded_limit
    refine ⟨by decide, ?_⟩
    show t = .many [.expr (Expr.constant (Constant.reloaded (.int (2 ^ 64 - 1)))),
      .expr (Expr.constant (Constant.reloaded (.int (2 ^ 64))))]
    rw [hlast, hnext]
  exact ⟨hload, Tree.integers_of_ofJsonText hload⟩

/-- The next one, which the text of a constant spells, is neither in the tree nor in the dump. -/
theorem Tree.wideInteger_not_shown :
    let text := "\x7b\"_type\":\"Constant\",\"value\":18446744073709551616\x7d"
    let n : Expr := Expr.constant (.float ⟨0x43F0000000000000⟩)
    ∃ spelled, Json.readExact 127 text = .ok spelled ∧
      Tree.ofJson spelled = .ok (.single (.expr (Expr.constant (.int (2 ^ 64))))) ∧
      Tree.ofJsonText text = .ok (.single (.expr n)) ∧
      n.render DumpOptions.default = "Constant(value=1.8446744073709552e+19)" ∧
      ¬ DumpOptions.default.Shows "18446744073709551616" (n.render DumpOptions.default) := by
  intro text n
  let document : Json := .obj [("_type", .str "Constant"), ("value", .int (2 ^ 64))]
  let t : Tree Root := .single (.expr (Expr.constant (.int (2 ^ 64))))
  have hspelled : Json.readExact 127 text = .ok document := by cbv
  have hload : Tree.ofJsonText text = .ok (.single (.expr n)) := by
    have hwrite : t.toJson = .ok document := rfl
    have htext : text = document.compact := by decide +kernel
    rw [htext, Tree.ofJsonText_compact (by decide +kernel) hwrite]
    refine ⟨by decide, ?_⟩
    show Tree.single (Root.expr n) =
      .single (.expr (Expr.constant (Constant.reloaded (.int (2 ^ 64)))))
    rw [Constant.reloaded_limit.2]
  have hdump : n.render DumpOptions.default = "Constant(value=1.8446744073709552e+19)" := by
    decide +kernel
  refine ⟨document, hspelled, rfl, hload, hdump, ?_⟩
  rw [hdump]
  rintro ⟨gap, rest, heq, hgap, -⟩
  rcases hgap with rfl | ⟨i, hi, -⟩
  · -- the float has a point where the integer has its second digit
    have hchar := congrArg (fun s : String => s.toList[16]?) heq
    simp [DumpOptions.default] at hchar
  · cases hi

end SyntaxDump
