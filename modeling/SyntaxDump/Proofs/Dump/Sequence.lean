import SyntaxDump.Build
import SyntaxDump.Document.Load
import SyntaxDump.Proofs.Dump.Calls

/-!
# Dumps of sequences

A sequence of statements is dumped as the body of a module, as a tree of its own in the format of
dumps, and as a tree with the plain options. On one line the three agree on the text between the
square brackets. Over several lines a body is indented further than a sequence by itself, whose
nodes keep standing one after another.

## Main statements

- `Mod.render_module`: a module on one line in terms of the dump of its statements;
- `Tree.dumps_of_sequence_agree`: the ways in which a sequence can be dumped.
-/

namespace SyntaxDump

/-! ## Modules -/

/-- The items of a list that has no gaps. -/
private theorem Nodes.terms_ofList (o : DumpOptions) {c : Category} (gaps : Bool)
    (ns : List (Node c)) :
    (Nodes.ofList ns : Nodes c gaps).terms o = ns.map fun n => n.term o := by
  induction ns with
  | nil => rfl
  | cons n ns ih => rw [Nodes.ofList, Nodes.terms, ih, List.map_cons]

/-- On one line the body of a module is the dump of the sequence of its statements. -/
theorem Mod.render_module (body : List Stmt) {o : DumpOptions} (h : o.indent = none) :
    (Mod.module body).render o =
      "Module(" ++ (if o.annotateFields then "body=" else "") ++
        ((Tree.many (body.map Root.stmt)).map (Configured.mk o)).dump none 0 ++ ", " ++
        (if o.annotateFields then "type_ignores=" else "") ++ "[])" := by
  let label (name : String) : Option String := if o.annotateFields then some name else none
  have hterm : (Mod.module body).term o = .call "Module"
      [(label "body", .list (body.map fun n => n.term o)), (label "type_ignores", .list [])] := by
    rw [← Nodes.terms_ofList o false]
    have hempty : Kind.module.emptyFields = ["type_ignores"] := rfl
    refine (Node.term_mk o .module _ _).trans ?_
    -- a module has no location that could be shown
    simp [Fields.args, Slot.term?, Kind.emptyArgs, hempty, Category.locationArgs,
      Category.location?, Kind.className, Field.must, label]
  have hbody : (Tree.many (body.map Root.stmt)).term o = .list (body.map fun n => n.term o) := by
    rw [Tree.term, List.map_map]
    rfl
  have hlabel (name : String) : Term.labelChars (label name) =
      (if o.annotateFields then name ++ "=" else "").toList := by
    unfold label
    split <;> simp [Term.labelChars]
  rw [Node.render_none _ h, hterm, ← String.toList_inj]
  simp only [String.toList_append, Tree.toList_dump_none, hbody, String.toList_ofList, Term.line,
    Term.lineArgs, Term.moreArgs, Term.lineItems, hlabel, List.append_assoc]
  rfl

/-! ## Sequences -/

/-- The ways in which a sequence can be dumped agree. On one line the body of a module reads like
the sequence of its statements. With any indentation the format of dumps writes a sequence as the
dumps of its nodes, joined between brackets, and a single node as the dump of the node. And with
plain options this is the dump of the tree at any level, also when the tree is loaded first. -/
theorem Tree.dumps_of_sequence_agree :
    (∀ (body : List Stmt) (o : DumpOptions), ∃ sequence,
      (Format.dump (o.withIndent none)).serialize (.many (body.map Root.stmt)) = .ok sequence ∧
      (Mod.module body).render (o.withIndent none) =
        "Module(" ++ (if o.annotateFields then "body=" else "") ++ sequence ++ ", " ++
          (if o.annotateFields then "type_ignores=" else "") ++ "[])") ∧
    (∀ (rs : List Root) (o : DumpOptions), (Format.dump o).serialize (.many rs) =
      .ok ("[" ++ ", ".intercalate (rs.map fun r => r.render o) ++ "]")) ∧
    (∀ (r : Root) (o : DumpOptions), (Format.dump o).serialize (.single r) = .ok (r.render o)) ∧
    ∀ (t : Tree Root) (indent : Option Indent), ∃ text,
      (Format.dump (DumpOptions.default.withIndent indent)).serialize t = .ok text ∧
      ∀ level : UInt64, t.dump indent level = text ∧
        ∀ j, Tree.ofJson j = .ok t → j.dump indent level = .ok text := by
  have hplain (t : Tree Root) (indent : Option Indent) (level : UInt64) :
      (t.map (Configured.mk (DumpOptions.default.withIndent indent))).dump indent 0 =
        t.dump indent level := by
    cases t with
    | single r => rfl
    | many rs =>
      -- the nodes are dumped under the same options, and none looks at the level
      rw [Tree.map, Tree.dump, Tree.dump, List.map_map]
      rfl
  refine ⟨fun body o => ⟨_, rfl, Mod.render_module body rfl⟩, fun rs o => ?_, fun r o => rfl,
    fun t indent => ⟨_, rfl, fun level => ⟨(hplain t indent level).symm, fun j hj => ?_⟩⟩⟩
  · change Except.ok (Tree.dump o.indent 0 (.many (rs.map (Configured.mk o)))) = _
    rw [Tree.dump, List.map_map]
    rfl
  · rw [Json.dump, hj]
    exact congrArg Except.ok (hplain t indent level).symm

/-- Two statements that are loaded from their document and dumped with an indentation. -/
theorem Tree.dumps_of_sequence_agree_pair :
    let t : Tree Root := .many
      [.stmt (Stmt.exprStmt (Expr.constant (.int 1))), .stmt Stmt.pass]
    let j : Json := .arr [.obj [("_type", .str "Expr"),
      ("value", .obj [("_type", .str "Constant"), ("value", .int 1)])],
      .obj [("_type", .str "Pass")]]
    Tree.ofJson j = .ok t ∧
      j.dump (some (.spaces 2)) 7 = .ok "[Expr(\n  value=Constant(value=1)), Pass()]" := by
  intro t j
  have hload : Tree.ofJson j = .ok t := rfl
  obtain ⟨-, hmany, -, hplain⟩ := Tree.dumps_of_sequence_agree
  obtain ⟨text, htext, hdump⟩ := hplain t (some (.spaces 2))
  rw [hmany] at htext
  have hjoined : text = "[Expr(\n  value=Constant(value=1)), Pass()]" := by
    rw [← Except.ok.inj htext]
    decide +kernel
  exact ⟨hload, hjoined ▸ (hdump 7).2 j hload⟩

end SyntaxDump
