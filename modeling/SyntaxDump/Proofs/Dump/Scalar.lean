import SyntaxDump.Proofs.Constants
import SyntaxDump.Proofs.Dump.Lexical
import SyntaxDump.Proofs.Term.Unambiguous

/-!
# Terms determine scalars

Two scalars of one kind with the same term are the same. Floats are an exception, since they are
rounded to the digits that are shown and all values that are no numbers look alike. The literal of a
constant is in the dump of its node, whatever the options are.

## Main statements

- `Constant.literal_injective`: constants that are no floats are told apart by their literals;
- `Scalar.term?_injective`: scalars that are no floats are told apart by their terms;
- `AnyNode.shows_literal`: where the dump of a node shows its constant.
-/

namespace SyntaxDump

/-- Whether a constant is a float. -/
def Constant.isFloat : Constant → Bool
  | .float _ => true
  | _ => false

namespace Constant

open Term (Shape)

/-- The shape of the literal of a constant. -/
private def shape : Constant → Shape
  | .str _ => .string
  | .bytes _ => .bytes
  | _ => .word

/-- A literal has the shape of its constant. -/
private theorem shape_literal (c : Constant) : Shape.of c.literal.toList = c.shape := by
  have hword {text : String} (h : IsWord text) : Shape.of text.toList = .word := by
    have hshape := Term.shape_word (x := []) h nofun
    rwa [List.append_nil] at hshape
  cases c with
  | none => exact hword (by decide)
  | bool b => cases b <;> exact hword (by decide)
  | int n => exact hword (isWord_toString_int n)
  | float x => exact hword (Literal.isWord_float x)
  | str s =>
    have hshape := Term.shape_string s []
    rwa [List.append_nil] at hshape
  | bytes bs =>
    have hshape := Term.shape_bytes bs []
    rwa [List.append_nil] at hshape

/-- No integer is written like one of the constants that have a name. -/
private theorem toString_int_ne (n : Int) :
    toString n ≠ "None" ∧ toString n ≠ "True" ∧ toString n ≠ "False" := by
  have hne {text : String} (h : 'e' ∈ text.toList) : toString n ≠ text := by
    rintro rfl
    -- the letter would be a digit or the sign
    rcases mem_toString_int h with heq | hdigit
    · exact absurd heq (by decide)
    · exact absurd hdigit (by decide)
  exact ⟨hne (by decide), hne (by decide), hne (by decide)⟩

/-- Constants other than floats are told apart by their literals. -/
theorem literal_injective {a b : Constant} (ha : a.isFloat = false) (hb : b.isFloat = false)
    (h : a.literal = b.literal) : a = b := by
  -- literals of different shapes differ; numbers and named constants are both words
  have hshape : a.shape = b.shape := by rw [← shape_literal, ← shape_literal, h]
  cases a with
  | none =>
    cases b with
    | none => rfl
    | bool b => cases b <;> exact absurd h (by decide)
    | int n => exact absurd h.symm (toString_int_ne n).1
    | float x => cases hb
    | _ => cases hshape
  | bool a =>
    cases b with
    | none => cases a <;> exact absurd h (by decide)
    | bool b => cases a <;> cases b <;> first | rfl | exact absurd h (by decide)
    | int n =>
      obtain ⟨-, htrue, hfalse⟩ := toString_int_ne n
      cases a with
      | true => exact absurd h.symm htrue
      | false => exact absurd h.symm hfalse
    | float x => cases hb
    | _ => cases hshape
  | int n =>
    obtain ⟨hnone, htrue, hfalse⟩ := toString_int_ne n
    cases b with
    | none => exact absurd h hnone
    | bool b =>
      cases b with
      | true => exact absurd h htrue
      | false => exact absurd h hfalse
    | int m => exact congrArg Constant.int (toString_int_injective h)
    | float x => cases hb
    | _ => cases hshape
  | float x => cases ha
  | str s =>
    cases b with
    | str t => exact congrArg Constant.str (Literal.string_injective h)
    | _ => cases hshape
  | bytes as =>
    cases b with
    | bytes bs => exact congrArg Constant.bytes (Literal.bytes_injective h)
    | _ => cases hshape

end Constant

/-- A scalar that is not a float. -/
def Scalar.NotFloat (s : Scalar) (v : s.Value) : Prop := ∀ c ∈ s.constants v, c.isFloat = false

/-- Texts are told apart by the terms of their literals. -/
private theorem atom_string_injective {s t : String}
    (h : Term.atom (Literal.string s) = .atom (Literal.string t)) : s = t :=
  Literal.string_injective (Term.atom.inj h)

/-- Scalars other than floats are told apart by their terms. -/
theorem Scalar.term?_injective (s : Scalar) {v w : s.Value} (hv : s.NotFloat v)
    (hw : s.NotFloat w) (h : s.term? v = s.term? w) : v = w := by
  cases s with
  | identifier | dottedName => exact atom_string_injective (Option.some.inj h)
  | optionalIdentifier | optionalDottedName | optionalText =>
    exact Option.map_injective (fun _ _ => atom_string_injective) h
  | identifiers =>
    exact (List.map_inj_right fun _ _ => atom_string_injective).mp
      (Term.list.inj (Option.some.inj h))
  | constant =>
    exact Constant.literal_injective (hv v List.mem_cons_self) (hw w List.mem_cons_self)
      (Term.atom.inj (Option.some.inj h))
  | level =>
    exact UInt64.toNat_inj.mp (toString_nat_injective (Term.atom.inj (Option.some.inj h)))
  | conversion =>
    exact Int64.toInt_inj.mp (toString_int_injective (Term.atom.inj (Option.some.inj h)))

/-! ## Literals in dumps -/

/-- A dump shows a literal as the value of a constant: it is the first argument of the call, behind
its label if there are labels, and what follows it is the next argument or the end of the call. With
an indentation the argument may stand on a line of its own. -/
def DumpOptions.Shows (o : DumpOptions) (literal dump : String) : Prop :=
  ∃ gap rest,
    dump = "Constant(" ++ gap ++ (if o.annotateFields then "value=" else "") ++ literal ++ rest ∧
    (gap = "" ∨ ∃ i ∈ o.indent, gap = "\n" ++ i.unit) ∧ ∃ c ∈ rest.toList.head?, c = ',' ∨ c = ')'

/-- The first argument of a call comes after the bracket, possibly on a line of its own, and before
a comma or the other bracket. -/
private theorem Term.exists_text_call (unit : Option String) (name literal : String)
    (label : Option String) (more : List (Option String × Term)) :
    ∃ gap rest, (Term.call name ((label, .atom literal) :: more)).text unit 0 =
        name ++ "(" ++ gap ++ labelled label literal ++ rest ∧
      (gap = "" ∨ ∃ u ∈ unit, gap = "\n" ++ u) ∧ ∃ c ∈ rest.toList.head?, c = ',' ∨ c = ')' := by
  have hclose {separator rest : String} (hseparator : separator.toList.head? = some ',')
      (hrest : rest = "" ∨ ∃ more, rest = separator ++ more) :
      ∃ c ∈ (rest ++ ")").toList.head?, c = ',' ∨ c = ')' := by
    rcases hrest with rfl | ⟨more, rfl⟩
    · exact ⟨')', rfl, .inr rfl⟩
    · refine ⟨',', ?_, .inl rfl⟩
      simp only [String.toList_append, List.head?_append, hseparator]
      rfl
  rw [text, argTexts, text]
  split
  · obtain ⟨rest, hjoin, hrest⟩ :=
      Text.exists_intercalate_cons ", " (labelled label literal) (argTexts unit 1 more)
    refine ⟨"", rest ++ ")", ?_, .inl rfl, hclose rfl hrest⟩
    rw [hjoin, String.append_empty, String.append_assoc, String.append_assoc]
    simp only [String.append_assoc]
  · obtain ⟨rest, hjoin, hrest⟩ :=
      Text.exists_intercalate_cons (separator unit 1) (labelled label literal) (argTexts unit 1 more)
    refine ⟨opening unit 1, rest ++ ")", ?_, ?_, ?_⟩
    · rw [hjoin]
      simp only [String.append_assoc]
    · cases unit with
      | none => exact .inl rfl
      | some u => exact .inr ⟨u, rfl, by rw [opening, Text.times, Text.times, String.append_empty]⟩
    · refine hclose ?_ hrest
      cases unit with
      | none => rfl
      | some u => simp [separator]

/-- The dump of the node that holds a constant shows its literal. -/
theorem AnyNode.shows_literal (o : DumpOptions) {n : AnyNode} {c : Constant}
    (h : c ∈ n.constants) : o.Shows c.literal (n.2.render o) := by
  obtain ⟨kind, place, rfl⟩ := AnyNode.eq_constant_of_mem_constants h
  obtain ⟨more, hterm⟩ : ∃ more,
      (Node.mk .constant (.cons (.scalar c) (.cons (.scalar kind) .nil)) place).term o =
        .call "Constant" ((if o.annotateFields then some "value" else none, .atom c.literal) ::
          more) := ⟨_, rfl⟩
  have hlabel : Term.labelled (if o.annotateFields then some "value" else none) c.literal =
      (if o.annotateFields then "value=" else "") ++ c.literal := by
    cases o.annotateFields
    · exact String.empty_append.symm
    · rfl
  obtain ⟨gap, rest, htext, hgap, hrest⟩ :=
    Term.exists_text_call (o.indent.map Indent.unit) "Constant" c.literal _ more
  refine ⟨gap, rest, ?_, ?_, hrest⟩
  · rw [Node.render, hterm, htext, hlabel]
    simp only [← String.append_assoc]
    rfl
  · refine hgap.imp_right ?_
    rintro ⟨u, hu, rfl⟩
    obtain ⟨i, hi, rfl⟩ := Option.map_eq_some_iff.mp hu
    exact ⟨i, hi, rfl⟩

end SyntaxDump
