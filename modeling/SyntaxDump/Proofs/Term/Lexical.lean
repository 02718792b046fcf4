import SyntaxDump.Literal.Quoted
import SyntaxDump.Term

/-!
# The lexical form of terms

Atoms are names, numbers or literals between quotes; the names of calls and labels are names. Terms
of this form are the ones that dumps consist of (`Node.lexical_term`), and this is all that is
needed of the atoms to tell terms apart from their texts or to break their texts into lines.
-/

namespace SyntaxDump

/-- The characters of names and numbers. -/
def isWordChar (c : Char) : Bool :=
  c.isAlphanum || c == '_' || c == '-' || c == '+' || c == '.'

/-- A name or a number. -/
structure IsWord (text : String) : Prop where
  nonempty : text.toList ≠ []
  chars : ∀ c ∈ text.toList, isWordChar c

instance (text : String) : Decidable (IsWord text) :=
  decidable_of_iff (text.toList ≠ [] ∧ text.toList.all isWordChar = true)
    ⟨fun ⟨h, h'⟩ => ⟨h, List.all_eq_true.mp h'⟩, fun ⟨h, h'⟩ => ⟨h, List.all_eq_true.mpr h'⟩⟩

/-- The texts that atoms consist of. -/
inductive IsAtom : String → Prop where
  | word {text : String} (h : IsWord text) : IsAtom text
  | string (s : String) : IsAtom (Literal.string s)
  | bytes (bs : List UInt8) : IsAtom (Literal.bytes bs)

namespace Term

mutual

/-- The atoms, the names of calls and the labels of a term are what they should be. -/
def Lexical : Term → Prop
  | .atom text => IsAtom text
  | .list items => LexicalItems items
  | .call name args => IsWord name ∧ LexicalArgs args

/-- The items of a list have lexical form. -/
def LexicalItems : List Term → Prop
  | [] => True
  | t :: rest => t.Lexical ∧ LexicalItems rest

/-- The arguments of a call have lexical form. -/
def LexicalArgs : List (Option String × Term) → Prop
  | [] => True
  | (label, t) :: rest => (∀ name ∈ label, IsWord name) ∧ t.Lexical ∧ LexicalArgs rest

end

/-- Items have lexical form if each of them has. -/
theorem lexicalItems_iff {items : List Term} :
    LexicalItems items ↔ ∀ t ∈ items, t.Lexical := by
  induction items with
  | nil => simp [LexicalItems]
  | cons t rest ih => rw [LexicalItems, ih, List.forall_mem_cons]

/-- Arguments have lexical form if each of them has. -/
theorem lexicalArgs_iff {args : List (Option String × Term)} :
    LexicalArgs args ↔ ∀ a ∈ args, (∀ name ∈ a.1, IsWord name) ∧ a.2.Lexical := by
  induction args with
  | nil => simp [LexicalArgs]
  | cons a rest ih => rw [LexicalArgs, ih, List.forall_mem_cons, and_assoc]

end Term

end SyntaxDump
