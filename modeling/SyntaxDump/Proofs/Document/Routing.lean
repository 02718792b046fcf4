import SyntaxDump.Build
import SyntaxDump.Proofs.Document.Loading

/-!
# The reader for a node at the top

A node at the top of a tree is a module, a statement or an expression, and each of these categories
has a reader of its own. Which one a document is given to is decided by the name under `_type`
alone, by the lists of names of the three categories. The decision loses nothing: the reader that is
chosen is the only one that could succeed, and its fault is the one reported.

## Main statements

- `Node.className_of_ofJson_obj`: a reader accepts no names but those of its own category;
- `Root.ofJson_agrees_with_readers`: reading a node at the top, compared with the three readers.
-/

namespace SyntaxDump

open Json (member?)

/-! ## Readers -/

variable {members : List (String × Json)} {name : String}

/-- The class of a node that may stand at the top is the one that is named. -/
theorem Kind.ofMembers_eq_ok_iff {index : Bool} {c : Category} {k : Kind c}
    (hc : c ∈ Category.topmost) (htag : member? members "_type" = some (.str name)) :
    Kind.ofMembers index c members = .ok k ↔ Kind.ofName? c name = some k := by
  have honly : Kind.only? c = none := by
    rcases Category.eq_of_mem_topmost hc with rfl | rfl | rfl <;> rfl
  simp only [Kind.ofMembers, honly, htag, Kind.ofTag]
  cases Kind.ofName? c name <;> simp

/-- A reader accepts no names but those of its own category, and makes a node of the class that is
named. -/
theorem Node.className_of_ofJson_obj {inside : Bool} {c : Category} {n : Node c}
    (hc : c ∈ Category.topmost) (htag : member? members "_type" = some (.str name))
    (h : Node.ofJson inside (.obj members) c = .ok n) :
    name ∈ c.topNames ∧ n.className = name := by
  obtain ⟨kind, fields, place, hkind, -, -, rfl⟩ := Node.ofJson_obj_eq_ok_iff.mp h
  -- the class is looked up by its name, as the tag is a text
  rw [Kind.ofMembers_eq_ok_iff hc htag] at hkind
  refine ⟨?_, Kind.className_of_ofName? hkind⟩
  rw [← Kind.isSome_ofName?_iff hc, hkind]
  rfl

/-- The node is what the reader of its category makes of the value. -/
def Root.IsReadFrom (j : Json) : Root → Prop
  | .mod n => Node.ofJson false j .mod = .ok n
  | .stmt n => Node.ofJson false j .stmt = .ok n
  | .expr n => Node.ofJson false j .expr = .ok n

theorem Root.isReadFrom_iff {j : Json} {r : Root} :
    r.IsReadFrom j ↔ Node.ofJson false j r.toNode.1 = .ok r.toNode.2 := by
  cases r <;> rfl

theorem Root.category_mem_topmost (r : Root) : r.toNode.1 ∈ Category.topmost := by
  cases r <;> simp [Root.toNode, Category.topmost]

/-- Whatever a reader makes of a value with a name for its tag is read at the top. -/
theorem Root.ofJson_of_isReadFrom (htag : member? members "_type" = some (.str name))
    {r : Root} (h : r.IsReadFrom (.obj members)) : Root.ofJson (.obj members) = .ok r := by
  have hname := (Node.className_of_ofJson_obj r.category_mem_topmost htag
    (Root.isReadFrom_iff.mp h)).1
  obtain ⟨hmod, hstmt, hexpr⟩ := Root.ofJson_obj_eq htag
  cases r with
  | mod n =>
    rw [hmod hname, show Node.ofJson false (.obj members) .mod = .ok n from h]
    rfl
  | stmt n =>
    rw [hstmt hname, show Node.ofJson false (.obj members) .stmt = .ok n from h]
    rfl
  | expr n =>
    rw [hexpr hname, show Node.ofJson false (.obj members) .expr = .ok n from h]
    rfl

/-- The fault of the reader that has the name is reported, with the name before it. -/
theorem Root.ofJson_eq_error (htag : member? members "_type" = some (.str name))
    {c : Category} (hc : c ∈ Category.topmost) (hname : name ∈ c.topNames) {e : DecodeError}
    (h : Node.ofJson false (.obj members) c = .error e) :
    Root.ofJson (.obj members) = .error (.inNode name e) := by
  obtain ⟨hmod, hstmt, hexpr⟩ := Root.ofJson_obj_eq htag
  rcases Category.eq_of_mem_topmost hc with rfl | rfl | rfl
  · rw [hmod hname, h]
    rfl
  · rw [hstmt hname, h]
    rfl
  · rw [hexpr hname, h]
    rfl

/-- An object with a name under `_type` is accepted by at most one of the readers of modules,
statements and expressions. Read as a node at the top it gives what that reader gives, a node of the
class that is named; and where the name is one of a category whose reader fails, it fails with the
message of that reader after the name, a colon and a space. -/
theorem Root.ofJson_agrees_with_readers (htag : member? members "_type" = some (.str name)) :
    (∀ c ∈ Category.topmost, ∀ d ∈ Category.topmost,
      (∃ n, Node.ofJson false (.obj members) c = .ok n) →
      (∃ n, Node.ofJson false (.obj members) d = .ok n) → c = d) ∧
    (∀ r, Root.ofJson (.obj members) = .ok r ↔ r.IsReadFrom (.obj members)) ∧
    (∀ r, Root.ofJson (.obj members) = .ok r → r.toNode.className = name) ∧
    ∀ c ∈ Category.topmost, name ∈ c.topNames →
      ∀ e, Node.ofJson false (.obj members) c = .error e →
        ∃ e', Root.ofJson (.obj members) = .error e' ∧
          e'.message = name ++ ": " ++ e.message := by
  have hread {r : Root} (h : Root.ofJson (.obj members) = .ok r) := Root.ofJson_eq_ok h
  refine ⟨?_, fun r => ⟨fun h => ?_, Root.ofJson_of_isReadFrom htag⟩, fun r h => ?_, ?_⟩
  · rintro c hc d hd ⟨n, hn⟩ ⟨m, hm⟩
    exact Category.eq_of_mem_topNames (Node.className_of_ofJson_obj hc htag hn).1
      (Node.className_of_ofJson_obj hd htag hm).1
  · exact Root.isReadFrom_iff.mpr (hread h)
  · exact (Node.className_of_ofJson_obj r.category_mem_topmost htag (hread h)).2
  · intro c hc hname e he
    exact ⟨_, Root.ofJson_eq_error htag hc hname he, rfl⟩

/-- A statement whose name is that of a category of nodes. Without a value it is refused by the
reader of statements, and so it is at the top; with a value it is a statement there and neither an
expression nor a module. -/
theorem Root.ofJson_agrees_with_readers_exprStmt :
    let bare : List (String × Json) := [("_type", .str "Expr")]
    let full : List (String × Json) :=
      ("value", .obj [("_type", .str "Name"), ("id", .str "x")]) :: bare
    member? bare "_type" = some (.str "Expr") ∧ member? full "_type" = some (.str "Expr") ∧
      (∃ e, Root.ofJson (.obj bare) = .error e ∧ e.message = "Expr: missing field `value`") ∧
      Root.ofJson (.obj full) = .ok (.stmt (Stmt.exprStmt (Expr.name "x"))) ∧
      ∀ c ∈ Category.topmost, (∃ n, Node.ofJson false (.obj full) c = .ok n) → c = .stmt := by
  intro bare full
  have hbare : member? bare "_type" = some (.str "Expr") := rfl
  have hfull : member? full "_type" = some (.str "Expr") := rfl
  obtain ⟨-, -, -, hfault⟩ := Root.ofJson_agrees_with_readers hbare
  obtain ⟨honce, hread, -, -⟩ := Root.ofJson_agrees_with_readers hfull
  have hstmt : Node.ofJson false (.obj full) .stmt = .ok (Stmt.exprStmt (Expr.name "x")) := rfl
  refine ⟨hbare, hfull, ?_, (hread _).mpr hstmt, fun c hc hn => ?_⟩
  · exact hfault .stmt (by decide) (by decide) (.missingField "value") rfl
  · exact honce c hc .stmt (by decide) hn ⟨_, hstmt⟩

end SyntaxDump
