import SyntaxDump.Location

/-!
# Facts about locations

What dumps and documents list of a location: the known parts with their names, always in the same
order. The list determines the location.
-/

namespace SyntaxDump.Location

/-- Names whose values are left out in part stay in their order. -/
private theorem map_fst_filterMap_sublist {α : Type} (names : List String)
    (values : List (Option α)) :
    (((names.zip values).filterMap fun (name, value) => value.map (name, ·)).map Prod.fst).Sublist
      names := by
  induction names generalizing values with
  | nil => simp
  | cons name names ih =>
    cases values with
    | nil => simp
    | cons value values =>
      cases value with
      | none => exact (ih values).cons name
      | some x => exact (ih values).cons_cons name

/-- The parts of a location are listed under distinct names in their order. -/
theorem names_attributes_sublist (l : Location) :
    (l.attributes.map Prod.fst).Sublist partNames :=
  map_fst_filterMap_sublist partNames l.parts

/-- Every known part of a location is listed under its name. -/
theorem lookup_attributes (l : Location) :
    l.attributes.lookup "lineno" = l.line ∧ l.attributes.lookup "col_offset" = l.column ∧
      l.attributes.lookup "end_lineno" = l.endLine ∧
      l.attributes.lookup "end_col_offset" = l.endColumn := by
  obtain ⟨line, column, endLine, endColumn⟩ := l
  -- which parts are listed depends on which are known
  cases line <;> cases column <;> cases endLine <;> cases endColumn <;>
    exact ⟨rfl, rfl, rfl, rfl⟩

/-- What is listed of a location determines it. -/
theorem attributes_injective {l l' : Location} (h : l.attributes = l'.attributes) : l = l' := by
  -- each part is found again under its name
  obtain ⟨hline, hcolumn, hendLine, hendColumn⟩ := l.lookup_attributes
  obtain ⟨hline', hcolumn', hendLine', hendColumn'⟩ := l'.lookup_attributes
  rw [h] at hline hcolumn hendLine hendColumn
  calc l = ⟨l.line, l.column, l.endLine, l.endColumn⟩ := rfl
    _ = ⟨l'.line, l'.column, l'.endLine, l'.endColumn⟩ := by
      rw [← hline, ← hcolumn, ← hendLine, ← hendColumn, hline', hcolumn', hendLine', hendColumn']
    _ = l' := rfl

end SyntaxDump.Location
