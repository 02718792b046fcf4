import SyntaxDump.Name

/-!
# Dotted names

Points divide a dotted name into its parts. Where the point itself belongs to no name, each way of
putting a dotted name together is one of taking it apart, and the names are the dotted names
without a point.

## Main statements

- `Name.isDottedWith_append`: a point between two texts;
- `Name.isIdentifierWith_iff`: names among the dotted names;
- `Name.dotted_iff_joined`: dotted names as joined names.
-/

namespace SyntaxDump

variable {classes : NameClasses}

/-- A name consists of characters of the two classes and underscores. -/
theorem NameClasses.mem_of_isName {cs : List Char} (h : classes.isName cs) :
    ∀ c ∈ cs, classes.start c ∨ classes.continue_ c ∨ c = '_' := by
  cases cs with
  | nil => exact fun c hc => absurd hc List.not_mem_nil
  | cons first rest =>
    obtain ⟨hfirst, hrest⟩ := Bool.and_eq_true_iff.mp h
    refine List.forall_mem_cons.mpr ⟨?_, fun c hc => ?_⟩
    · exact (Bool.or_eq_true_iff.mp hfirst).imp_right fun hline => .inr (beq_iff_eq.mp hline)
    · exact .inr (.inl (List.all_eq_true.mp hrest c hc))

namespace Name

/-- Two texts with a point between them form a dotted name exactly if both are dotted names. -/
theorem isDottedWith_append (classes : NameClasses) (s t : String) :
    isDottedWith classes (s ++ "." ++ t) ↔ isDottedWith classes s ∧ isDottedWith classes t := by
  have htext : (s ++ "." ++ t).toList = s.toList ++ '.' :: t.toList := by
    rw [String.toList_append, String.toList_append, List.append_assoc]
    rfl
  rw [isDottedWith, isDottedWith, isDottedWith, htext, List.splitOn_append_cons_self,
    List.all_append, Bool.and_eq_true]

/-- A text without a point is a dotted name exactly if it is a name. -/
theorem isDottedWith_of_not_mem {s : String} (h : '.' ∉ s.toList) :
    isDottedWith classes s = isIdentifierWith classes s := by
  rw [isDottedWith, List.splitOn_eq_singleton h, List.all_cons,
    List.all_nil, Bool.and_true, isIdentifierWith]

section Point

variable (hstart : classes.start '.' = false) (hcontinue : classes.continue_ '.' = false)

include hstart hcontinue

/-- No name has a point in it, if the point may neither begin nor continue a name. -/
theorem point_not_mem {s : String} (h : isIdentifierWith classes s) : '.' ∉ s.toList := by
  intro hmem
  rcases NameClasses.mem_of_isName h '.' hmem with hpoint | hpoint | hpoint
  · exact Bool.false_ne_true (hstart.symm.trans hpoint)
  · exact Bool.false_ne_true (hcontinue.symm.trans hpoint)
  · exact absurd hpoint (by decide)

/-- The names are the dotted names without a point. -/
theorem isIdentifierWith_iff (s : String) :
    isIdentifierWith classes s ↔ isDottedWith classes s ∧ '.' ∉ s.toList := by
  constructor
  · intro h
    have hpoint := point_not_mem hstart hcontinue h
    exact ⟨(isDottedWith_of_not_mem hpoint).trans h, hpoint⟩
  · rintro ⟨h, hpoint⟩
    exact (isDottedWith_of_not_mem hpoint).symm.trans h

/-- Names joined by points form a dotted name. -/
theorem isDottedWith_intercalate {parts : List String} (hne : parts ≠ [])
    (h : ∀ p ∈ parts, isIdentifierWith classes p) :
    isDottedWith classes (".".intercalate parts) := by
  have hpoint : ∀ cs ∈ parts.map String.toList, '.' ∉ cs :=
    List.forall_mem_map.mpr fun p hp => point_not_mem hstart hcontinue (h p hp)
  have htext : (".".intercalate parts).toList = ['.'].intercalate (parts.map String.toList) :=
    String.toList_intercalate
  -- the parts of the joined text are the names again
  rw [isDottedWith, htext,
    List.splitOn_intercalate '.' hpoint (mt List.map_eq_nil_iff.mp hne), List.all_map]
  exact List.all_eq_true.mpr h

end Point

/-- The parts of a dotted name are names. -/
theorem exists_parts_of_isDottedWith {s : String} (h : isDottedWith classes s) :
    ∃ parts : List String, parts ≠ [] ∧ (∀ p ∈ parts, isIdentifierWith classes p) ∧
      s = ".".intercalate parts := by
  rw [isDottedWith] at h
  refine ⟨(s.toList.splitOn '.').map String.ofList,
    mt List.map_eq_nil_iff.mp (List.splitOn_ne_nil '.' s.toList),
    List.forall_mem_map.mpr fun cs hcs => ?_, ?_⟩
  · rw [isIdentifierWith, String.toList_ofList]
    exact List.all_eq_true.mp h cs hcs
  · have hparts : ((s.toList.splitOn '.').map String.ofList).map String.toList =
        s.toList.splitOn '.' := by
      simp [Function.comp_def]
    rw [← String.toList_inj, String.toList_intercalate, hparts]
    exact (List.intercalate_splitOn '.').symm

/-- Dotted names are names joined by points, for all classes of characters that the point is in
neither of; if whatever may begin a name may also continue one, it is enough that the point may not
continue a name. Two texts with a point between them form a dotted name exactly if both are dotted
names, the names are the dotted names without a point, and a dotted name is what one or more names
are joined to. -/
theorem dotted_iff_joined (classes : NameClasses) (hstart : classes.start '.' = false)
    (hcontinue : classes.continue_ '.' = false) :
    (∀ s t : String, isDottedWith classes (s ++ "." ++ t) ↔
      isDottedWith classes s ∧ isDottedWith classes t) ∧
    (∀ s : String, isIdentifierWith classes s ↔ isDottedWith classes s ∧ '.' ∉ s.toList) ∧
    ∀ s : String, isDottedWith classes s ↔
      ∃ parts : List String, parts ≠ [] ∧ (∀ p ∈ parts, isIdentifierWith classes p) ∧
        s = ".".intercalate parts := by
  refine ⟨isDottedWith_append classes, isIdentifierWith_iff hstart hcontinue, fun s =>
    ⟨exists_parts_of_isDottedWith, ?_⟩⟩
  rintro ⟨parts, hne, hparts, rfl⟩
  exact isDottedWith_intercalate hstart hcontinue hne hparts

/-- The Unicode classes have no point in them: a text with two points in a row is no dotted name,
and one that is has names for its parts. -/
theorem dotted_iff_joined_unicode :
    NameClasses.unicode.start '.' = false ∧ NameClasses.unicode.continue_ '.' = false ∧
      ¬ isDotted ("os" ++ "." ++ ".path") ∧ ¬ isIdentifier "os.path" ∧
      ∃ parts : List String, parts ≠ [] ∧ (∀ p ∈ parts, isIdentifier p) ∧
        "os.path" = ".".intercalate parts := by
  have hstart : NameClasses.unicode.start '.' = false := by decide
  have hcontinue : NameClasses.unicode.continue_ '.' = false := by decide
  obtain ⟨happend, hname, hjoined⟩ := dotted_iff_joined .unicode hstart hcontinue
  refine ⟨hstart, hcontinue, fun h => ?_, fun h => ?_, (hjoined "os.path").mp (by decide)⟩
  · exact absurd ((happend "os" ".path").mp h).2 (by decide)
  · exact absurd ((hname "os.path").mp h).2 (by decide)

end Name

end SyntaxDump
