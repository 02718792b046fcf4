/-!
# Results that may be faults

A computation that consists of steps succeeds exactly when its steps do. These are the forms in
which readers and writers of documents are taken apart and put together. Two computations of the
same steps are compared step by step (`Except.Mirrors`, `Except.Agree`), and the fault that a
computation ends in is that of the first step that has one (`Except.fault?`).
-/

namespace SyntaxDump

variable {ε ε' α β : Type}

/-- A step after another succeeds exactly when both do. -/
theorem Except.bind_eq_ok_iff {x : Except ε α} {f : α → Except ε β} {b : β} :
    x >>= f = .ok b ↔ ∃ a, x = .ok a ∧ f a = .ok b := by
  constructor
  · intro h
    cases x with
    | error e => cases h
    | ok a => exact ⟨a, rfl, h⟩
  · rintro ⟨a, rfl, h⟩
    exact h

/-- A step that succeeds under a condition and with a single result goes before another one. -/
theorem Except.bind_eq_ok_iff_of {x : Except ε α} {P : Prop} {a : α}
    (hx : ∀ {a'}, x = .ok a' ↔ P ∧ a' = a) {f : α → Except ε β} {b : β} :
    x >>= f = .ok b ↔ P ∧ f a = .ok b := by
  rw [Except.bind_eq_ok_iff]
  constructor
  · rintro ⟨a', ha', h⟩
    obtain ⟨hP, rfl⟩ := hx.mp ha'
    exact ⟨hP, h⟩
  · rintro ⟨hP, h⟩
    exact ⟨a, hx.mpr ⟨hP, rfl⟩, h⟩

/-- Two steps that succeed under conditions of their own, each with a single result, succeed
together under both, and what is made of the results is the single one. -/
theorem Except.both_eq_ok_iff {γ : Type} {x : Except ε α} {y : Except ε β} {P Q : Prop} {a : α}
    {b : β} {f : α → β → γ} {c c' : γ} (hx : ∀ {a'}, x = .ok a' ↔ P ∧ a' = a)
    (hy : ∀ {b'}, y = .ok b' ↔ Q ∧ b' = b) (hc : f a b = c) :
    (do let a' ← x; let b' ← y; return f a' b') = .ok c' ↔ (P ∧ Q) ∧ c' = c := by
  subst hc
  rw [Except.bind_eq_ok_iff]
  constructor
  · rintro ⟨a', ha', h⟩
    obtain ⟨b', hb', h⟩ := Except.bind_eq_ok_iff.mp h
    obtain ⟨hP, rfl⟩ := hx.mp ha'
    obtain ⟨hQ, rfl⟩ := hy.mp hb'
    exact ⟨⟨hP, hQ⟩, (Except.ok.inj h).symm⟩
  · rintro ⟨⟨hP, hQ⟩, rfl⟩
    exact ⟨a, hx.mpr ⟨hP, rfl⟩, Except.bind_eq_ok_iff.mpr ⟨b, hy.mpr ⟨hQ, rfl⟩, rfl⟩⟩

/-- A changed result comes from a result. -/
theorem Except.map_eq_ok_iff {x : Except ε α} {f : α → β} {b : β} :
    x.map f = .ok b ↔ ∃ a, x = .ok a ∧ f a = b := by
  cases x with
  | error e => simp [Except.map]
  | ok a => simp [Except.map]

/-- Naming the place of a fault does not change which results there are. -/
theorem Except.mapError_eq_ok_iff {x : Except ε α} {f : ε → ε'} {a : α} :
    x.mapError f = .ok a ↔ x = .ok a := by
  cases x with
  -- a fault stays a fault, so neither side is a result
  | error e => exact ⟨nofun, nofun⟩
  | ok b => exact ⟨fun h => congrArg _ (Except.ok.inj h), fun h => congrArg _ (Except.ok.inj h)⟩

/-- A fault whose place is named comes from a fault. -/
theorem Except.exists_of_mapError_eq_error {x : Except ε α} {f : ε → ε'} {e : ε'}
    (h : x.mapError f = .error e) : ∃ e', x = .error e' ∧ f e' = e := by
  cases x with
  | error e' => exact ⟨e', rfl, Except.error.inj h⟩
  | ok a => cases h

/-- If a step after another fails, one of them does. -/
theorem Except.eq_error_or_of_bind_eq_error {x : Except ε α} {f : α → Except ε β} {e : ε}
    (h : x >>= f = .error e) : x = .error e ∨ ∃ a, x = .ok a ∧ f a = .error e := by
  cases x with
  | error e' => exact .inl (congrArg _ (Except.error.inj h))
  | ok a => exact .inr ⟨a, rfl, h⟩

/-- Reading a list of values succeeds exactly when reading its first value and the rest does. -/
theorem mapM_cons_eq_ok_iff {f : α → Except ε β} {a : α} {as : List α} {bs : List β} :
    (a :: as).mapM f = .ok bs ↔
      ∃ b rest, f a = .ok b ∧ as.mapM f = .ok rest ∧ bs = b :: rest := by
  rw [List.mapM_cons, Except.bind_eq_ok_iff]
  constructor
  · rintro ⟨b, hb, h⟩
    obtain ⟨rest, hrest, h⟩ := Except.bind_eq_ok_iff.mp h
    exact ⟨b, rest, hb, hrest, (Except.ok.inj h).symm⟩
  · rintro ⟨b, rest, hb, hrest, rfl⟩
    exact ⟨b, hb, Except.bind_eq_ok_iff.mpr ⟨rest, hrest, rfl⟩⟩

/-- A loop whose steps succeed under conditions of their own, each with a single result, succeeds
under all of them, and its results are the single ones. -/
theorem mapM_eq_ok_iff_map {f : α → Except ε β} {P : α → Prop} {g : α → β}
    (h : ∀ {a b}, f a = .ok b ↔ P a ∧ b = g a) {as : List α} {bs : List β} :
    as.mapM f = .ok bs ↔ (∀ a ∈ as, P a) ∧ bs = as.map g := by
  induction as generalizing bs with
  | nil => simp [pure, Except.pure, eq_comm]
  | cons a as ih =>
    rw [List.mapM_cons, List.forall_mem_cons]
    exact Except.both_eq_ok_iff h ih rfl

/-- A loop whose steps have single results has the list of these. -/
theorem eq_map_of_mapM {f : α → Except ε β} {g : α → β} (h : ∀ {a b}, f a = .ok b → b = g a)
    {as : List α} {bs : List β} (hbs : as.mapM f = .ok bs) : bs = as.map g := by
  induction as generalizing bs with
  | nil => exact (Except.ok.inj hbs).symm
  | cons a as ih =>
    obtain ⟨b, rest, hb, hrest, rfl⟩ := mapM_cons_eq_ok_iff.mp hbs
    rw [List.map_cons, ← h hb, ← ih hrest]

/-- Each result of a loop is that of an element. -/
theorem exists_of_mem_mapM {f : α → Except ε β} {as : List α} {bs : List β}
    (h : as.mapM f = .ok bs) {b : β} (hb : b ∈ bs) : ∃ a ∈ as, f a = .ok b := by
  induction as generalizing bs with
  | nil =>
    obtain rfl := Except.ok.inj h
    cases hb
  | cons a as ih =>
    obtain ⟨first, rest, hfirst, hrest, rfl⟩ := mapM_cons_eq_ok_iff.mp h
    rcases List.mem_cons.mp hb with rfl | hb
    · exact ⟨a, List.mem_cons_self, hfirst⟩
    · obtain ⟨a', ha', hf⟩ := ih hrest hb
      exact ⟨a', List.mem_cons_of_mem a ha', hf⟩

/-- A list that is written value by value is read back if each value is. -/
theorem mapM_map_eq_ok {read : β → Except ε α} {write : α → β} {as : List α}
    (h : ∀ a ∈ as, read (write a) = .ok a) : (as.map write).mapM read = .ok as := by
  induction as with
  | nil => rfl
  | cons a as ih =>
    rw [List.map_cons, mapM_cons_eq_ok_iff]
    exact ⟨a, as, h a List.mem_cons_self, ih fun b hb => h b (List.mem_cons_of_mem _ hb), rfl⟩

/-! ## Faults -/

/-- The fault of a computation, if it ends in one. -/
def Except.fault? : Except ε α → Option ε
  | .error e => some e
  | .ok _ => none

namespace Except

theorem fault?_eq_some_iff {x : Except ε α} {e : ε} : fault? x = some e ↔ x = .error e := by
  cases x <;> simp [fault?]

theorem fault?_eq_none_iff {x : Except ε α} : fault? x = none ↔ ∃ a, x = .ok a := by
  cases x <;> simp [fault?]

/-- Of two steps the first one that fails is the one whose fault is there. -/
theorem fault?_bind {x : Except ε α} {next : α → Except ε β} {o : Option ε}
    (h : ∀ a, fault? (next a) = o) : fault? (x >>= next) = (fault? x).or o := by
  cases x with
  | error e => rfl
  | ok a => exact h a

/-- To change a result is no fault. -/
theorem fault?_map (x : Except ε α) (f : α → β) : fault? (x.map f) = fault? x := by
  cases x <;> rfl

theorem fault?_bind_pure (x : Except ε α) (f : α → β) :
    fault? (x >>= fun a => pure (f a)) = fault? x := by
  cases x <;> rfl

/-- The fault of a loop is that of the first element that has one. -/
theorem fault?_mapM (f : α → Except ε β) (as : List α) :
    fault? (as.mapM f) = as.findSome? fun a => fault? (f a) := by
  induction as with
  | nil => rfl
  | cons a as ih =>
    rw [List.mapM_cons, fault?_bind fun b => fault?_bind_pure (as.mapM f) (b :: ·), ih,
      List.findSome?_cons]
    cases fault? (f a) <;> rfl

end Except

/-! ## Two computations -/

/-- Whatever the first computation results in is the image of what the second one results in. -/
def Except.Mirrors (f : β → α) (x : Except ε α) (y : Except ε' β) : Prop :=
  ∀ a, x = .ok a → ∃ b, y = .ok b ∧ a = f b

namespace Except.Mirrors

variable {γ δ : Type} {f : β → α} {g : δ → γ} {x : Except ε α} {y : Except ε' β}

theorem ok (f : β → α) (b : β) : Mirrors f (.ok (f b) : Except ε α) (.ok b : Except ε' β) :=
  fun _ h => ⟨b, rfl, (Except.ok.inj h).symm⟩

theorem error {e : ε} : Mirrors f (.error e) y := nofun

/-- Two computations whose results are the same. -/
theorem refl (x : Except ε α) : Mirrors id x x := fun a h => ⟨a, h, rfl⟩

/-- Steps after one another are compared one by one. -/
theorem bind (h : Mirrors f x y) {next : α → Except ε γ} {next' : β → Except ε' δ}
    (hnext : ∀ b, Mirrors g (next (f b)) (next' b)) : Mirrors g (x >>= next) (y >>= next') := by
  intro c hc
  obtain ⟨a, ha, hc⟩ := Except.bind_eq_ok_iff.mp hc
  obtain ⟨b, hb, rfl⟩ := h a ha
  obtain ⟨d, hd, rfl⟩ := hnext b c hc
  exact ⟨d, Except.bind_eq_ok_iff.mpr ⟨b, hb, hd⟩, rfl⟩

/-- Results that are changed alike. -/
theorem map (h : Mirrors f x y) {change : α → γ} {change' : β → δ}
    (hchange : ∀ b, change (f b) = g (change' b)) : Mirrors g (x.map change) (y.map change') := by
  intro c hc
  obtain ⟨a, ha, rfl⟩ := Except.map_eq_ok_iff.mp hc
  obtain ⟨b, hb, rfl⟩ := h a ha
  exact ⟨change' b, Except.map_eq_ok_iff.mpr ⟨b, hb, rfl⟩, hchange b⟩

/-- Faults do not matter to the comparison. -/
theorem mapError (h : Mirrors f x y) {ε₁ ε₂ : Type} (e : ε → ε₁) (e' : ε' → ε₂) :
    Mirrors f (x.mapError e) (y.mapError e') := by
  intro a ha
  obtain ⟨b, hb, rfl⟩ := h a (Except.mapError_eq_ok_iff.mp ha)
  exact ⟨b, Except.mapError_eq_ok_iff.mpr hb, rfl⟩

/-- Two loops over lists whose elements correspond are compared element by element. -/
theorem mapM {read : γ → Except ε α} {read' : δ → Except ε' β} {ds : List δ}
    (h : ∀ d ∈ ds, Mirrors f (read (g d)) (read' d)) :
    Mirrors (List.map f) ((ds.map g).mapM read) (ds.mapM read') := by
  induction ds with
  | nil => exact ok (List.map f) []
  | cons d ds ih =>
    obtain ⟨hd, hds⟩ := List.forall_mem_cons.mp h
    rw [List.map_cons, List.mapM_cons, List.mapM_cons]
    exact hd.bind fun b => (ih hds).bind fun bs => ok (List.map f) (b :: bs)

end Except.Mirrors

/-- The computations have the same result, or neither has one. -/
def Except.Agree (x : Except ε α) (y : Except ε' α) : Prop := ∀ a, x = .ok a ↔ y = .ok a

namespace Except.Agree

variable {x : Except ε α} {y : Except ε' α}

theorem refl (x : Except ε α) : Agree x x := fun _ => Iff.rfl

/-- Faults agree, whatever they are. -/
theorem error (e : ε) (e' : ε') : Agree (.error e : Except ε α) (.error e' : Except ε' α) :=
  fun _ => ⟨nofun, nofun⟩

/-- Steps after one another agree if each step does. -/
theorem bind (h : Agree x y) {next : α → Except ε β} {next' : α → Except ε' β}
    (hnext : ∀ a, Agree (next a) (next' a)) : Agree (x >>= next) (y >>= next') := by
  intro b
  simp only [Except.bind_eq_ok_iff, h _, hnext _ b]

/-- Results that are changed in the same way. -/
theorem map (h : Agree x y) (change : α → β) : Agree (x.map change) (y.map change) := by
  intro b
  simp only [Except.map_eq_ok_iff, h _]

/-- How faults are reported is of no account. -/
theorem mapError (h : Agree x y) {ε₁ ε₂ : Type} (e : ε → ε₁) (e' : ε' → ε₂) :
    Agree (x.mapError e) (y.mapError e') := by
  intro a
  simp only [Except.mapError_eq_ok_iff, h _]

end Except.Agree

end SyntaxDump
