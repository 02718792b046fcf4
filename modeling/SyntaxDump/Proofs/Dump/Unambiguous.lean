import SyntaxDump.Proofs.Dump.Layout
import SyntaxDump.Proofs.Dump.Scalar
import SyntaxDump.Proofs.Unplaced

/-!
# Dumps determine trees

The dump of a tree without floats determines the tree, up to the locations if these are not shown.
The text determines the term (`Term.line_injective`); what remains is that the term determines the
tree, although absent fields leave no trace but the labels of the fields after them. As soon as one
field is absent all later arguments are labelled, so an argument without a label, or with the label
of the field, is the value of the field itself.

## Main statements

- `Fields.agree_of_args_eq`: arguments determine the fields, whatever was left out;
- `Node.agree_of_term_eq`: terms determine trees;
- `Root.render_eq_iff`: so do dumps, on one line or over several.
-/

namespace SyntaxDump

variable {o : DumpOptions}

/-! ## Agreement -/

/-- Two values are the same as far as dumps under the options show: up to locations, and in the
locations too if these are shown. -/
structure Agree (o : DumpOptions) {α : Type} (forget : α → α) (a b : α) : Prop where
  places : o.includeAttributes = true → a = b
  rest : forget a = forget b

namespace Agree

variable {α β γ : Type} {forgetα : α → α} {forgetβ : β → β} {forgetγ : γ → γ}

/-- What is built from parts that agree agrees. -/
theorem map {a a' : α} (ha : Agree o forgetα a a') (f : α → β)
    (hf : ∀ a, forgetβ (f a) = f (forgetα a)) : Agree o forgetβ (f a) (f a') where
  places ho := by rw [ha.places ho]
  rest := by rw [hf, hf, ha.rest]

theorem map₂ {a a' : α} {b b' : β} (ha : Agree o forgetα a a') (hb : Agree o forgetβ b b')
    (f : α → β → γ) (hf : ∀ a b, forgetγ (f a b) = f (forgetα a) (forgetβ b)) :
    Agree o forgetγ (f a b) (f a' b') where
  places ho := by rw [ha.places ho, hb.places ho]
  rest := by rw [hf, hf, ha.rest, hb.rest]

end Agree

/-! ## Arguments -/

/-- A label that is the name of one of some members. -/
def LabelledBy (names : List String) (a : Option String × Term) : Prop :=
  ∃ name ∈ names, a.1 = some name

/-- After an absent field all arguments are labelled with the names of their fields. -/
theorem Fields.labelledBy_of_mem_args {last : Bool → List (Option String × Term)}
    {names : List String} (hlast : ∀ a ∈ last true, LabelledBy names a) :
    {fs : List Field} → (v : Fields fs) →
    ∀ a ∈ v.args o last true, LabelledBy (fs.map Field.name ++ names) a
  | _, .nil, a, ha => hlast a ha
  | f :: fs, .cons slot rest, a, ha => by
    have hrest := Fields.labelledBy_of_mem_args hlast rest a
    have hbelow (h : a ∈ rest.args o last true) :
        LabelledBy ((f :: fs).map Field.name ++ names) a := by
      obtain ⟨name, hname, hlabel⟩ := hrest h
      exact ⟨name, List.mem_cons_of_mem _ hname, hlabel⟩
    rw [Fields.args] at ha
    split at ha
    · exact hbelow ha
    · rcases List.mem_cons.mp ha with rfl | hmem
      · exact ⟨f.name, List.mem_cons_self, rfl⟩
      · exact hbelow hmem

/-- The arguments after an absent field are not those of the field. -/
private theorem args_append_ne {last : Bool → List (Option String × Term)} {names : List String}
    {f : Field} {fs : List Field} {labels : Bool} {t : Term}
    {more more' : List (Option String × Term)}
    (hnodup : ((f :: fs).map Field.name ++ names).Nodup)
    (hlast : ∀ a ∈ last true, LabelledBy names a) (hmore : ∀ a ∈ more, LabelledBy names a)
    (v : Fields fs) :
    v.args o last true ++ more ≠ (if labels then some f.name else none, t) :: more' := by
  intro h
  -- the argument of the field would stand among those after it
  have hmem : (if labels then some f.name else none, t) ∈ v.args o last true ++ more :=
    h ▸ List.mem_cons_self
  have hlabelled : LabelledBy (fs.map Field.name ++ names)
      (if labels then some f.name else none, t) := by
    rcases List.mem_append.mp hmem with hargs | hrest
    · exact v.labelledBy_of_mem_args hlast _ hargs
    · obtain ⟨name, hname, hlabel⟩ := hmore _ hrest
      exact ⟨name, List.mem_append_right _ hname, hlabel⟩
  obtain ⟨name, hname, hlabel⟩ := hlabelled
  -- the field has no label, or one that belongs to no member after it
  cases labels with
  | false => cases hlabel
  | true =>
    obtain rfl := Option.some.inj hlabel
    exact (List.nodup_cons.mp hnodup).1 hname

/-! ## Locations -/

/-- The place of a node is determined by the arguments for it. -/
private theorem Category.locationArgs_injective {c : Category} {p q : c.Place}
    (h : c.locationArgs p = c.locationArgs q) : p = q := by
  have hattributes {l l' : Location}
      (h : l.attributes.map (fun a => (some a.1, Term.atom (toString a.2.toNat))) =
        l'.attributes.map (fun a => (some a.1, Term.atom (toString a.2.toNat)))) :
      l = l' := by
    refine Location.attributes_injective ((List.map_inj_right fun a b hab => ?_).mp h)
    obtain ⟨hname, hnumber⟩ := Prod.mk.inj hab
    exact Prod.ext (Option.some.inj hname)
      (UInt64.toNat_inj.mp (toString_nat_injective (Term.atom.inj hnumber)))
  cases c
  case stmt | expr | arg | keyword | «alias» => exact hattributes h
  all_goals rfl

/-- The arguments for a location are labelled with the names of its parts. -/
private theorem Category.labelledBy_of_mem_locationArgs {c : Category} {p : c.Place} :
    ∀ a ∈ c.locationArgs p, LabelledBy Location.partNames a := by
  intro a ha
  rw [Category.locationArgs] at ha
  split at ha
  · cases ha
  · next l _ =>
    obtain ⟨⟨name, n⟩, hpart, rfl⟩ := List.mem_map.mp ha
    exact ⟨name, l.names_attributes_sublist.subset (List.mem_map_of_mem hpart), rfl⟩

/-! ## Nodes -/

mutual

/-- The term of a tree determines the tree. -/
theorem Node.agree_of_term_eq : {c : Category} → (a b : Node c) →
    a.AllScalars Scalar.NotFloat → b.AllScalars Scalar.NotFloat → a.term o = b.term o →
    Agree o Node.unplaced a b
  | c, .mk k fs p, .mk k' fs' p', ha, hb, h => by
    rw [Node.term_mk, Node.term_mk] at h
    obtain ⟨hname, hargs⟩ := Term.call.inj h
    obtain rfl := Kind.className_injective hname
    -- everything after the fields is labelled with names that no field has
    have hnodup : (k.fields.map Field.name ++ (k.emptyFields ++ Location.partNames)).Nodup := by
      rw [← List.append_assoc]
      exact (List.nodup_cons.mp k.memberNames_nodup).2
    have hlast : ∀ a ∈ k.emptyArgs true, LabelledBy (k.emptyFields ++ Location.partNames) a := by
      intro a ha
      obtain ⟨name, hname, rfl⟩ := List.mem_map.mp ha
      exact ⟨name, List.mem_append_left _ hname, rfl⟩
    have hmore (p : c.Place) : ∀ a ∈ (if o.includeAttributes then c.locationArgs p else []),
        LabelledBy (k.emptyFields ++ Location.partNames) a := by
      split
      · intro a ha
        obtain ⟨name, hname, hlabel⟩ := Category.labelledBy_of_mem_locationArgs a ha
        exact ⟨name, List.mem_append_right _ hname, hlabel⟩
      · nofun
    obtain ⟨hfields, hplaces⟩ := Fields.agree_of_args_eq fs fs' ha hb hnodup hlast (hmore p)
      (hmore p') hargs
    refine ⟨fun ho => ?_, by rw [Node.unplaced, Node.unplaced, hfields.rest]⟩
    -- with locations shown, what follows the fields are the parts of the place
    rw [if_pos ho, if_pos ho] at hplaces
    rw [hfields.places ho, Category.locationArgs_injective hplaces]
termination_by structural _ a => a

/-- The arguments for the fields determine the fields and what comes after them. -/
theorem Fields.agree_of_args_eq : {fs : List Field} → (u v : Fields fs) →
    u.AllScalars Scalar.NotFloat → v.AllScalars Scalar.NotFloat →
    {last : Bool → List (Option String × Term)} → {names : List String} →
    (fs.map Field.name ++ names).Nodup → (∀ a ∈ last true, LabelledBy names a) →
    {labels : Bool} → {more more' : List (Option String × Term)} →
    (∀ a ∈ more, LabelledBy names a) → (∀ a ∈ more', LabelledBy names a) →
    u.args o last labels ++ more = v.args o last labels ++ more' →
    Agree o Fields.unplaced u v ∧ more = more'
  | _, .nil, .nil, _, _, _, _, _, _, _, _, _, _, _, h =>
    ⟨⟨fun _ => rfl, rfl⟩, List.append_cancel_left h⟩
  | f :: fs, .cons s us, .cons t vs, hu, hv, last, names, hnodup, hlast, labels, more, more',
      hmore, hmore', h => by
    obtain ⟨hs, hus⟩ := hu
    obtain ⟨ht, hvs⟩ := hv
    have hslot := Slot.agree_of_term?_eq s t hs ht
    have hrest {labels : Bool}
        (h : us.args o last labels ++ more = vs.args o last labels ++ more') :
        Agree o Fields.unplaced us vs ∧ more = more' :=
      Fields.agree_of_args_eq us vs hus hvs (List.nodup_cons.mp hnodup).2 hlast hmore hmore' h
    have hcons (hslot : Agree o Slot.unplaced s t) (hrest : Agree o Fields.unplaced us vs) :
        Agree o Fields.unplaced (.cons s us) (.cons t vs) :=
      hslot.map₂ hrest Fields.cons fun _ _ => rfl
    rw [Fields.args, Fields.args] at h
    -- a field that is absent on one side only would be missed in the arguments of the other
    cases hsterm : s.term? o with
    | none =>
      cases htterm : t.term? o with
      | none =>
        rw [hsterm, htterm] at h
        obtain ⟨hagree, hmore⟩ := hrest h
        exact ⟨hcons (hslot (hsterm.trans htterm.symm)) hagree, hmore⟩
      | some b =>
        rw [hsterm, htterm] at h
        exact absurd h (args_append_ne hnodup hlast hmore us)
    | some a =>
      cases htterm : t.term? o with
      | none =>
        rw [hsterm, htterm] at h
        exact absurd h.symm (args_append_ne hnodup hlast hmore' vs)
      | some b =>
        rw [hsterm, htterm] at h
        obtain ⟨hhead, htail⟩ := List.cons.inj h
        obtain ⟨-, rfl⟩ := Prod.mk.inj hhead
        obtain ⟨hagree, hmore⟩ := hrest htail
        exact ⟨hcons (hslot (hsterm.trans htterm.symm)) hagree, hmore⟩
termination_by structural _ u => u

/-- The term of a field determines the field; an absent field has none. -/
theorem Slot.agree_of_term?_eq : {k : Content} → (s t : Slot k) →
    s.AllScalars Scalar.NotFloat → t.AllScalars Scalar.NotFloat → s.term? o = t.term? o →
    Agree o Slot.unplaced s t
  | _, .node a, .node b, ha, hb, h =>
    (Node.agree_of_term_eq a b ha hb (Option.some.inj h)).map Slot.node fun _ => rfl
  | _, .absent, .absent, _, _, _ => ⟨fun _ => rfl, rfl⟩
  | _, .absent, .present _, _, _, h => nomatch h
  | _, .present _, .absent, _, _, h => nomatch h
  | _, .present a, .present b, ha, hb, h =>
    (Node.agree_of_term_eq a b ha hb (Option.some.inj h)).map Slot.present fun _ => rfl
  | _, .list as, .list bs, ha, hb, h =>
    have hterms := Term.list.inj (Option.some.inj h)
    (Nodes.agree_of_terms_eq as bs ha hb hterms).map Slot.list fun _ => rfl
  | .scalar s, .scalar v, .scalar w, hv, hw, h => by
    obtain rfl := s.term?_injective hv hw h
    exact ⟨fun _ => rfl, rfl⟩
termination_by structural _ s => s

/-- The terms of the items of a list determine the list; a gap is not taken for a node, since the
term of a node is a call. -/
theorem Nodes.agree_of_terms_eq : {c : Category} → {gaps : Bool} → (as bs : Nodes c gaps) →
    as.AllScalars Scalar.NotFloat → bs.AllScalars Scalar.NotFloat → as.terms o = bs.terms o →
    Agree o Nodes.unplaced as bs
  | _, _, .nil, .nil, _, _, _ => ⟨fun _ => rfl, rfl⟩
  | _, _, .cons a as, .cons b bs, ha, hb, h =>
    (Node.agree_of_term_eq a b ha.1 hb.1 (List.cons.inj h).1).map₂
      (Nodes.agree_of_terms_eq as bs ha.2 hb.2 (List.cons.inj h).2) Nodes.cons fun _ _ => rfl
  | _, _, .gap as, .gap bs, ha, hb, h =>
    (Nodes.agree_of_terms_eq as bs ha hb (List.cons.inj h).2).map Nodes.gap fun _ => rfl
  | _, _, .nil, .cons _ _, _, _, h => nomatch h
  | _, _, .nil, .gap _, _, _, h => nomatch h
  | _, _, .cons _ _, .nil, _, _, h => nomatch h
  | _, _, .gap _, .nil, _, _, h => nomatch h
  | _, _, .cons (.mk _ _ _) _, .gap _, _, _, h => nomatch (List.cons.inj h).1
  | _, _, .gap _, .cons (.mk _ _ _) _, _, _, h => nomatch (List.cons.inj h).1
termination_by structural _ _ as => as

end

/-! ## Trees without locations -/

mutual

/-- Where locations are not shown, forgetting them does not change the term of a tree. -/
theorem Node.term_unplaced (ho : o.includeAttributes = false) : {c : Category} → (n : Node c) →
    n.unplaced.term o = n.term o
  | _, .mk k fs p => by
    rw [Node.unplaced, Node.term_mk, Node.term_mk, Fields.args_unplaced ho fs, ho]
    rfl

theorem Fields.args_unplaced (ho : o.includeAttributes = false) : {fs : List Field} →
    (v : Fields fs) → {last : Bool → List (Option String × Term)} → {labels : Bool} →
    v.unplaced.args o last labels = v.args o last labels
  | _, .nil, _, _ => rfl
  | _, .cons slot rest, _, _ => by
    rw [Fields.unplaced, Fields.args, Fields.args, Slot.term?_unplaced ho slot,
      Fields.args_unplaced ho rest, Fields.args_unplaced ho rest]

theorem Slot.term?_unplaced (ho : o.includeAttributes = false) : {k : Content} →
    (slot : Slot k) → slot.unplaced.term? o = slot.term? o
  | _, .node n => by rw [Slot.unplaced, Slot.term?, Slot.term?, Node.term_unplaced ho n]
  | _, .absent => rfl
  | _, .present n => by rw [Slot.unplaced, Slot.term?, Slot.term?, Node.term_unplaced ho n]
  | _, .list ns => by rw [Slot.unplaced, Slot.term?, Slot.term?, Nodes.terms_unplaced ho ns]
  | .scalar _, .scalar _ => rfl

theorem Nodes.terms_unplaced (ho : o.includeAttributes = false) : {c : Category} →
    {gaps : Bool} → (ns : Nodes c gaps) → ns.unplaced.terms o = ns.terms o
  | _, _, .nil => rfl
  | _, _, .cons n rest => by
    rw [Nodes.unplaced, Nodes.terms, Nodes.terms, Node.term_unplaced ho n,
      Nodes.terms_unplaced ho rest]
  | _, _, .gap rest => by
    rw [Nodes.unplaced, Nodes.terms, Nodes.terms, Nodes.terms_unplaced ho rest]

end

/-! ## Dumps -/

/-- The term of a node at the top of a tree. -/
def Root.term (o : DumpOptions) (r : Root) : Term := r.toNode.2.term o

/-- No constant in the tree is a float. -/
def Root.NoFloats (r : Root) : Prop := ∀ n ∈ r.subtrees, ∀ c ∈ n.constants, c.isFloat = false

instance (r : Root) : Decidable r.NoFloats :=
  inferInstanceAs (Decidable (∀ n ∈ r.subtrees, ∀ c ∈ n.constants, c.isFloat = false))

/-- A tree has no floats exactly when none of its scalars is one. -/
theorem Root.noFloats_iff (r : Root) : r.NoFloats ↔ r.toNode.2.AllScalars Scalar.NotFloat := by
  rw [Node.allScalars_iff]
  exact forall₂_congr fun n _ => (Fields.ownScalars_constants_iff n.2.fields).symm

/-- The dump of a node at the top of a tree is the text of its term. -/
private theorem Root.render_eq (r : Root) :
    r.render o = (r.term o).text (o.indent.map Indent.unit) 0 := by
  cases r <;> rfl

/-- Equal dumps are dumps of equal terms, whether on one line or over several. -/
theorem Root.term_eq_of_render_eq {a b : Root} (hindent : ∀ i ∈ o.indent, i.IsBlank)
    (h : a.render o = b.render o) : a.term o = b.term o := by
  have ha : (a.term o).Lexical := a.toNode.2.lexical_term o
  have hb : (b.term o).Lexical := b.toNode.2.lexical_term o
  rw [Root.render_eq, Root.render_eq] at h
  refine Term.line_injective ha hb ?_
  cases hi : o.indent with
  | none =>
    rw [hi, Option.map_none] at h
    rw [← Term.toList_text_none ha 0, h, Term.toList_text_none hb 0]
  | some i =>
    -- both texts become the lines of their terms when the line breaks go
    have hunit := (hindent i hi).unit
    rw [hi, Option.map_some] at h
    refine String.ofList_injective ?_
    rw [← Term.unbreak_text ha hunit 0, h, Term.unbreak_text hb hunit 0]

/-- Nodes with the same term are of the same class. -/
private theorem Node.className_eq_of_term_eq {c d : Category} {a : Node c} {b : Node d}
    (h : a.term o = b.term o) : a.className = b.className := by
  obtain ⟨k, fs, p⟩ := a
  obtain ⟨k', fs', p'⟩ := b
  rw [Node.term_mk, Node.term_mk] at h
  exact (Term.call.inj h).1

/-- The name of the class of a node at the top of a tree is listed with its category. -/
private theorem Root.className_mem_topNames (r : Root) :
    r.toNode.2.className ∈ r.toNode.1.topNames := by
  cases r with
  | mod n | stmt n | expr n => exact n.kind.className_mem_topNames (by decide)

/-- The term of a node at the top of a tree determines the node. -/
theorem Root.agree_of_term_eq {a b : Root} (ha : a.NoFloats) (hb : b.NoFloats)
    (h : a.term o = b.term o) : Agree o Root.unplaced a b := by
  -- roots of different categories would have classes of the same name
  have hcategory : a.toNode.1 = b.toNode.1 :=
    Category.eq_of_mem_topNames (Node.className_eq_of_term_eq h ▸ a.className_mem_topNames)
      b.className_mem_topNames
  rw [Root.noFloats_iff] at ha hb
  cases a with
  | mod a =>
    cases b with
    | mod b => exact (Node.agree_of_term_eq a b ha hb h).map Root.mod fun _ => rfl
    | _ => cases hcategory
  | stmt a =>
    cases b with
    | stmt b => exact (Node.agree_of_term_eq a b ha hb h).map Root.stmt fun _ => rfl
    | _ => cases hcategory
  | expr a =>
    cases b with
    | expr b => exact (Node.agree_of_term_eq a b ha hb h).map Root.expr fun _ => rfl
    | _ => cases hcategory

/-- Where locations are not shown, forgetting them does not change the dump. -/
theorem Root.render_unplaced (ho : o.includeAttributes = false) (r : Root) :
    r.unplaced.render o = r.render o := by
  have hterm : r.unplaced.term o = r.term o := by cases r <;> exact Node.term_unplaced ho _
  rw [Root.render_eq, Root.render_eq, hterm]

/-- The dump of a tree without floats, on one line or indented by blanks, determines the tree: two
trees have the same dump exactly when they are the same, up to the locations of their nodes if these
are not shown. -/
theorem Root.render_eq_iff {a b : Root} {o : DumpOptions} (ha : a.NoFloats) (hb : b.NoFloats)
    (hindent : ∀ i ∈ o.indent, i.IsBlank) :
    a.render o = b.render o ↔
      if o.includeAttributes then a = b else a.unplaced = b.unplaced := by
  have hagree (h : a.render o = b.render o) : Agree o Root.unplaced a b :=
    Root.agree_of_term_eq ha hb (Root.term_eq_of_render_eq hindent h)
  cases ho : o.includeAttributes with
  | true =>
    rw [if_pos rfl]
    exact ⟨fun h => (hagree h).places ho, fun h => congrArg (Root.render · o) h⟩
  | false =>
    rw [if_neg Bool.false_ne_true]
    refine ⟨fun h => (hagree h).rest, fun h => ?_⟩
    rw [← Root.render_unplaced ho a, ← Root.render_unplaced ho b, h]

/-- Two strings that look like one another's fields, in nodes at different places, dumped with an
indentation and without the names of the fields. -/
theorem Root.render_eq_iff_strings :
    let o : DumpOptions := ⟨some (.spaces 2), false, false⟩
    let a : Root := .expr (Expr.constantKind (.str "a', kind='u") none)
    let b : Root :=
      .expr ((Expr.constantKind (.str "a") (some "u")).at_ ⟨some 1, some 0, none, none⟩)
    a.NoFloats ∧ b.NoFloats ∧ (∀ i ∈ o.indent, i.IsBlank) ∧
      (a.render o = b.render o ↔ a.unplaced = b.unplaced) := by
  intro o a b
  have ha : a.NoFloats := by decide +kernel
  have hb : b.NoFloats := by decide +kernel
  have hindent : ∀ i ∈ o.indent, i.IsBlank := by
    rintro i hi
    obtain rfl := Option.some.inj hi
    trivial
  exact ⟨ha, hb, hindent, Root.render_eq_iff ha hb hindent⟩

end SyntaxDump
