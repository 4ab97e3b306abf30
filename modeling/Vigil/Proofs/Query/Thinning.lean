import Vigil.Proofs.Event.Fields
import Vigil.Proofs.Query.Fields

/-! # Missing data

A query without `not` and `!=` asks for data and never for their absence, so an event that has less
is selected only if the whole event is.

* `Value.Thinned.scalars_sublist`: deleting items of sequences leaves no scalars but those that were
  there;
* `Event.Emptied.scalarsAt_subset`: neither does deleting or blanking attributes;
* `Condition.IsPositive.holds_mono`: a condition without negations that holds of some scalars holds
  of more;
* `isPositive_of_condition?`: tokens without negations make a condition without negations;
* `selects_thinned`: a query without negations that selects what is left of an event selects the
  event. -/

namespace Vigil

/-! ### Deleting items -/

namespace Value

mutual

/-- Whether a value comes from another by deleting items of the sequences in it. -/
inductive Thinned : Value → Value → Prop
  | scalar (s : Scalar) : Thinned (.scalar s) (.scalar s)
  | sequence {vs ws : List Value} (h : ThinnedItems vs ws) : Thinned (.sequence vs) (.sequence ws)
  | record {fs gs : Fields} (h : ThinnedFields fs gs) : Thinned (.record fs) (.record gs)

/-- Whether items come from others by deleting some of them, and items of the sequences in those that
are kept. -/
inductive ThinnedItems : List Value → List Value → Prop
  | nil : ThinnedItems [] []
  | drop {vs ws : List Value} (w : Value) (h : ThinnedItems vs ws) : ThinnedItems vs (w :: ws)
  | keep {v w : Value} {vs ws : List Value} (hv : Thinned v w) (h : ThinnedItems vs ws) :
    ThinnedItems (v :: vs) (w :: ws)

/-- Whether fields come from others of the same names by deleting items of the sequences in them. -/
inductive ThinnedFields : Fields → Fields → Prop
  | nil : ThinnedFields [] []
  | cons {v w : Value} {fs gs : Fields} (name : String) (hv : Thinned v w)
    (h : ThinnedFields fs gs) : ThinnedFields ((name, v) :: fs) ((name, w) :: gs)

end

mutual

/-- Deleting items of sequences leaves no scalars but those that were there. -/
theorem Thinned.scalars_sublist {v w : Value} : Thinned v w → v.scalars.Sublist w.scalars
  | .scalar s => List.Sublist.refl [s]
  | .sequence h => h.scalarsOf_sublist
  | .record _ => List.Sublist.refl []

theorem ThinnedItems.scalarsOf_sublist {vs ws : List Value} :
    ThinnedItems vs ws → (scalarsOf vs).Sublist (scalarsOf ws)
  | .nil => List.Sublist.refl []
  | .drop w h => h.scalarsOf_sublist.trans (List.sublist_append_right w.scalars _)
  | .keep hv h => hv.scalars_sublist.append h.scalarsOf_sublist

end

end Value

namespace Event

variable {e e' : Event} {name field : String} {v : Value}

/-- Whether one event has at most the data of another in a field: nothing, a record, or what
deleting items of sequences leaves. -/
def ThinnedAt (e' e : Event) (field : String) : Prop :=
  ∀ v', e'.find? field = some v' →
    (∃ fs, v' = .record fs) ∨ ∃ v, e.find? field = some v ∧ Value.Thinned v' v

theorem ThinnedAt.scalarsAt_subset (h : ThinnedAt e' e field) :
    e'.scalarsAt field ⊆ e.scalarsAt field := by
  rcases hfind : e'.find? field with _ | v'
  · rw [scalarsAt_of_missing hfind]
    exact List.nil_subset _
  · rw [scalarsAt_of_find? hfind]
    rcases h v' hfind with ⟨fs, rfl⟩ | ⟨v, hv, hthin⟩
    · exact List.nil_subset _
    · rw [scalarsAt_of_find? hv]
      exact hthin.scalars_sublist.subset

/-! ### Deleting and blanking attributes -/

/-- An event without the attribute of a name. -/
def without (e : Event) (name : String) : Event := ⟨e.fields.filter fun field => field.1 != name⟩

/-- The values with nothing in them. -/
inductive IsBlank : Value → Prop
  | sequence : IsBlank (.sequence [])
  | record : IsBlank (.record [])

theorem IsBlank.scalars_eq (h : IsBlank v) : v.scalars = [] := by
  cases h <;> rfl

theorem lookup_without (e : Event) :
    (e.without name).fields.lookup field = if field = name then none else e.fields.lookup field := by
  rw [without, lookup_filter (· != name)]
  simp

/-- Whether an event has every attribute as another has it, or nothing under its name, or a blank
there. -/
def Emptied (e' e : Event) : Prop :=
  ∀ name, e'.fields.lookup name = e.fields.lookup name ∨ e'.find? name = none ∨
    ∃ v, e'.fields.lookup name = some v ∧ IsBlank v

theorem find?_without_of_no_dot (e : Event) (h : '.' ∉ name.toList) :
    (e.without name).find? name = none := by
  rw [find?_of_no_dot _ h, lookup_without, if_pos rfl]

theorem emptied_without (h : (e.without name).find? name = none) :
    Emptied (e.without name) e := by
  intro field
  by_cases hfield : field = name
  · obtain rfl := hfield
    exact Or.inr (Or.inl h)
  · left
    rw [lookup_without, if_neg hfield]

/-- A name with dots may hide a nested attribute, which is found once the name is deleted. -/
example : (without ⟨[("user.id", .text "x"), ("user", .record [("id", .text "y")])]⟩
    "user.id").find? "user.id" = some (.text "y") := by rfl

theorem emptied_insert (e : Event) (hv : IsBlank v) : Emptied (e.insert name v) e := by
  intro field
  by_cases hfield : field = name
  · right
    right
    refine ⟨v, ?_, hv⟩
    rw [lookup_insert, if_pos hfield]
  · left
    rw [lookup_insert, if_neg hfield]

/-- What dots lead to is what they led to, or nothing. -/
theorem Emptied.descend_eq (h : Emptied e' e) (head cs : List Char) :
    descend e'.fields head cs = descend e.fields head cs ∨ descend e'.fields head cs = none := by
  induction cs generalizing head with
  | nil => exact Or.inl rfl
  | cons c cs ih =>
    by_cases hc : c = '.'
    · simp only [descend, if_pos hc]
      rcases h (String.ofList head.reverse) with hsame | hmissing | ⟨v, hv, hblank⟩
      · left
        rw [hsame]
      · right
        rw [lookup_of_find?_none hmissing]
      · right
        rw [hv]
        cases hblank with
        | sequence => rfl
        | record =>
          have hnothing : descend [] [] cs = none := descend_nil [] cs
          simp [hnothing]
    · simp only [descend, if_neg hc]
      exact ih (c :: head)

theorem Emptied.scalarsAt_subset (h : Emptied e' e) (field : String) :
    e'.scalarsAt field ⊆ e.scalarsAt field := by
  rcases h field with hsame | hmissing | ⟨v, hv, hblank⟩
  · rcases hlookup : e.fields.lookup field with _ | v
    · have hfind' := find?_of_lookup_none (hsame.trans hlookup)
      rcases h.descend_eq [] field.toList with hdescend | hdescend
      · rw [scalarsAt, scalarsAt, hfind', hdescend, find?_of_lookup_none hlookup]
        exact List.Subset.refl _
      · rw [scalarsAt_of_missing (hfind'.trans hdescend)]
        exact List.nil_subset _
    · rw [scalarsAt_of_find? (find?_of_lookup hlookup),
        scalarsAt_of_find? (find?_of_lookup (hsame.trans hlookup))]
      exact List.Subset.refl _
  · rw [scalarsAt_of_missing hmissing]
    exact List.nil_subset _
  · rw [scalarsAt_of_find? (find?_of_lookup hv), hblank.scalars_eq]
    exact List.nil_subset _

theorem Emptied.class? (h : Emptied e' e) : e'.class? = e.class? ∨ e'.class? = none := by
  unfold Event.class?
  rcases h classField with hsame | hmissing | ⟨v, hv, hblank⟩
  · left
    rw [hsame]
  · right
    rw [lookup_of_find?_none hmissing]
    rfl
  · right
    rw [hv]
    cases hblank <;> rfl

end Event

/-! ### Conditions without negations -/

namespace Query

variable {e e' : Event} {c : Condition} {ts : List Token} {q : Query} {text : String}

namespace Condition

/-- Whether a condition has neither `not` nor negated tests. -/
def IsPositive : Condition → Prop
  | .constant _ => True
  | .test t => t.form.isNegated = false
  | .negation _ => False
  | .conjunction c d => c.IsPositive ∧ d.IsPositive
  | .disjunction c d => c.IsPositive ∧ d.IsPositive

/-- **More data.** A condition without negations that holds of an event holds of any that has at
least its scalars. -/
theorem IsPositive.holds_mono (hc : c.IsPositive)
    (h : ∀ field ∈ c.fields, e'.scalarsAt field ⊆ e.scalarsAt field) (hholds : c.holds e' = true) :
    c.holds e = true := by
  have htests : ∀ t ∈ c.tests, e'.scalarsAt t.field ⊆ e.scalarsAt t.field :=
    fun t ht => h t.field (mem_fields.mpr ⟨t, ht, rfl⟩)
  clear h
  induction c with
  | constant b => exact hholds
  | test t =>
    obtain ⟨s, hs, o, ho, hsatisfied⟩ := (Test.holds_iff hc).mp hholds
    exact (Test.holds_iff hc).mpr ⟨s, htests t (List.mem_singleton_self t) hs, o, ho, hsatisfied⟩
  | negation c => exact hc.elim
  | conjunction c d ihc ihd =>
    obtain ⟨hl, hr⟩ := Bool.and_eq_true_iff.mp hholds
    have hleft := ihc hc.1 hl fun t ht => htests t (List.mem_append_left _ ht)
    have hright := ihd hc.2 hr fun t ht => htests t (List.mem_append_right _ ht)
    exact Bool.and_eq_true_iff.mpr ⟨hleft, hright⟩
  | disjunction c d ihc ihd =>
    rcases Bool.or_eq_true_iff.mp hholds with hl | hr
    · exact Bool.or_eq_true_iff.mpr
        (Or.inl (ihc hc.1 hl fun t ht => htests t (List.mem_append_left _ ht)))
    · exact Bool.or_eq_true_iff.mpr
        (Or.inr (ihd hc.2 hr fun t ht => htests t (List.mem_append_right _ ht)))

end Condition

/-! ### Texts without negations -/

/-- Whether tokens have neither `not` nor `!=` among them. -/
structure WithoutNegations (ts : List Token) : Prop where
  negation : .negation ∉ ts
  unequal : .comparison .unequal ∉ ts

namespace WithoutNegations

variable {us : List Token} {token : Token}

theorem of_subset (h : WithoutNegations us) (hts : ts ⊆ us) : WithoutNegations ts :=
  ⟨fun hmem => h.negation (hts hmem), fun hmem => h.unequal (hts hmem)⟩

theorem left (h : WithoutNegations (ts ++ us)) : WithoutNegations ts :=
  h.of_subset (List.subset_append_left ts us)

theorem right (h : WithoutNegations (ts ++ us)) : WithoutNegations us :=
  h.of_subset (List.subset_append_right ts us)

theorem tail (h : WithoutNegations (token :: ts)) : WithoutNegations ts :=
  h.of_subset (List.subset_cons_self token ts)

end WithoutNegations

theorem Leaf.isNegated_of_test? {l : Leaf} {t : Test} (h : l.test? = some t)
    (htokens : WithoutNegations l.tokens) : t.form.isNegated = false := by
  rw [test?_eq_some] at h
  cases l with
  | compare name c value =>
    obtain ⟨-, hform⟩ := Prod.mk.inj (Option.some.inj h)
    rw [← hform]
    cases c with
    | unequal => exact absurd (by simp [tokens]) htokens.unequal
    | equal => rfl
    | similar => rfl
  | call name field pattern patterns =>
    obtain ⟨call, -, hparts⟩ := Option.map_eq_some_iff.mp h
    rw [← (Prod.mk.inj hparts).2]
    rfl
  | member | option =>
    rw [← (Prod.mk.inj (Option.some.inj h)).2]
    rfl

theorem Derivation.isPositive {s : Symbol} {d : Derivation s} (h : d.condition? = some c)
    (htokens : WithoutNegations d.tokens) : c.IsPositive := by
  induction d generalizing c with
  | alone a ih => exact ih h htokens
  | single u ih => exact ih h htokens
  | plain p ih => exact ih h htokens
  | brackets e ih => exact ih h htokens.tail.left
  | or a e iha ihe =>
    obtain ⟨l, r, hl, hr, rfl⟩ := condition?_or_eq_some.mp h
    exact ⟨iha hl htokens.left, ihe hr htokens.right.tail⟩
  | and u a ihu iha =>
    obtain ⟨l, r, hl, hr, rfl⟩ := condition?_and_eq_some.mp h
    exact ⟨ihu hl htokens.left, iha hr htokens.right.tail⟩
  | not u ih => exact absurd List.mem_cons_self htokens.negation
  | leaf l =>
    obtain ⟨t, ht, rfl⟩ := condition?_leaf_eq_some.mp h
    exact Leaf.isNegated_of_test? ht htokens
  | constant b =>
    cases h
    trivial

theorem isPositive_of_condition? (h : condition? ts = .ok c) (hts : WithoutNegations ts) :
    c.IsPositive := by
  obtain ⟨d, rfl, hd⟩ := derives_of_condition? h
  exact d.isPositive hd hts

/-! ### Queries -/

theorem IsReadFrom.isPositive (h : q.IsReadFrom text) (hts : tokens? text.toList = .ok ts)
    (hnegations : WithoutNegations ts) : q.condition.IsPositive := by
  obtain ⟨us, rest, hus, hrest, hc⟩ := h.exists_tokens
  obtain rfl := Except.ok.inj (hts.symm.trans hus)
  rcases hrest with rfl | ⟨name, rfl⟩
  · exact isPositive_of_condition? hc hnegations
  · exact isPositive_of_condition? hc hnegations.tail.tail

theorem appliesTo_of_class? (h : e'.class? = e.class? ∨ e'.class? = none)
    (happlies : q.appliesTo e' = true) : q.appliesTo e = true := by
  rcases h with h | h
  · rwa [← appliesTo_congr h]
  · unfold appliesTo at happlies ⊢
    rcases hexpected : q.class? with _ | expected
    · rfl
    · simp [hexpected, h] at happlies

/-- A query without negations selects an event if it selects one with at most its scalars. -/
theorem selects_of_scalarsAt_subset (hq : q.condition.IsPositive)
    (hclass : e'.class? = e.class? ∨ e'.class? = none)
    (h : ∀ field ∈ q.fields, e'.scalarsAt field ⊆ e.scalarsAt field) (hselects : q.selects e' = true) :
    q.selects e = true := by
  obtain ⟨happlies, hholds⟩ := Bool.and_eq_true_iff.mp hselects
  exact Bool.and_eq_true_iff.mpr ⟨appliesTo_of_class? hclass happlies, hq.holds_mono h hholds⟩

/-- **Missing data never create a hit.** Let a query have neither `not` nor `!=`. Of two events of
one class, let one have at most the data of the other in each field that the query reads: nothing,
a record, or what deleting items of sequences leaves. If the query selects this one, it selects the
other. In particular, an event is selected if it is after an attribute has been deleted, so that
nothing is found under its name, or blanked. -/
theorem selects_thinned (h : q.IsReadFrom text) (hts : tokens? text.toList = .ok ts)
    (hnegations : WithoutNegations ts) :
    (∀ e e' : Event, e'.class? = e.class? →
      (∀ field ∈ q.fields, Event.ThinnedAt e' e field) →
        q.selects e' = true → q.selects e = true) ∧
    (∀ (e : Event) (name : String), (e.without name).find? name = none →
      q.selects (e.without name) = true → q.selects e = true) ∧
    ∀ (e : Event) (name : String) (v : Value), Event.IsBlank v →
      q.selects (e.insert name v) = true → q.selects e = true := by
  have hq : q.condition.IsPositive := h.isPositive hts hnegations
  have hemptied {e e' : Event} (he : Event.Emptied e' e) (hselects : q.selects e' = true) :
      q.selects e = true :=
    selects_of_scalarsAt_subset hq he.class? (fun field _ => he.scalarsAt_subset field) hselects
  refine ⟨fun e e' hclass hthin => ?_, fun e name hname => ?_, fun e name v hv => ?_⟩
  · exact selects_of_scalarsAt_subset hq (Or.inl hclass)
      fun field hfield => (hthin field hfield).scalarsAt_subset
  · exact hemptied (Event.emptied_without hname)
  · exact hemptied (Event.emptied_insert e hv)

/-- An item of a sequence in a sequence is enough, and a missing attribute no help. -/
theorem selects_thinned_tags : ∃ q : Query, q.IsReadFrom "any where tags == \"x\" or user.id == 1" ∧
    q.selects ⟨[("tags", .sequence [.text "y", .sequence [.scalar .null, .text "x"]])]⟩ = true ∧
    ∀ e : Event, q.selects (e.without "tags") = true → q.selects e = true := by
  let kept : Event := ⟨[("tags", .sequence [.sequence [.text "x"]])]⟩
  let text : String := "any where tags == \"x\" or user.id == 1"
  let ts : List Token := [.identifier "any", .head, .identifier "tags", .comparison .equal,
    .literal (.text "x"), .disjunction, .identifier "user.id", .comparison .equal,
    .literal (.integer 1)]
  have hread : (read? text).toOption.map (fun q => (q.fields, q.selects kept)) =
      some (["tags", "user.id"], true) := by decide +kernel
  obtain ⟨q, hq, heq⟩ := Option.map_eq_some_iff.mp hread
  obtain ⟨hfields, hselects⟩ := Prod.mk.inj heq
  have hts : tokens? text.toList = .ok ts := by
    rw [← toOption_eq_some]
    decide +kernel
  have hnegations : WithoutNegations ts := ⟨by decide, by decide⟩
  have hisRead : q.IsReadFrom text := Or.inl (toOption_eq_some.mp hq)
  obtain ⟨hthin, hdelete, -⟩ := selects_thinned hisRead hts hnegations
  refine ⟨q, hisRead, hthin _ kept rfl ?_ hselects, fun e => ?_⟩
  · intro field hfield v hv
    rw [hfields] at hfield
    rcases List.mem_pair.mp hfield with rfl | rfl
    · obtain rfl : Value.sequence [.sequence [.text "x"]] = v := Option.some.inj hv
      have hitems : Value.Thinned (.sequence [.text "x"]) (.sequence [.scalar .null, .text "x"]) :=
        .sequence (.drop _ (.keep (.scalar _) .nil))
      exact Or.inr ⟨_, rfl, .sequence (.drop _ (.keep hitems .nil))⟩
    · have hmissing : kept.find? "user.id" = none := by rfl
      cases hmissing.symm.trans hv
  · exact hdelete e "tags" (Event.find?_without_of_no_dot e (by decide))

end Query

end Vigil
