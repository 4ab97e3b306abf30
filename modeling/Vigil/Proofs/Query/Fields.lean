import Mathlib.Data.List.Basic
import Vigil.Proofs.Query.Dependence
import Vigil.Proofs.Query.Reading
import Vigil.Proofs.Query.Trees

/-! # The fields of a query

The fields that a query lists are those that its text tests. `testedFields` finds them in the tokens
alone, without the tree.

* `firstOccurrences_eraseDups`: names without repetitions, in the order of their first occurrences;
* `Derivation.testedFields_tokens`: the leaves of a tree name the fields in the order of its tokens;
* `fields_exact`: the fields of a query that has been read. -/

namespace Vigil

/-! ### First occurrences -/

/-- Whether some names are those that occur in a list, each once and in the order in which they
first occur. -/
structure FirstOccurrences (names all : List String) : Prop where
  nodup : names.Nodup
  mem : ∀ n, n ∈ names ↔ n ∈ all
  order : ∀ m ∈ names, ∀ n ∈ names, names.idxOf m < names.idxOf n ↔ all.idxOf m < all.idxOf n

/-- The first name of a list stands before any other; others stand as they do in the rest. -/
theorem idxOf_cons_lt_iff {a m n : String} {l : List String} :
    (a :: l).idxOf m < (a :: l).idxOf n ↔ a ≠ n ∧ (a = m ∨ l.idxOf m < l.idxOf n) := by
  by_cases han : a = n
  · simp [List.idxOf_cons, han]
  by_cases ham : a = m
  · have hmn : m ≠ n := fun h => han (ham.trans h)
    simp [ham, hmn]
  · rw [List.idxOf_cons_ne _ ham, List.idxOf_cons_ne _ han, Nat.succ_lt_succ_iff]
    simp [han, ham]

theorem idxOf_filter_lt_iff {p : String → Bool} {l : List String} {m n : String} (hm : p m = true)
    (hn : p n = true) : (l.filter p).idxOf m < (l.filter p).idxOf n ↔ l.idxOf m < l.idxOf n := by
  induction l with
  | nil => rfl
  | cons a l ih =>
    rw [idxOf_cons_lt_iff]
    by_cases ha : p a = true
    · rw [List.filter_cons_of_pos ha, idxOf_cons_lt_iff, ih]
    · have ham : a ≠ m := by
        rintro rfl
        exact ha hm
      have han : a ≠ n := by
        rintro rfl
        exact ha hn
      rw [List.filter_cons_of_neg ha, ih]
      simp [ham, han]

theorem nodup_eraseDups : ∀ l : List String, l.eraseDups.Nodup
  | [] => List.nodup_nil
  | a :: l => by
    have hshort : (l.filter fun b => !b == a).length ≤ l.length := List.length_filter_le _ _
    rw [List.eraseDups_cons, List.nodup_cons]
    refine ⟨fun ha => ?_, nodup_eraseDups _⟩
    rw [List.mem_eraseDups] at ha
    simp at ha
termination_by l => l.length

theorem idxOf_eraseDups_lt_iff (m n : String) :
    ∀ l : List String, l.eraseDups.idxOf m < l.eraseDups.idxOf n ↔ l.idxOf m < l.idxOf n
  | [] => Iff.rfl
  | a :: l => by
    have hshort : (l.filter fun b => !b == a).length ≤ l.length := List.length_filter_le _ _
    rw [List.eraseDups_cons, idxOf_cons_lt_iff, idxOf_cons_lt_iff]
    by_cases han : a = n
    · simp [han]
    by_cases ham : a = m
    · simp [ham]
    · rw [idxOf_eraseDups_lt_iff m n (l.filter fun b => !b == a),
        idxOf_filter_lt_iff (by simpa using Ne.symm ham) (by simpa using Ne.symm han)]
termination_by l => l.length

theorem firstOccurrences_eraseDups (l : List String) : FirstOccurrences l.eraseDups l where
  nodup := nodup_eraseDups l
  mem _ := List.mem_eraseDups
  order m _ n _ := idxOf_eraseDups_lt_iff m n l

namespace Query

variable {ts rest : List Token} {c : Condition} {q : Query} {text : String}

/-! ### Fields among tokens -/

/-- The fields that tokens test, from left to right: the name before an operator, the name after the
bracket of a call, and what stands before the last dot of any other name. The class in a head is no
field. -/
def testedFields : List Token → List String
  | [] => []
  | .identifier _ :: .head :: rest => testedFields rest
  | .identifier name :: .comparison _ :: rest => name :: testedFields rest
  | .identifier name :: .member _ :: rest => name :: testedFields rest
  | .identifier _ :: .opening :: .identifier field :: rest => field :: testedFields rest
  | .identifier name :: rest => ((splitAtLastDot name).map (·.1)).toList ++ testedFields rest
  | _ :: rest => testedFields rest

/-- The field that a leaf tests. -/
def Leaf.field : Leaf → String
  | .compare name _ _ => name
  | .member name _ _ _ => name
  | .call _ field _ _ => field
  | .option field _ _ _ _ => field

theorem Leaf.field_of_test? {l : Leaf} {t : Test} (h : l.test? = some t) : t.field = l.field := by
  rw [test?_eq_some] at h
  cases l with
  | call name field pattern patterns =>
    obtain ⟨call, -, hparts⟩ := Option.map_eq_some_iff.mp h
    exact (congrArg Prod.fst hparts).symm
  | compare | member | option => exact (congrArg Prod.fst (Option.some.inj h)).symm

theorem testedFields_listed (values : List Literal) :
    testedFields (listed values ++ rest) = testedFields rest := by
  induction values with
  | nil => rfl
  | cons v values ih => exact ih

/-- A leaf names its field, wherever a condition can end after it. -/
theorem Leaf.testedFields_tokens (l : Leaf) (hrest : Stops negationPower rest) :
    testedFields (l.tokens ++ rest) = l.field :: testedFields rest := by
  cases l with
  | compare name c v => rfl
  | member name cased v vs =>
    simp only [tokens, List.cons_append, List.nil_append, List.append_assoc, testedFields,
      testedFields_listed, field]
  | call name field s ss =>
    simp only [tokens, List.cons_append, List.nil_append, List.append_assoc, testedFields,
      testedFields_listed, Leaf.field]
  | option field chosen hfield hchosen hdot =>
    have hsplit : splitAtLastDot (field ++ "." ++ chosen) = some (field, chosen) :=
      splitAtLastDot_eq_some.mpr ⟨rfl, hdot⟩
    have hname : testedFields (.identifier (field ++ "." ++ chosen) :: rest) =
        ((splitAtLastDot (field ++ "." ++ chosen)).map (·.1)).toList ++ testedFields rest := by
      unfold Stops at hrest
      split at hrest
      case h_5 => exact hrest.elim
      all_goals rfl
    rw [tokens, List.cons_append, List.nil_append, hname, hsplit]
    rfl

theorem Derivation.testedFields_tokens {s : Symbol} (d : Derivation s)
    (hrest : Stops s.power rest) :
    testedFields (d.tokens ++ rest) = d.leaves.map Leaf.field ++ testedFields rest := by
  induction d generalizing rest with
  | alone a ih => exact ih (hrest.mono (by decide))
  | single u ih => exact ih (hrest.mono (by decide))
  | plain p ih => exact ih hrest
  | not u ih => exact ih hrest
  | or a e iha ihe =>
    have hstops : Stops Symbol.conjunction.power (.disjunction :: (e.tokens ++ rest)) :=
      stops_disjunction.mpr (by decide)
    have ha := iha hstops
    simp only [tokens, leaves, List.append_assoc, List.cons_append, List.map_append, ha]
    exact congrArg _ (ihe hrest)
  | and u a ihu iha =>
    have hstops : Stops Symbol.negation.power (.conjunction :: (a.tokens ++ rest)) :=
      stops_conjunction.mpr (by decide)
    have hu := ihu hstops
    simp only [tokens, leaves, List.append_assoc, List.cons_append, List.map_append, hu]
    exact congrArg _ (iha hrest)
  | leaf l => exact l.testedFields_tokens hrest
  | constant b => rfl
  | brackets e ih =>
    have hstops : Stops Symbol.disjunction.power (.closing :: rest) := stops_closing
    have he := ih hstops
    simp only [tokens, leaves, List.append_assoc, List.cons_append, List.nil_append]
    exact he

/-- The tokens of a condition name the fields of its tests, in the same order. -/
theorem testedFields_of_condition? (h : condition? ts = .ok c) :
    testedFields ts = c.tests.map (·.field) := by
  obtain ⟨d, rfl, hd⟩ := derives_of_condition? h
  have hstops : Stops Symbol.disjunction.power [] := stops_nil
  have htokens := d.testedFields_tokens hstops
  rw [List.append_nil] at htokens
  have hleaves : List.Forall₂ (fun l t => l.test? = some t) d.leaves c.tests :=
    Derivation.forall₂_leaves hd
  have hfields : List.Forall₂ (· = ·) (d.leaves.map Leaf.field) (c.tests.map (·.field)) := by
    rw [List.forall₂_map_left_iff, List.forall₂_map_right_iff]
    exact hleaves.imp fun l t ht => (Leaf.field_of_test? ht).symm
  rw [List.forall₂_eq_eq_eq] at hfields
  rw [htokens, hfields, testedFields, List.append_nil]

/-! ### Queries -/

/-- Whether a text is read as a query, with a head or without. -/
def IsReadFrom (q : Query) (text : String) : Prop :=
  read? text = .ok q ∨ readCondition? text = .ok q

/-- A text that is read as a query begins with a head. -/
theorem exists_tokens_of_read? (h : read? text = .ok q) : ∃ t rest,
    tokens? text.toList = .ok (.identifier t :: .head :: rest) ∧ '.' ∉ t.toList ∧
      q.head = some t ∧ condition? rest = .ok q.condition := by
  obtain ⟨ts, hts, h⟩ := bind_eq_ok.mp h
  split at h
  case h_1 | h_3 => cases h
  case h_2 t rest =>
    split at h
    case isTrue => cases h
    case isFalse hdot =>
      obtain ⟨c, hc, hq⟩ := bind_eq_ok.mp h
      cases hq
      exact ⟨t, rest, hts, by simpa using hdot, rfl, hc⟩

/-- The condition of a query is read from all tokens of its text but those of a head. -/
theorem IsReadFrom.exists_tokens (h : q.IsReadFrom text) : ∃ ts rest,
    tokens? text.toList = .ok ts ∧ (ts = rest ∨ ∃ name, ts = .identifier name :: .head :: rest) ∧
      condition? rest = .ok q.condition := by
  rcases h with h | h
  · obtain ⟨name, rest, hts, -, -, hc⟩ := exists_tokens_of_read? h
    exact ⟨_, rest, hts, Or.inr ⟨name, rfl⟩, hc⟩
  · obtain ⟨ts, hts, h⟩ := bind_eq_ok.mp h
    split at h
    case h_1 => cases h
    case h_2 =>
      obtain ⟨c, hc, hq⟩ := bind_eq_ok.mp h
      cases hq
      exact ⟨ts, ts, hts, Or.inl rfl, hc⟩

theorem IsReadFrom.testedFields_eq (h : q.IsReadFrom text) :
    ∃ ts, tokens? text.toList = .ok ts ∧ testedFields ts = q.condition.tests.map (·.field) := by
  obtain ⟨ts, rest, hts, hrest, hc⟩ := h.exists_tokens
  have htested : testedFields rest = q.condition.tests.map (·.field) := testedFields_of_condition? hc
  rcases hrest with rfl | ⟨name, rfl⟩
  · exact ⟨ts, hts, htested⟩
  · exact ⟨_, hts, htested⟩

/-- **The fields of a query.** They are those that the tests name, and that the tokens of its text
name from left to right: each once, in the order in which they first occur. Events of one class that
agree on them are selected alike. -/
theorem fields_exact (h : q.IsReadFrom text) :
    ∃ ts, tokens? text.toList = .ok ts ∧ testedFields ts = q.condition.tests.map (·.field) ∧
      FirstOccurrences q.fields (testedFields ts) ∧
      ∀ e₁ e₂ : Event, e₁.class? = e₂.class? →
        (∀ field ∈ q.fields, e₁.find? field = e₂.find? field) → q.selects e₁ = q.selects e₂ := by
  obtain ⟨ts, hts, htested⟩ := h.testedFields_eq
  refine ⟨ts, hts, htested, ?_, fun e₁ e₂ => selects_congr⟩
  rw [htested]
  exact firstOccurrences_eraseDups _

/-- A field that is tested twice, and a class that is none. -/
theorem fields_exact_repeated : ∃ q : Query,
    q.IsReadFrom "process where b.on and (a == 1 or not b : \"x\")" ∧ q.fields = ["b", "a"] ∧
      ∀ e₁ e₂ : Event, e₁.class? = e₂.class? → e₁.find? "b" = e₂.find? "b" →
        e₁.find? "a" = e₂.find? "a" → q.selects e₁ = q.selects e₂ := by
  obtain ⟨q, hq⟩ : ∃ q, read? "process where b.on and (a == 1 or not b : \"x\")" = .ok q :=
    exists_of_isOk (by decide +kernel)
  obtain ⟨ts, hts, htested, -, hselects⟩ := fields_exact (Or.inl hq)
  let us : List Token := [.identifier "process", .head, .identifier "b.on", .conjunction, .opening,
    .identifier "a", .comparison .equal, .literal (.integer 1), .disjunction, .negation,
    .identifier "b", .comparison .similar, .literal (.text "x"), .closing]
  have hus : tokens? "process where b.on and (a == 1 or not b : \"x\")".toList = .ok us := by
    rw [← toOption_eq_some]
    decide +kernel
  obtain rfl : ts = us := Except.ok.inj (hts.symm.trans hus)
  have hnames : testedFields us = ["b", "a", "b"] := by decide +kernel
  have hfields : q.fields = ["b", "a"] := by
    rw [fields, Condition.fields, ← htested, hnames]
    decide
  refine ⟨q, Or.inl hq, hfields, fun e₁ e₂ hclass hb ha => hselects e₁ e₂ hclass ?_⟩
  simp [hfields, hb, ha]

end Query

end Vigil
