import Mathlib.Data.List.Basic
import Vigil.Proofs.Query.Leaves

/-! # Reading conditions by power

The readers of expressions against the grammar. An expression whose operators have at least the
power `n` is one of the symbol `Symbol.ofPower n`, and one operator joins an expression of higher
power to one of its own (`Derives.join`, `ReadsAt.join`); so what the readers keep to is said once
for all powers.

* `Sound.of_fuel`: what is read is derived by the grammar, and the reading stops where it has to;
* `Derivation.reads`: what the grammar derives is read;
* `condition_iff_derivation`: the conditions that are read from whole lists of tokens. -/

namespace Vigil.Query

variable {m n : Nat} {c l r : Condition} {ts us ls rs rest : List Token} {operator : Operator}

/-! ### Symbols and powers -/

/-- The symbol of the expressions whose operators have at least a given power. -/
def Symbol.ofPower : Nat → Symbol
  | 0 => .disjunction
  | 1 => .disjunction
  | 2 => .conjunction
  | _ => .negation

/-- Whether the grammar derives some tokens from a symbol, by a tree that stands for a condition. -/
def Derives (s : Symbol) (ts : List Token) (c : Condition) : Prop :=
  ∃ d : Derivation s, d.tokens = ts ∧ d.condition? = some c

theorem Derives.single (h : Derives .negation ts c) : Derives .conjunction ts c := by
  obtain ⟨d, hd, hc⟩ := h
  exact ⟨.single d, hd, hc⟩

theorem Derives.alone (h : Derives .conjunction ts c) : Derives .disjunction ts c := by
  obtain ⟨d, hd, hc⟩ := h
  exact ⟨.alone d, hd, hc⟩

theorem Derives.plain (h : Derives .primary ts c) : Derives .negation ts c := by
  obtain ⟨d, hd, hc⟩ := h
  exact ⟨.plain d, hd, hc⟩

theorem Derives.not (h : Derives .negation ts c) :
    Derives .negation (.negation :: ts) (.negation c) := by
  obtain ⟨d, rfl, hc⟩ := h
  exact ⟨.not d, rfl, by simp [Derivation.condition?, hc]⟩

theorem Derives.and (hl : Derives .negation ls l) (hr : Derives .conjunction rs r) :
    Derives .conjunction (ls ++ .conjunction :: rs) (.conjunction l r) := by
  obtain ⟨d, rfl, hd⟩ := hl
  obtain ⟨e, rfl, he⟩ := hr
  exact ⟨.and d e, rfl, by simp [Derivation.condition?, hd, he]⟩

theorem Derives.or (hl : Derives .conjunction ls l) (hr : Derives .disjunction rs r) :
    Derives .disjunction (ls ++ .disjunction :: rs) (.disjunction l r) := by
  obtain ⟨d, rfl, hd⟩ := hl
  obtain ⟨e, rfl, he⟩ := hr
  exact ⟨.or d e, rfl, by simp [Derivation.condition?, hd, he]⟩

theorem Derives.brackets (h : Derives .disjunction ts c) :
    Derives .primary (.opening :: (ts ++ [.closing])) c := by
  obtain ⟨d, rfl, hc⟩ := h
  exact ⟨.brackets d, rfl, hc⟩

/-- An expression is one of any lower power too. -/
theorem Derives.mono (h : Derives (.ofPower n) ts c) (hmn : m ≤ n) : Derives (.ofPower m) ts c := by
  match m, n with
  | 0, 0 | 0, 1 | 1, 1 | 2, 2 => exact h
  | 0, 2 | 1, 2 => exact h.alone
  | 0, _ + 3 | 1, _ + 3 => exact h.single.alone
  | 2, _ + 3 => exact h.single
  | _ + 3, _ + 3 => exact h

/-- An operator binds an expression of higher power on its left and one of its own power on its
right. -/
theorem Derives.join (hl : Derives (.ofPower (operator.power + 1)) ls l)
    (hr : Derives (.ofPower operator.power) rs r) :
    Derives (.ofPower operator.power) (ls ++ operator.token :: rs) (operator.join l r) := by
  cases operator with
  | conjunction => exact hl.and hr
  | disjunction => exact hl.or hr

/-! ### Operators -/

theorem operator?_token : operator? (operator.token :: ts) = .ok (some (operator, ts)) := by
  cases operator <;> rfl

theorem operator?_eq_some (h : operator? ts = .ok (some (operator, rest))) :
    ts = operator.token :: rest := by
  unfold operator? at h
  split at h <;> cases h <;> rfl

theorem stops_of_operator?_eq_none (h : operator? ts = .ok none) : Stops n ts := by
  unfold operator? at h
  split at h <;> first | trivial | cases h

/-- Joining stops where it is told to. -/
theorem joined?_of_stops {fuel : Nat} (h : Stops n ts) :
    joined? (fuel + 1) n c ts = .ok (c, ts) := by
  unfold joined?
  unfold Stops at h
  split at h
  · rfl
  · rfl
  · simp [operator?, bind_eq_ok, pure, Except.pure, h]
  · simp [operator?, bind_eq_ok, pure, Except.pure, h]
  · exact h.elim

/-! ### What is read is derived -/

/-- What the readers keep to with some fuel: `expression?` reads an expression of its power,
`operand?` a condition that operators bind whole, and `joined?` continues an expression of higher
power that it is given, unless this could have gone on itself. -/
structure Sound (fuel : Nat) : Prop where
  expression : ∀ {n ts c rest}, n ≤ negationPower → expression? fuel n ts = .ok (c, rest) →
    Stops n rest ∧ ∃ us, ts = us ++ rest ∧ Derives (.ofPower n) us c
  operand : ∀ {ts c rest}, operand? fuel ts = .ok (c, rest) →
    ∃ us, ts = us ++ rest ∧ Derives .negation us c
  joined : ∀ {n m l ls ts c rest}, n ≤ m → Derives (.ofPower m) ls l →
    m = negationPower ∨ Stops m ts → joined? fuel n l ts = .ok (c, rest) →
    Stops n rest ∧ ∃ us, ts = us ++ rest ∧ Derives (.ofPower n) (ls ++ us) c

theorem Sound.zero : Sound 0 where
  expression := by
    rintro n ts c rest - h
    cases h
  operand := by
    rintro ts c rest h
    cases h
  joined := by
    rintro n m l ls ts c rest - - - h
    cases h

theorem Sound.expression_succ {fuel : Nat} (h : Sound fuel) (hn : n ≤ negationPower)
    (hread : expression? (fuel + 1) n ts = .ok (c, rest)) :
    Stops n rest ∧ ∃ us, ts = us ++ rest ∧ Derives (.ofPower n) us c := by
  obtain ⟨⟨left, u⟩, hleft, hjoined⟩ := bind_eq_ok.mp hread
  obtain ⟨ls, rfl, hl⟩ := h.operand hleft
  obtain ⟨hstop, us, rfl, hus⟩ := h.joined hn hl (Or.inl rfl) hjoined
  exact ⟨hstop, ls ++ us, by simp, hus⟩

theorem Sound.operand_succ {fuel : Nat} (h : Sound fuel)
    (hread : operand? (fuel + 1) ts = .ok (c, rest)) :
    ∃ us, ts = us ++ rest ∧ Derives .negation us c := by
  unfold operand? at hread
  split at hread
  case h_1 | h_2 | h_7 => cases hread
  case h_3 name r _ =>
    obtain ⟨l, hl, htest⟩ := exists_leaf_of_test? hread
    refine ⟨l.tokens, hl, .plain ⟨.leaf l, rfl, ?_⟩⟩
    simpa [Derivation.condition?, Option.bind_eq_some_iff] using htest
  case h_4 b r _ =>
    cases hread
    exact ⟨[.literal (.boolean b)], rfl, .plain ⟨.constant b, rfl, rfl⟩⟩
  case h_5 k r hk =>
    obtain rfl := Nat.succ.inj hk
    obtain ⟨⟨e, u⟩, he, hclosing⟩ := bind_eq_ok.mp hread
    obtain ⟨-, us, rfl, hus⟩ := h.expression (Nat.zero_le _) he
    simp only at hclosing
    split at hclosing
    · cases hclosing
      exact ⟨.opening :: (us ++ [.closing]), by simp, hus.brackets.plain⟩
    · cases hclosing
  case h_6 k r hk =>
    obtain rfl := Nat.succ.inj hk
    obtain ⟨⟨e, u⟩, he, hnot⟩ := bind_eq_ok.mp hread
    obtain ⟨-, us, rfl, hus⟩ := h.expression (Nat.le_refl _) he
    cases hnot
    exact ⟨.negation :: us, rfl, hus.not⟩

theorem Sound.joined_succ {fuel : Nat} (h : Sound fuel) (hnm : n ≤ m)
    (hl : Derives (.ofPower m) ls l) (hts : m = negationPower ∨ Stops m ts)
    (hread : joined? (fuel + 1) n l ts = .ok (c, rest)) :
    Stops n rest ∧ ∃ us, ts = us ++ rest ∧ Derives (.ofPower n) (ls ++ us) c := by
  obtain ⟨next, hnext, hread⟩ := bind_eq_ok.mp hread
  rcases next with _ | ⟨operator, r⟩
  · cases hread
    exact ⟨stops_of_operator?_eq_none hnext, [], rfl, by simpa using hl.mono hnm⟩
  · obtain rfl := operator?_eq_some hnext
    simp only at hread
    split at hread
    case isTrue hlt =>
      cases hread
      exact ⟨stops_token.mpr hlt, [], rfl, by simpa using hl.mono hnm⟩
    case isFalse hge =>
      have hpower : operator.power < m := by
        rcases hts with rfl | hts
        · cases operator <;> decide
        · exact stops_token.mp hts
      have hle : operator.power ≤ negationPower := by
        cases operator <;> decide
      obtain ⟨⟨right, u⟩, hright, hjoined⟩ := bind_eq_ok.mp hread
      obtain ⟨hstop, rs, rfl, hr⟩ := h.expression hle hright
      obtain ⟨hstop', us, rfl, hus⟩ :=
        h.joined (Nat.le_of_not_lt hge) ((hl.mono hpower).join hr) (Or.inr hstop) hjoined
      exact ⟨hstop', operator.token :: (rs ++ us), by simp, by simpa using hus⟩

/-- **What is read is derived**, with any fuel. -/
theorem Sound.of_fuel (fuel : Nat) : Sound fuel := by
  induction fuel with
  | zero => exact Sound.zero
  | succ fuel ih => exact ⟨ih.expression_succ, ih.operand_succ, ih.joined_succ⟩

/-! ### What is derived is read -/

/-- Whether `operand?` reads some tokens as a condition, wherever it can stop after them. -/
def ReadsOperand (ts : List Token) (c : Condition) : Prop :=
  ∀ rest fuel, Stops negationPower rest → 2 * (ts ++ rest).length + 1 ≤ fuel →
    operand? fuel (ts ++ rest) = .ok (c, rest)

/-- Whether `expression?`, for any power up to a given one, reads some tokens as a condition and
goes on with what this is joined to, wherever an expression of that power can stop after them. -/
def ReadsAt (n : Nat) (ts : List Token) (c : Condition) : Prop :=
  ∀ m rest result, m ≤ n → Stops n rest →
    (∀ fuel, 2 * rest.length + 1 ≤ fuel → joined? fuel m c rest = result) →
    ∀ fuel, 2 * (ts ++ rest).length + 2 ≤ fuel → expression? fuel m (ts ++ rest) = result

theorem ReadsOperand.readsAt (h : ReadsOperand ts c) : ReadsAt negationPower ts c := by
  rintro m rest result - hrest hjoined (_ | fuel) hfuel
  · omega
  · have hlen : (ts ++ rest).length = ts.length + rest.length := List.length_append
    rw [expression?, h rest fuel hrest (by omega)]
    exact hjoined fuel (by omega)

theorem ReadsAt.mono (h : ReadsAt n ts c) (hmn : m ≤ n) : ReadsAt m ts c := by
  intro k rest result hk hrest
  exact h k rest result (Nat.le_trans hk hmn) (hrest.mono hmn)

/-- Where an expression stops, it is read without what follows. -/
theorem ReadsAt.expression?_eq (h : ReadsAt n ts c) (hmn : m ≤ n) (hn : Stops n rest)
    (hm : Stops m rest) {fuel : Nat} (hfuel : 2 * (ts ++ rest).length + 2 ≤ fuel) :
    expression? fuel m (ts ++ rest) = .ok (c, rest) := by
  refine h m rest _ hmn hn ?_ fuel hfuel
  rintro (_ | k) hk
  · omega
  · exact joined?_of_stops hm

theorem ReadsAt.join (hl : ReadsAt (operator.power + 1) ls l) (hr : ReadsAt operator.power rs r) :
    ReadsAt operator.power (ls ++ operator.token :: rs) (operator.join l r) := by
  intro m rest result hm hrest hjoined fuel hfuel
  rw [List.append_assoc, List.cons_append] at hfuel ⊢
  refine hl m _ result (by omega) (stops_token.mpr (Nat.lt_succ_self _)) ?_ fuel hfuel
  rintro (_ | k) hk
  · omega
  · have hright : expression? k operator.power (rs ++ rest) = .ok (r, rest) :=
      hr.expression?_eq (Nat.le_refl _) hrest hrest (by simp at hk ⊢; omega)
    have hlen : (operator.token :: (rs ++ rest)).length = rs.length + rest.length + 1 := by simp
    rw [joined?, operator?_token]
    simp only [bind, Except.bind, if_neg (Nat.not_lt.mpr hm), hright]
    exact hjoined k (by omega)

/-- What the readers do with a tree of a symbol. -/
def Symbol.Reads : Symbol → List Token → Condition → Prop
  | .disjunction => ReadsAt Operator.disjunction.power
  | .conjunction => ReadsAt Operator.conjunction.power
  | .negation => ReadsOperand
  | .primary => ReadsOperand

/-- **What is derived is read.** -/
theorem Derivation.reads {s : Symbol} (d : Derivation s) (h : d.condition? = some c) :
    s.Reads d.tokens c := by
  induction d generalizing c with
  | alone a ih => exact ReadsAt.mono (ih h) (by decide)
  | or a e iha ihe =>
    obtain ⟨l, r, hl, hr, rfl⟩ := condition?_or_eq_some.mp h
    have hleft : ReadsAt (Operator.disjunction.power + 1) a.tokens l := iha hl
    exact hleft.join (ihe hr)
  | single u ih => exact (ih h).readsAt.mono (by decide)
  | and u a ihu iha =>
    obtain ⟨l, r, hl, hr, rfl⟩ := condition?_and_eq_some.mp h
    have hleft : ReadsAt (Operator.conjunction.power + 1) u.tokens l := (ihu hl).readsAt
    exact hleft.join (iha hr)
  | plain p ih => exact ih h
  | not u ih =>
    obtain ⟨e, he, rfl⟩ := condition?_not_eq_some.mp h
    rintro rest (_ | k) hrest hk
    · omega
    · have hread : expression? k negationPower (u.tokens ++ rest) = .ok (e, rest) :=
        (ih he).readsAt.expression?_eq (Nat.le_refl _) hrest hrest (by simp [tokens] at hk ⊢; omega)
      exact bind_eq_ok.mpr ⟨_, hread, rfl⟩
  | leaf l =>
    obtain ⟨t, ht, rfl⟩ := condition?_leaf_eq_some.mp h
    obtain ⟨name, ts, hl⟩ := l.exists_tokens_eq
    rintro rest (_ | k) hrest hk
    · omega
    · rw [tokens, hl]
      exact test?_tokens ht hrest (congrArg (· ++ rest) hl.symm)
  | constant b =>
    cases h
    rintro rest (_ | k) hrest hk
    · omega
    · rfl
  | brackets e ih =>
    rintro rest (_ | k) hrest hk
    · omega
    · have hlist : (brackets e).tokens ++ rest = .opening :: (e.tokens ++ .closing :: rest) := by
        simp [tokens]
      rw [hlist] at hk ⊢
      have hread : expression? k 0 (e.tokens ++ .closing :: rest) = .ok (c, .closing :: rest) :=
        ReadsAt.expression?_eq (ih h) (Nat.zero_le _) stops_closing stops_closing
          (by simp at hk ⊢; omega)
      exact bind_eq_ok.mpr ⟨_, hread, rfl⟩

theorem condition?_of_derives (h : Derives .disjunction ts c) : condition? ts = .ok c := by
  obtain ⟨d, rfl, hc⟩ := h
  have hreads : ReadsAt Operator.disjunction.power d.tokens c := d.reads hc
  have hread : expression? (2 * d.tokens.length + 2) 0 (d.tokens ++ []) = .ok (c, []) :=
    hreads.expression?_eq (Nat.zero_le _) stops_nil stops_nil (by simp)
  rw [List.append_nil] at hread
  exact bind_eq_ok.mpr ⟨_, hread, rfl⟩

theorem derives_of_condition? (h : condition? ts = .ok c) : Derives .disjunction ts c := by
  obtain ⟨⟨e, rest⟩, he, hend⟩ := bind_eq_ok.mp h
  obtain ⟨-, us, rfl, hus⟩ := (Sound.of_fuel _).expression (Nat.zero_le _) he
  rcases rest with _ | ⟨t, rest⟩
  · cases hend
    rw [List.append_nil]
    exact hus
  · cases hend

/-- **Conditions.** A list of tokens is read as a condition if and only if the grammar derives all
of it and the leaves compile; the condition is that of the derivation, and there is only one. -/
theorem condition_iff_derivation :
    (∀ (ts : List Token) (c : Condition), condition? ts = .ok c ↔
      ∃ d : Derivation .disjunction, d.tokens = ts ∧ d.condition? = some c) ∧
    Function.Injective (fun d : Derivation .disjunction => d.tokens) := by
  constructor
  · intro ts c
    exact ⟨derives_of_condition?, condition?_of_derives⟩
  · intro d d' (h : d.tokens = d'.tokens)
    have hend : d.tokens ++ [] = d'.tokens ++ [] := by rw [h]
    exact (Derivation.tokens_append_inj stops_nil stops_nil hend).1

end Vigil.Query
