import Mathlib.Data.List.Basic
import Vigil.Query.Parser

/-! # The grammar of conditions

`Derivation s` are the syntax trees with which the grammar derives lists of tokens from the symbol
`s`; `tokens` is the list that a tree derives, and `condition?` the condition that it stands for,
missing where one of its leaves does not compile. Brackets are nodes of a tree but leave no trace
in its condition.

* `Leaf.tokens_append_inj`, `Derivation.tokens_append_inj`: trees that derive the beginning of the
  same list are equal, when after each of them the list goes on as it can after a condition
  (`Stops`). -/

namespace Vigil.Query

/-! ### Leaves -/

/-- A leaf of the grammar: a comparison, a membership, a call with at least one pattern, or a field
with an option, which is what follows the last dot. -/
inductive Leaf
  | compare (name : String) (c : Comparison) (value : Literal)
  | member (name : String) (cased : Bool) (value : Literal) (values : List Literal)
  | call (name field pattern : String) (patterns : List String)
  | option (field chosen : String) (hfield : field ≠ "") (hchosen : chosen ≠ "")
    (hdot : '.' ∉ chosen.toList)

/-- Literals as they follow the first of a list, each with a comma before it. -/
def listed (values : List Literal) : List Token := values.flatMap fun v => [.comma, .literal v]

namespace Leaf

/-- The tokens of a leaf. -/
def tokens : Leaf → List Token
  | .compare name c value => [.identifier name, .comparison c, .literal value]
  | .member name cased value values =>
    [.identifier name, .member cased, .opening, .literal value] ++ (listed values ++ [.closing])
  | .call name field pattern patterns =>
    [.identifier name, .opening, .identifier field] ++
      (listed ((pattern :: patterns).map .text) ++ [.closing])
  | .option field chosen .. => [.identifier (field ++ "." ++ chosen)]

/-- The test that a leaf compiles to, missing where its function is unknown or one of its patterns
invalid. -/
def test? : Leaf → Option Test
  | .compare name c value => (Test.ofForm? name (.compare c value)).toOption
  | .member name cased value values =>
    (Test.ofForm? name (.member cased (value :: values))).toOption
  | .call name field pattern patterns =>
    (Call.ofName? name).bind fun call =>
      (Test.ofForm? field (.call call (pattern :: patterns))).toOption
  | .option field chosen .. => (Test.ofForm? field (.option chosen)).toOption

end Leaf

/-! ### Trees -/

/-- The symbols of the grammar: conditions joined by `or`, those joined by `and`, those that may be
negated, and those that operators bind whole. -/
inductive Symbol
  | disjunction
  | conjunction
  | negation
  | primary
deriving DecidableEq

/-- The syntax trees of the grammar, one constructor for each of its rules. -/
inductive Derivation : Symbol → Type
  | alone (a : Derivation .conjunction) : Derivation .disjunction
  | or (a : Derivation .conjunction) (e : Derivation .disjunction) : Derivation .disjunction
  | single (u : Derivation .negation) : Derivation .conjunction
  | and (u : Derivation .negation) (a : Derivation .conjunction) : Derivation .conjunction
  | plain (p : Derivation .primary) : Derivation .negation
  | not (u : Derivation .negation) : Derivation .negation
  | leaf (l : Leaf) : Derivation .primary
  | constant (b : Bool) : Derivation .primary
  | brackets (e : Derivation .disjunction) : Derivation .primary

namespace Derivation

/-- The tokens that a tree derives. -/
def tokens {s : Symbol} : Derivation s → List Token
  | .alone a => a.tokens
  | .or a e => a.tokens ++ .disjunction :: e.tokens
  | .single u => u.tokens
  | .and u a => u.tokens ++ .conjunction :: a.tokens
  | .plain p => p.tokens
  | .not u => .negation :: u.tokens
  | .leaf l => l.tokens
  | .constant b => [.literal (.boolean b)]
  | .brackets e => .opening :: (e.tokens ++ [.closing])

/-- The condition that a tree stands for, missing where one of its leaves does not compile. -/
def condition? {s : Symbol} : Derivation s → Option Condition
  | .alone a => a.condition?
  | .or a e => do return .disjunction (← a.condition?) (← e.condition?)
  | .single u => u.condition?
  | .and u a => do return .conjunction (← u.condition?) (← a.condition?)
  | .plain p => p.condition?
  | .not u => do return .negation (← u.condition?)
  | .leaf l => do return .test (← l.test?)
  | .constant b => some (.constant b)
  | .brackets e => e.condition?

variable {c : Condition}

theorem condition?_or_eq_some {a : Derivation .conjunction} {e : Derivation .disjunction} :
    (or a e).condition? = some c ↔
      ∃ l r, a.condition? = some l ∧ e.condition? = some r ∧ .disjunction l r = c := by
  simp [condition?, Option.bind_eq_some_iff]

theorem condition?_and_eq_some {u : Derivation .negation} {a : Derivation .conjunction} :
    (and u a).condition? = some c ↔
      ∃ l r, u.condition? = some l ∧ a.condition? = some r ∧ .conjunction l r = c := by
  simp [condition?, Option.bind_eq_some_iff]

theorem condition?_not_eq_some {u : Derivation .negation} :
    (not u).condition? = some c ↔ ∃ e, u.condition? = some e ∧ .negation e = c := by
  simp [condition?, Option.bind_eq_some_iff]

theorem condition?_leaf_eq_some {l : Leaf} :
    (leaf l).condition? = some c ↔ ∃ t, l.test? = some t ∧ .test t = c := by
  simp [condition?, Option.bind_eq_some_iff]

end Derivation

/-! ### What follows a condition -/

/-- The least power of the operators that a tree of a symbol may have outside brackets. -/
def Symbol.power : Symbol → Nat
  | .disjunction => Operator.disjunction.power
  | .conjunction => Operator.conjunction.power
  | .negation => negationPower
  | .primary => negationPower

/-- Whether an expression with operators of at least a given power can stop before some tokens. -/
def Stops (power : Nat) : List Token → Prop
  | [] => True
  | .closing :: _ => True
  | .conjunction :: _ => Operator.conjunction.power < power
  | .disjunction :: _ => Operator.disjunction.power < power
  | _ => False

/-- The token of an operator. -/
def Operator.token : Operator → Token
  | .disjunction => .disjunction
  | .conjunction => .conjunction

theorem stops_token {n : Nat} {operator : Operator} {ts : List Token} :
    Stops n (operator.token :: ts) ↔ operator.power < n := by
  cases operator <;> rfl

theorem stops_conjunction {n : Nat} {ts : List Token} :
    Stops n (.conjunction :: ts) ↔ Operator.conjunction.power < n := Iff.rfl

theorem stops_disjunction {n : Nat} {ts : List Token} :
    Stops n (.disjunction :: ts) ↔ Operator.disjunction.power < n := Iff.rfl

theorem stops_nil {n : Nat} : Stops n [] := trivial

theorem stops_closing {n : Nat} {ts : List Token} : Stops n (.closing :: ts) := trivial

theorem Stops.mono {m n : Nat} {ts : List Token} (h : Stops m ts) (hmn : m ≤ n) : Stops n ts := by
  unfold Stops at h ⊢
  split at h
  · trivial
  · trivial
  · exact Nat.lt_of_lt_of_le h hmn
  · exact Nat.lt_of_lt_of_le h hmn
  · exact h.elim

/-! ### Derivations are unique -/

theorem listed_append_inj {vs vs' : List Literal} {r r' : List Token}
    (h : listed vs ++ .closing :: r = listed vs' ++ .closing :: r') : vs = vs' ∧ r = r' := by
  induction vs generalizing vs' with
  | nil =>
    rcases vs' with _ | ⟨v', vs'⟩
    · simpa [listed] using h
    · simp [listed] at h
  | cons v vs ih =>
    rcases vs' with _ | ⟨v', vs'⟩
    · simp [listed] at h
    · simp only [listed, List.flatMap_cons, List.cons_append, List.nil_append, List.cons.injEq,
        Token.literal.injEq, true_and] at h
      obtain ⟨rfl, hvs⟩ := h
      obtain ⟨rfl, rfl⟩ := ih hvs
      exact ⟨rfl, rfl⟩

/-- What stands before and after the last dot of a text is determined by the text. -/
theorem dotted_inj {xs ys xs' ys' : List Char} (hys : '.' ∉ ys) (hys' : '.' ∉ ys')
    (h : xs ++ '.' :: ys = xs' ++ '.' :: ys') : xs = xs' ∧ ys = ys' := by
  rcases List.append_eq_append_iff.mp h with ⟨zs, rfl, hzs⟩ | ⟨zs, rfl, hzs⟩
  · rcases zs with _ | ⟨z, zs⟩
    · simpa using hzs
    · simp only [List.cons_append, List.cons.injEq] at hzs
      exact absurd (by simp [hzs.2]) hys
  · rcases zs with _ | ⟨z, zs⟩
    · simpa using hzs.symm
    · simp only [List.cons_append, List.cons.injEq] at hzs
      exact absurd (by simp [hzs.2]) hys'

theorem dotted_name_inj {s t s' t' : String} (ht : '.' ∉ t.toList) (ht' : '.' ∉ t'.toList)
    (h : s ++ "." ++ t = s' ++ "." ++ t') : s = s' ∧ t = t' := by
  have hlist := congrArg String.toList h
  simp only [String.toList_append, List.append_assoc] at hlist
  obtain ⟨hs, ht⟩ := dotted_inj ht ht' hlist
  exact ⟨String.toList_injective hs, String.toList_injective ht⟩

theorem Leaf.tokens_append_inj {l l' : Leaf} {r r' : List Token} (hr : Stops negationPower r)
    (hr' : Stops negationPower r') (h : l.tokens ++ r = l'.tokens ++ r') : l = l' ∧ r = r' := by
  cases l <;> cases l'
  case compare.compare => simpa [tokens, and_assoc] using h
  case member.member =>
    simp only [tokens, List.cons_append, List.nil_append, List.append_assoc, List.cons.injEq,
      Token.identifier.injEq, Token.member.injEq, Token.literal.injEq, true_and] at h
    obtain ⟨rfl, rfl, rfl, h⟩ := h
    obtain ⟨rfl, rfl⟩ := listed_append_inj h
    exact ⟨rfl, rfl⟩
  case call.call =>
    simp only [tokens, List.cons_append, List.nil_append, List.append_assoc, List.cons.injEq,
      Token.identifier.injEq, true_and] at h
    obtain ⟨rfl, rfl, h⟩ := h
    obtain ⟨hpatterns, rfl⟩ := listed_append_inj h
    have hinj := (List.map_injective_iff.mpr fun s t hst => Literal.text.inj hst) hpatterns
    cases hinj
    exact ⟨rfl, rfl⟩
  case option.option =>
    simp only [tokens, List.cons_append, List.nil_append, List.cons.injEq,
      Token.identifier.injEq] at h
    obtain ⟨hname, rfl⟩ := h
    obtain ⟨rfl, rfl⟩ := dotted_name_inj ‹_› ‹_› hname
    exact ⟨rfl, rfl⟩
  -- after a field with an option there is none of the signs that the other leaves go on with
  case option.compare | option.member | option.call =>
    simp only [tokens, List.cons_append, List.nil_append, List.cons.injEq] at h
    obtain ⟨-, rfl⟩ := h
    exact hr.elim
  case compare.option | member.option | call.option =>
    simp only [tokens, List.cons_append, List.nil_append, List.cons.injEq] at h
    obtain ⟨-, rfl⟩ := h
    exact hr'.elim
  all_goals simp [tokens] at h

theorem Leaf.exists_tokens_eq (l : Leaf) : ∃ name rest, l.tokens = .identifier name :: rest := by
  cases l <;> exact ⟨_, _, rfl⟩

theorem Derivation.tokens_append_ne_negation (p : Derivation .primary) {r ts : List Token} :
    p.tokens ++ r ≠ .negation :: ts := by
  cases p with
  | leaf l =>
    obtain ⟨name, rest, hl⟩ := l.exists_tokens_eq
    simp [tokens, hl]
  | constant b => simp [tokens]
  | brackets e => simp [tokens]

/-- **Derivations are unique.** Trees of one symbol that derive the beginning of the same list are
equal, when after each of them the list goes on as it can after that symbol. -/
theorem Derivation.tokens_append_inj {s : Symbol} {d d' : Derivation s} {r r' : List Token}
    (hr : Stops s.power r) (hr' : Stops s.power r') (h : d.tokens ++ r = d'.tokens ++ r') :
    d = d' ∧ r = r' := by
  induction d generalizing r r' with
  | alone a ih =>
    have hr₂ : Stops Symbol.conjunction.power r := hr.mono (by decide)
    have hr₂' : Stops Symbol.conjunction.power r' := hr'.mono (by decide)
    cases d' with
    | alone a' =>
      obtain ⟨rfl, rfl⟩ := ih hr₂ hr₂' h
      exact ⟨rfl, rfl⟩
    | or a' e' =>
      simp only [tokens, List.append_assoc, List.cons_append] at h
      obtain ⟨-, rfl⟩ := ih hr₂ (stops_disjunction.mpr (by decide)) h
      exact absurd (stops_disjunction.mp hr) (Nat.lt_irrefl _)
  | or a e iha ihe =>
    have hr₂' : Stops Symbol.conjunction.power r' := hr'.mono (by decide)
    cases d' with
    | alone a' =>
      simp only [tokens, List.append_assoc, List.cons_append] at h
      obtain ⟨-, rfl⟩ := iha (stops_disjunction.mpr (by decide)) hr₂' h
      exact absurd (stops_disjunction.mp hr') (Nat.lt_irrefl _)
    | or a' e' =>
      simp only [tokens, List.append_assoc, List.cons_append] at h
      obtain ⟨rfl, he⟩ :=
        iha (stops_disjunction.mpr (by decide)) (stops_disjunction.mpr (by decide)) h
      obtain ⟨rfl, rfl⟩ := ihe hr hr' (List.cons.inj he).2
      exact ⟨rfl, rfl⟩
  | single u ih =>
    have hr₃ : Stops Symbol.negation.power r := hr.mono (by decide)
    have hr₃' : Stops Symbol.negation.power r' := hr'.mono (by decide)
    cases d' with
    | single u' =>
      obtain ⟨rfl, rfl⟩ := ih hr₃ hr₃' h
      exact ⟨rfl, rfl⟩
    | and u' a' =>
      simp only [tokens, List.append_assoc, List.cons_append] at h
      obtain ⟨-, rfl⟩ := ih hr₃ (stops_conjunction.mpr (by decide)) h
      exact absurd (stops_conjunction.mp hr) (Nat.lt_irrefl _)
  | and u a ihu iha =>
    have hr₃' : Stops Symbol.negation.power r' := hr'.mono (by decide)
    cases d' with
    | single u' =>
      simp only [tokens, List.append_assoc, List.cons_append] at h
      obtain ⟨-, rfl⟩ := ihu (stops_conjunction.mpr (by decide)) hr₃' h
      exact absurd (stops_conjunction.mp hr') (Nat.lt_irrefl _)
    | and u' a' =>
      simp only [tokens, List.append_assoc, List.cons_append] at h
      obtain ⟨rfl, ha⟩ :=
        ihu (stops_conjunction.mpr (by decide)) (stops_conjunction.mpr (by decide)) h
      obtain ⟨rfl, rfl⟩ := iha hr hr' (List.cons.inj ha).2
      exact ⟨rfl, rfl⟩
  | plain p ih =>
    cases d' with
    | plain p' =>
      obtain ⟨rfl, rfl⟩ := ih hr hr' h
      exact ⟨rfl, rfl⟩
    | not u' => exact absurd h p.tokens_append_ne_negation
  | not u ih =>
    cases d' with
    | plain p' => exact absurd h.symm p'.tokens_append_ne_negation
    | not u' =>
      obtain ⟨rfl, rfl⟩ := ih hr hr' (List.cons.inj h).2
      exact ⟨rfl, rfl⟩
  | leaf l =>
    obtain ⟨name, ts, hl⟩ := l.exists_tokens_eq
    cases d' with
    | leaf l' =>
      obtain ⟨rfl, rfl⟩ := Leaf.tokens_append_inj hr hr' h
      exact ⟨rfl, rfl⟩
    | constant b' => simp [tokens, hl] at h
    | brackets e' => simp [tokens, hl] at h
  | constant b =>
    cases d' with
    | leaf l' =>
      obtain ⟨name, ts, hl⟩ := l'.exists_tokens_eq
      simp [tokens, hl] at h
    | constant b' => simpa [tokens] using h
    | brackets e' => simp [tokens] at h
  | brackets e ih =>
    cases d' with
    | leaf l' =>
      obtain ⟨name, ts, hl⟩ := l'.exists_tokens_eq
      simp [tokens, hl] at h
    | constant b' => simp [tokens] at h
    | brackets e' =>
      simp only [tokens, List.cons_append, List.append_assoc, List.nil_append, List.cons.injEq,
        true_and] at h
      obtain ⟨rfl, he⟩ := ih stops_closing stops_closing h
      exact ⟨rfl, (List.cons.inj he).2⟩

end Vigil.Query
