import Mathlib.Data.List.Basic
import Vigil.Pattern.Reader

/-! # Readers before a closing bracket

A text that is put in a group is read as by itself, where both readings succeed. One of them goes
on with `closing` where the other has come to the end (`Continues`), unless a comment has swallowed
what follows the text.

* `Agree r r'`: readers that give the same on such texts, where both succeed;
* `Agree.bind`, `Agree.ite`, `Agree.rest` and so on: readers that are put together from others;
* `skipped_skipBlanksFrom`: what is left after blanks and comments, also where only one reading can
  skip them. -/

namespace Vigil.Pattern

open Vigil.Text

/-- What follows a text in a group before the end. -/
def closing : List Char := [')', '$']

/-- Whether a text is another one with `closing` after it. A comment up to the end of the line
leaves nothing of either. -/
inductive Continues : List Char → List Char → Prop
  | append (cs : List Char) : Continues cs (cs ++ closing)
  | swallowed : Continues [] []

variable {cs cs' ds ds' : List Char} {x : Char}

/-- A text that goes on begins with the same character. -/
theorem Continues.cons_inv (h : Continues (x :: cs) cs') :
    ∃ ds, cs' = x :: ds ∧ Continues cs ds := by
  cases h with
  | append => exact ⟨cs ++ closing, rfl, .append cs⟩

theorem Continues.nil_inv (h : Continues [] cs') : cs' = closing ∨ cs' = [] := by
  cases h with
  | append => exact Or.inl rfl
  | swallowed => exact Or.inr rfl

/-- Of texts that are not both empty, the lengths are the same in either reading. -/
theorem Continues.length_eq_iff (h : Continues cs cs') (h' : Continues ds ds')
    (hne : cs ≠ [] ∨ ds ≠ []) : ds.length = cs.length ↔ ds'.length = cs'.length := by
  have hpos : cs.length ≠ 0 ∨ ds.length ≠ 0 := by simpa using hne
  cases h with
  | swallowed =>
    cases h' with
    | swallowed => simp at hpos
    | append =>
      simp only [List.length_nil, List.length_append, closing] at hpos ⊢
      omega
  | append =>
    cases h' with
    | append => simp
    | swallowed =>
      simp only [List.length_nil, List.length_append, closing] at hpos ⊢
      omega

/-- A text that goes on with `closing` begins with nothing new that is without the bracket. -/
theorem Continues.ne_append {l : List Char} (hcs : Continues cs cs') (hl : ')' ∉ l)
    (h : ∀ ds, cs = l ++ ds → False) : ∀ ds, cs' = l ++ ds → False := by
  intro ds heq
  cases hcs with
  | swallowed => exact h ds heq
  | append cs =>
    rcases List.append_eq_append_iff.mp heq with ⟨as, hl', has⟩ | ⟨as, hcs, -⟩
    · rcases as with _ | ⟨a, as⟩
      · exact h [] (by rw [hl', List.append_nil, List.append_nil])
      · obtain ⟨rfl, -⟩ := List.cons.inj has
        exact hl (by simp [hl'])
    · exact h as hcs

theorem Continues.head?_eq (hcs : Continues cs cs') (hx : x ≠ ')') :
    cs.head? = some x ↔ cs'.head? = some x := by
  cases hcs with
  | swallowed => exact Iff.rfl
  | append cs =>
    rcases cs with _ | ⟨c, cs⟩
    · simpa [closing] using hx.symm
    · exact Iff.rfl

/-- A run of characters without the closing bracket ends in either text at the same place. -/
theorem takeWhile_append_closing {p : Char → Bool} (hp : p ')' = false) :
    (cs ++ closing).takeWhile p = cs.takeWhile p := by
  induction cs with
  | nil => simp [closing, hp]
  | cons c cs ih =>
    rw [List.cons_append, List.takeWhile_cons, List.takeWhile_cons, ih]

theorem dropWhile_append_closing {p : Char → Bool} (hp : p ')' = false) :
    (cs ++ closing).dropWhile p = cs.dropWhile p ++ closing := by
  induction cs with
  | nil => simp [closing, hp]
  | cons c cs ih =>
    rw [List.cons_append, List.dropWhile_cons, List.dropWhile_cons, ih]
    split <;> rfl

/-- Whether cursors differ in the texts before them only, one of which continues the other. -/
def Cursor.Continues (c c' : Cursor) : Prop :=
  ∃ cs', Pattern.Continues c.rest cs' ∧ c' = { c with rest := cs' }

namespace Reader

variable {α β : Type} {r r' : Reader α} {f f' : α → Reader β} {c c' d d' : Cursor} {a a' : α}
  {b : β}

/-- Whether readers give the same before texts one of which continues the other, where both
succeed. -/
def Agree (r r' : Reader α) : Prop := ∀ ⦃c c' : Cursor⦄, c.Continues c' → ∀ ⦃a d a' d'⦄,
  r.run c = some (a, d) → r'.run c' = some (a', d') → a' = a ∧ d.Continues d'

/-! ### Readers in a row -/

theorem run_bind_eq_some : (r >>= f).run c = some (b, d) ↔
    ∃ a c₁, r.run c = some (a, c₁) ∧ (f a).run c₁ = some (b, d) := by
  rw [StateT.run_bind, Option.bind_eq_bind, Option.bind_eq_some_iff]
  constructor
  · rintro ⟨⟨a, c₁⟩, h, hf⟩
    exact ⟨a, c₁, h, hf⟩
  · rintro ⟨a, c₁, h, hf⟩
    exact ⟨(a, c₁), h, hf⟩

theorem Agree.pure (a : α) : Agree (Pure.pure a : Reader α) (Pure.pure a) := by
  intro c c' hc a₁ d a₁' d' h h'
  cases h
  cases h'
  exact ⟨rfl, hc⟩

theorem Agree.bind (h : Agree r r') (hf : ∀ a, Agree (f a) (f' a)) :
    Agree (r >>= f) (r' >>= f') := by
  intro c c' hc b d b' d' hb hb'
  obtain ⟨a, c₁, hr, hb⟩ := run_bind_eq_some.mp hb
  obtain ⟨a', c₁', hr', hb'⟩ := run_bind_eq_some.mp hb'
  obtain ⟨rfl, hc₁⟩ := h hc hr hr'
  exact hf a' hc₁ hb hb'

theorem Agree.failure : Agree (failure : Reader α) r' := by
  intro c c' hc a d a' d' h
  cases h

theorem Agree.failure_right : Agree r (Alternative.failure : Reader α) := by
  intro c c' hc a d a' d' h h'
  cases h'

theorem Agree.failure_bind {s : Reader β} : Agree ((Alternative.failure : Reader α) >>= f) s := by
  intro c c' hc b d a' d' h
  cases h

theorem Agree.failure_bind_right {s : Reader β} :
    Agree s ((Alternative.failure : Reader α) >>= f) := by
  intro c c' hc b d b' d' h h'
  cases h'

theorem Agree.ite {p p' : Prop} [Decidable p] [Decidable p'] {r₁ r₁' : Reader α} (hp : p ↔ p')
    (h : p → Agree r r') (h₁ : ¬ p → Agree r₁ r₁') :
    Agree (if p then r else r₁) (if p' then r' else r₁') := by
  by_cases hp₁ : p
  · rw [if_pos hp₁, if_pos (hp.mp hp₁)]
    exact h hp₁
  · rw [if_neg hp₁, if_neg (mt hp.mpr hp₁)]
    exact h₁ hp₁

theorem Agree.rest {g g' : List Char → Reader β}
    (h : ∀ cs cs', Continues cs cs' → Agree (g cs) (g' cs')) :
    Agree (rest >>= g) (rest >>= g') := by
  intro c c' hc b d b' d' hb hb'
  obtain ⟨cs, c₁, hr, hb⟩ := run_bind_eq_some.mp hb
  obtain ⟨cs', c₁', hr', hb'⟩ := run_bind_eq_some.mp hb'
  cases hr
  cases hr'
  obtain ⟨cs', hcs, rfl⟩ := hc
  exact h c.rest cs' hcs ⟨cs', hcs, rfl⟩ hb hb'

theorem Agree.get {g g' : Cursor → Reader β}
    (h : ∀ c c', c.Continues c' → Agree (g c) (g' c')) : Agree (get >>= g) (get >>= g') := by
  intro c c' hc b d b' d' hb hb'
  obtain ⟨e, c₁, hr, hb⟩ := run_bind_eq_some.mp hb
  obtain ⟨e', c₁', hr', hb'⟩ := run_bind_eq_some.mp hb'
  cases hr
  cases hr'
  exact h c c' hc hc hb hb'

theorem Agree.set (h : d.Continues d') : Agree (set d : Reader PUnit) (set d') := by
  intro c c' hc a d₁ a' d₁' ha ha'
  cases ha
  cases ha'
  exact ⟨rfl, h⟩

theorem Agree.goTo (h : Continues cs cs') : Agree (goTo cs) (goTo cs') := by
  intro c c' hc a d a' d' ha ha'
  cases ha
  cases ha'
  obtain ⟨ds', -, rfl⟩ := hc
  exact ⟨rfl, cs', h, rfl⟩

/-- A change that has nothing to do with the text. -/
theorem Agree.modify {g : Cursor → Cursor}
    (h : ∀ c cs, g { c with rest := cs } = { g c with rest := cs }) :
    Agree (modify g : Reader PUnit) (modify g) := by
  intro c c' hc a d a' d' ha ha'
  cases ha
  cases ha'
  obtain ⟨cs', hcs, rfl⟩ := hc
  refine ⟨rfl, cs', ?_, h c cs'⟩
  have hsame : g c = { g c with rest := c.rest } := h c c.rest
  rwa [hsame]

theorem Agree.lift {o o' : Option α}
    (h : ∀ a a', o = some a → o' = some a' → Agree (f a) (f' a')) :
    Agree ((liftM o : Reader α) >>= f) ((liftM o' : Reader α) >>= f') := by
  intro c c' hc b d b' d' hb hb'
  obtain ⟨a, c₁, hr, hb⟩ := run_bind_eq_some.mp hb
  obtain ⟨a', c₁', hr', hb'⟩ := run_bind_eq_some.mp hb'
  rcases o with _ | a₀
  · cases hr
  rcases o' with _ | a₀'
  · cases hr'
  cases hr
  cases hr'
  exact h a a' rfl rfl hc hb hb'

/-! ### Blanks and comments -/

/-- A character that neither closes a comment nor escapes another is in it. -/
theorem skipComment_cons {c : Char} (hclosing : c ≠ ')') (hbackslash : c ≠ '\\')
    (cs : List Char) : skipComment (c :: cs) = skipComment cs := by
  rw [skipComment.eq_4]
  · exact hclosing
  · exact fun _ _ hc _ => hbackslash hc

theorem skipComment_append {tail : List Char} (h : skipComment cs = some ds) :
    skipComment (cs ++ tail) = some (ds ++ tail) := by
  fun_induction skipComment cs with
  | case1 => cases h
  | case2 rest =>
    cases h
    rfl
  | case3 _ rest ih => exact ih h
  | case4 c rest hclosing hescape ih =>
    rcases rest with _ | ⟨d, rest⟩
    · cases h
    · have hbackslash : c ≠ '\\' := fun hc => hescape d rest hc rfl
      rw [List.cons_append, skipComment_cons hclosing hbackslash]
      exact ih h

/-- A comment that does not end by itself can only end at the closing bracket. -/
theorem skipComment_append_closing (h : skipComment cs = none) :
    skipComment (cs ++ closing) = none ∨ skipComment (cs ++ closing) = some ['$'] := by
  fun_induction skipComment cs with
  | case1 => exact Or.inr rfl
  | case2 rest => cases h
  | case3 _ rest ih => exact ih h
  | case4 c rest hclosing hescape ih =>
    rcases rest with _ | ⟨d, rest⟩
    · by_cases hc : c = '\\'
      · subst hc
        exact Or.inl rfl
      · right
        rw [List.cons_append, skipComment_cons hclosing hc]
        rfl
    · have hbackslash : c ≠ '\\' := fun hc => hescape d rest hc rfl
      rw [List.cons_append, skipComment_cons hclosing hbackslash]
      exact ih h

theorem length_skipComment (h : skipComment cs = some ds) : ds.length < cs.length := by
  fun_induction skipComment cs with
  | case1 => cases h
  | case2 rest =>
    cases h
    simp
  | case3 _ rest ih =>
    have := ih h
    simp only [List.length_cons]
    omega
  | case4 c rest hclosing hescape ih =>
    have := ih h
    simp only [List.length_cons]
    omega

/-- Without an end of the line, nothing is left of `closing` either. -/
theorem continues_dropLine (cs : List Char) : Continues ((cs.dropWhile (· != '\n')).drop 1)
    (((cs ++ closing).dropWhile (· != '\n')).drop 1) := by
  rw [List.dropWhile_append]
  rcases hcs : cs.dropWhile (· != '\n') with _ | ⟨c, ds⟩
  · exact .swallowed
  · exact .append ds

theorem skipBlanksFrom_cons {ignored : Bool} {fuel : Nat}
    (hcomment : ∀ after, x = '(' → cs = '?' :: '#' :: after → False) (hline : x = '#' → False) :
    skipBlanksFrom ignored (fuel + 1) (x :: cs) =
      if ignored && (x == ' ' || x == '\r' || x == '\n' || x == '\t') then
        skipBlanksFrom ignored fuel cs
      else some (x :: cs) := by
  rw [skipBlanksFrom]
  · exact hcomment
  · exact hline

/-- How the texts after blanks and comments are related: one continues the other, or a comment that
does not end by itself has been ended by the closing bracket. -/
inductive Skipped : Option (List Char) → Option (List Char) → Prop
  | both {ds ds' : List Char} (h : Continues ds ds') : Skipped (some ds) (some ds')
  | neither : Skipped none none
  | comment : Skipped none (some ['$'])

theorem skipBlanksFrom_dollar {ignored : Bool} {fuel : Nat} :
    skipBlanksFrom ignored fuel ['$'] = some ['$'] := by
  cases fuel with
  | zero => rfl
  | succ fuel => simp [skipBlanksFrom]

/-- More fuel than characters is enough to skip blanks. -/
theorem skipped_skipBlanksFrom {ignored : Bool} {fuel fuel' : Nat} (hcs : Continues cs cs')
    (hfuel : cs.length < fuel) (hfuel' : cs'.length < fuel') :
    Skipped (skipBlanksFrom ignored fuel cs) (skipBlanksFrom ignored fuel' cs') := by
  induction fuel generalizing cs cs' fuel' with
  | zero => cases hfuel
  | succ fuel ih =>
    obtain ⟨fuel', rfl⟩ := Nat.exists_eq_add_of_lt (Nat.zero_lt_of_lt hfuel')
    rw [Nat.zero_add] at *
    cases hcs with
    | swallowed => exact .both .swallowed
    | append cs =>
      generalize hafter : skipBlanksFrom ignored (fuel' + 1) (cs ++ closing) = after
      unfold skipBlanksFrom
      split
      case h_1 rest =>
        rw [List.cons_append, List.cons_append, List.cons_append, skipBlanksFrom] at hafter
        subst hafter
        rcases hcomment : skipComment rest with _ | rest'
        · rcases skipComment_append_closing hcomment with hnone | hdollar
          · rw [hnone]
            exact .neither
          · rw [hdollar, Option.bind_some, skipBlanksFrom_dollar]
            exact .comment
        · have hlt := length_skipComment hcomment
          rw [skipComment_append hcomment]
          refine ih (.append rest') ?_ ?_
          · simp at hfuel
            omega
          · simp at hfuel'
            simp
            omega
      case h_2 rest =>
        rw [List.cons_append, skipBlanksFrom] at hafter
        subst hafter
        split
        case isTrue =>
          have hlt := (List.dropWhile_sublist (l := rest) (· != '\n')).length_le
          have hlt' := (List.dropWhile_sublist (l := rest ++ closing) (· != '\n')).length_le
          simp only [List.cons_append, List.length_cons] at hfuel hfuel'
          refine ih (continues_dropLine rest) ?_ ?_
          · rw [List.length_drop]
            omega
          · rw [List.length_drop]
            omega
        case isFalse => exact .both (.append ('#' :: rest))
      case h_3 c rest hcomment hline =>
        rw [List.cons_append] at hfuel' hafter
        have hnoComment : ∀ after, c = '(' → rest ++ closing = '?' :: '#' :: after → False := by
          intro after hc hrest
          exact (Continues.append rest).ne_append (l := ['?', '#']) (by decide)
            (fun after hrest => hcomment after hc hrest) after hrest
        rw [skipBlanksFrom_cons hnoComment hline] at hafter
        subst hafter
        simp only [List.length_cons] at hfuel hfuel'
        split
        case isTrue => exact ih (.append rest) (by omega) (by omega)
        case isFalse => exact .both (.append (c :: rest))
      case h_4 =>
        have hclosing : skipBlanksFrom ignored (fuel' + 1) closing = some closing := by
          simp [skipBlanksFrom, closing]
        rw [List.nil_append, hclosing] at hafter
        subst hafter
        exact .both (.append [])

theorem skipped_skipped {flags : Flags} (hcs : Continues cs cs') :
    Skipped (skipped flags cs) (skipped flags cs') :=
  skipped_skipBlanksFrom hcs (Nat.lt_succ_self _) (Nat.lt_succ_self _)

theorem agree_skipBlanks : Agree skipBlanks skipBlanks := by
  refine Agree.get fun c c' hc => ?_
  obtain ⟨cs', hcs, rfl⟩ := hc
  refine Agree.lift fun ds ds' hds hds' => Agree.set ⟨ds', ?_, rfl⟩
  have hskipped : Skipped (skipped c.flags c.rest) (skipped c.flags cs') := skipped_skipped hcs
  rw [hds, hds'] at hskipped
  cases hskipped with
  | both h => exact h

theorem agree_closeGroup : Agree closeGroup closeGroup := by
  refine agree_skipBlanks.bind fun _ => Agree.rest fun cs cs' hcs => ?_
  split
  case h_1 after =>
    obtain ⟨after', rfl, hafter⟩ := hcs.cons_inv
    exact Agree.goTo hafter
  case h_2 => exact Agree.failure

end Reader

end Vigil.Pattern
