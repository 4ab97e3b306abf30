import Mathlib.Data.List.Basic
import Vigil.Pattern.Program

/-! # Moving code

The code of an expression is the same at any address, but for the addresses in it
(`Instruction.shift`), and these never leave it (`Instruction.Within`).

* `Moves`: what is to be shown of the code of an expression or of several ones at two addresses;
* `Moves.bind`, `Stays.within`: code that is put together from parts;
* `movable`: the code of every expression moves. -/

namespace Vigil.Pattern

/-! ### Instructions -/

/-- An instruction with its addresses moved on. -/
def Instruction.shift (d : Nat) : Instruction → Instruction
  | .split next other => .split (next + d) (other + d)
  | .jump next => .jump (next + d)
  | .again least most greedy next count => .again least most greedy (next + d) count
  | .againNonempty least greedy next count start =>
    .againNonempty least greedy (next + d) count start
  | i => i

/-- Whether the addresses of an instruction lie between two others; the end of a program is none. -/
def Instruction.Within (low high : Nat) : Instruction → Prop
  | .accept => False
  | .split next other => (low ≤ next ∧ next ≤ high) ∧ low ≤ other ∧ other ≤ high
  | .jump next => low ≤ next ∧ next ≤ high
  | .again _ _ _ next _ => low ≤ next ∧ next ≤ high
  | .againNonempty _ _ next _ _ => low ≤ next ∧ next ≤ high
  | _ => True

theorem Instruction.Within.mono {i : Instruction} {low high low' high' : Nat}
    (h : i.Within low high) (hlow : low' ≤ low) (hhigh : high ≤ high') : i.Within low' high' := by
  cases i <;> simp only [Within] at h ⊢ <;> omega

namespace Program

open Instruction

variable {referenced : List Nat} {first start start' slot d : Nat} {hard : Bool}
  {r r' : Option Code} {body body' : List Instruction} {F F' : Code → Option Code}
  {e : Expr} {items : List Expr}

/-! ### Code at two addresses -/

/-- Whether the addresses in code at some address do not leave it. -/
def Stays (start : Nat) (body : List Instruction) : Prop :=
  ∀ i ∈ body, i.Within start (start + body.length)

/-- Whether code at one address is the same at another, up to its own addresses, and does not leave
its place. -/
def Moves (start d : Nat) (r r' : Option Code) : Prop :=
  ∀ ⦃body slot⦄, r = some (body, slot) →
    r' = some (body.map (shift d), slot) ∧ Stays start body

theorem Stays.nil : Stays start [] := by
  rintro i ⟨⟩

/-- Code that stays in some place stays in a greater one. -/
theorem Stays.within (h : Stays start body) {low high : Nat} (hlow : low ≤ start)
    (hhigh : start + body.length ≤ high) : ∀ i ∈ body, i.Within low high :=
  fun i hi => (h i hi).mono hlow hhigh

theorem Stays.append (h : Stays start body) (h' : Stays (start + body.length) body') :
    Stays start (body ++ body') := by
  simp only [Stays, List.forall_mem_append, List.length_append]
  exact ⟨h.within (Nat.le_refl _) (by omega), h'.within (by omega) (by omega)⟩

theorem moves_none : Moves start d none r' := by
  rintro body slot ⟨⟩

theorem moves_some (hbody : body' = body.map (shift d)) (h : Stays start body) :
    Moves start d (some (body, slot)) (some (body', slot)) := by
  rintro _ _ ⟨⟩
  exact ⟨by rw [hbody], h⟩

theorem moves_single {i : Instruction} (hshift : i.shift d = i) (h : i.Within start (start + 1)) :
    Moves start d (some ([i], slot)) (some ([i], slot)) :=
  moves_some (by simp [hshift]) (by simpa [Stays] using h)

theorem Moves.bind {start₁ : Nat} (h : Moves start₁ d r r')
    (hF : ∀ body slot, Stays start₁ body →
      Moves start d (F (body, slot)) (F' (body.map (shift d), slot))) :
    Moves start d (r.bind F) (r'.bind F') := by
  intro body slot hb
  obtain ⟨⟨body₁, slot₁⟩, hr, hb⟩ := Option.bind_eq_some_iff.mp hb
  obtain ⟨hr', hstays⟩ := h hr
  rw [hr', Option.bind_some]
  exact hF body₁ slot₁ hstays hb

/-! ### Code of plain expressions -/

/-- Plain expressions that are left whole have no addresses. -/
theorem mem_whole? (h : whole? first items = some body) :
    ∀ i ∈ body, (∀ low high, i.Within low high) ∧ i.shift d = i := by
  unfold whole? at h
  split at h
  case h_1 =>
    cases h
    simp
  case h_2 =>
    cases h
    simp [Within, shift]
  case h_3 =>
    split at h
    case h_1 =>
      cases h
      simp [Within, shift]
    case h_2 =>
      cases h
      simp [Within, shift]
    case h_3 => cases h

theorem Moves.bind_whole? {G G' : List Instruction → Option Code}
    (hG : ∀ head, head.map (shift d) = head → (∀ i ∈ head, ∀ low high, i.Within low high) →
      Moves start d (G head) (G' head)) :
    Moves start d ((whole? first items).bind G) ((whole? first items).bind G') := by
  rcases hwhole : whole? first items with _ | head
  · exact moves_none
  · refine hG head ?_ fun i hi => (mem_whole? (d := d) hwhole i hi).1
    exact (List.map_congr_left fun i hi => (mem_whole? hwhole i hi).2).trans (List.map_id' head)

theorem moves_whole? :
    Moves start d ((whole? first items).map (·, slot)) ((whole? first items).map (·, slot)) := by
  rw [Option.map_eq_bind]
  exact Moves.bind_whole? fun head hhead hwithin =>
    moves_some hhead.symm fun i hi => hwithin i hi _ _

/-! ### Code of expressions in a row -/

/-- Whether the code of an expression moves, wherever it is. -/
def Movable (referenced : List Nat) (d : Nat) (e : Expr) : Prop :=
  ∀ first hard start start' slot, start' = start + d →
    Moves start d (code? referenced first hard start slot e)
      (code? referenced first hard start' slot e)

theorem moves_middle? (h : ∀ e ∈ items, Movable referenced d e) {skip count : Nat}
    (hstart : start' = start + d) :
    Moves start d (middle? referenced first start slot skip count items)
      (middle? referenced first start' slot skip count items) := by
  induction items generalizing first start start' slot skip count with
  | nil =>
    rw [middle?, middle?]
    exact moves_some rfl Stays.nil
  | cons e es ih =>
    obtain ⟨he, hes⟩ := List.forall_mem_cons.mp h
    rcases skip with _ | skip
    · rcases count with _ | count
      · rw [middle?, middle?]
        exact moves_some rfl Stays.nil
      · rw [middle?, middle?]
        refine (he _ _ start start' slot hstart).bind fun head slot₁ hhead => ?_
        refine (ih hes (by simp; omega)).bind fun tail slot₂ htail => ?_
        exact moves_some (by simp) (hhead.append htail)
    · rw [middle?, middle?]
      exact ih hes hstart

theorem moves_choice? (h : ∀ e ∈ items, Movable referenced d e) (hstart : start' = start + d) :
    Moves start d (choice? referenced first hard start slot items)
      (choice? referenced first hard start' slot items) := by
  induction items generalizing first start start' slot with
  | nil =>
    rw [choice?, choice?]
    exact moves_some rfl Stays.nil
  | cons e es ih =>
    obtain ⟨he, hes⟩ := List.forall_mem_cons.mp h
    rcases es with _ | ⟨e', es⟩
    · rw [choice?, choice?]
      exact he _ _ start start' slot hstart
    · rw [choice?, choice?]
      · refine (he _ _ (start + 1) (start' + 1) slot (by omega)).bind fun body slot₁ hbody => ?_
        refine (ih hes (by simp; omega)).bind fun tail slot₂ htail => moves_some ?_ ?_
        · simp [shift]
          omega
        · simp only [Stays, List.forall_mem_append, List.forall_mem_cons, List.length_cons,
            List.length_append]
          exact ⟨⟨⟨⟨by omega, by omega⟩, by omega, by omega⟩, hbody.within (by omega) (by omega)⟩,
            ⟨by omega, by omega⟩, htail.within (by omega) (by omega)⟩
      · simp
      · simp

theorem movable_sequence (h : ∀ e ∈ items, Movable referenced d e) :
    Movable referenced d (.sequence items) := by
  intro first hard start start' slot hstart
  rw [code?, code?]
  split
  · exact moves_whole?
  · refine Moves.bind_whole? fun head hhead hheadWithin => ?_
    refine (moves_middle? h (by omega : start' + head.length = start + head.length + d)).bind
      fun middle slot' hmiddle => Moves.bind_whole? fun tail htail htailWithin => ?_
    refine moves_some (by simp [hhead, htail]) ?_
    simp only [Stays, List.forall_mem_append, List.length_append]
    exact ⟨⟨fun i hi => hheadWithin i hi _ _, hmiddle.within (by omega) (by omega)⟩,
      fun i hi => htailWithin i hi _ _⟩

theorem movable_choice (h : ∀ e ∈ items, Movable referenced d e) :
    Movable referenced d (.choice items) := by
  intro first hard start start' slot hstart
  rw [code?, code?]
  split
  · exact moves_whole?
  · exact moves_choice? h hstart

/-! ### Code of look-around -/

theorem moves_lookCode {behind negative : Bool} {size : Nat} (hstart : start' = start + d)
    (h : Stays (start + lookOffset behind) body) :
    Moves start d (some (lookCode behind negative size start body slot))
      (some (lookCode behind negative size start' (body.map (shift d)) slot)) := by
  subst hstart
  have hlength : (if behind then [goBack size] else []).length + 1 = lookOffset behind := by
    cases behind <;> rfl
  have hshift : (if behind then [goBack size] else []).map (shift d) =
      if behind then [goBack size] else [] := by
    cases behind <;> rfl
  have hwithin : ∀ i ∈ (if behind then [goBack size] else []), ∀ low high, i.Within low high := by
    cases behind <;> simp [Within]
  unfold lookCode
  generalize (if behind then [goBack size] else []) = back at hlength hshift hwithin ⊢
  cases negative with
  | false =>
    refine moves_some (by simp [shift, hshift]) ?_
    simp only [Stays, List.forall_mem_append, List.forall_mem_cons, List.length_append,
      List.length_cons, List.length_nil]
    exact ⟨⟨⟨trivial, fun i hi => hwithin i hi _ _⟩, h.within (by omega) (by omega)⟩, trivial,
      by simp⟩
  | true =>
    refine moves_some (by simp [shift, hshift]; omega) ?_
    simp only [Stays, List.forall_mem_append, List.forall_mem_cons, List.length_append,
      List.length_cons, List.length_nil]
    exact ⟨⟨⟨⟨⟨by omega, by omega⟩, by omega, by omega⟩, fun i hi => hwithin i hi _ _⟩,
      h.within (by omega) (by omega)⟩, trivial, by simp⟩

theorem moves_looks? (h : ∀ e ∈ items, Movable referenced d e) {negative : Bool}
    (hstart : start' = start + d) :
    Moves start d (looks? referenced first negative start slot items)
      (looks? referenced first negative start' slot items) := by
  induction items generalizing first start start' slot with
  | nil =>
    rw [looks?, looks?]
    exact moves_some rfl Stays.nil
  | cons e es ih =>
    obtain ⟨he, hes⟩ := List.forall_mem_cons.mp h
    rw [looks?, looks?]
    split
    · exact moves_none
    split
    · refine (he _ _ (start + 2) (start' + 2) slot (by omega)).bind fun body slot₁ hbody => ?_
      dsimp only
      have hlook : Moves start d (some (lookCode true true e.leastSize start body slot₁)) _ :=
        moves_lookCode hstart hbody
      generalize lookCode true true e.leastSize start body slot₁ = code at hlook ⊢
      obtain ⟨head, slot₂⟩ := code
      obtain ⟨hhead, hstays⟩ := hlook rfl
      rw [Option.some.inj hhead]
      refine (ih hes (by simp; omega)).bind fun tail slot₃ htail => ?_
      exact moves_some (by simp) (hstays.append htail)
    split
    · exact (he _ _ (start + 2) (start' + 2) slot (by omega)).bind
        fun body slot₁ hbody => moves_lookCode hstart hbody
    · refine (he _ _ (start + 3) (start' + 3) slot (by omega)).bind fun body slot₁ hbody => ?_
      dsimp only
      have hlook : Moves (start + 1) d
          (some (lookCode true false e.leastSize (start + 1) body slot₁)) _ :=
        moves_lookCode (by omega : start' + 1 = start + 1 + d) hbody
      generalize lookCode true false e.leastSize (start + 1) body slot₁ = code at hlook ⊢
      obtain ⟨head, slot₂⟩ := code
      obtain ⟨hhead, hstays⟩ := hlook rfl
      rw [Option.some.inj hhead]
      refine (ih hes (by simp; omega)).bind fun tail slot₃ htail => ?_
      refine moves_some (by simp [shift]; omega) ?_
      dsimp only at htail ⊢
      simp only [Stays, List.forall_mem_append, List.forall_mem_cons, List.length_cons,
        List.length_append]
      exact ⟨⟨⟨⟨by omega, by omega⟩, by omega, by omega⟩, hstays.within (by omega) (by omega)⟩,
        ⟨by omega, by omega⟩, htail.within (by omega) (by omega)⟩

/-- Look-behind at a choice looks at its items one by one, if their sizes differ. -/
theorem movable_look {behind negative : Bool}
    (h : ∀ e' : Expr, sizeOf e' ≤ sizeOf e → Movable referenced d e') :
    Movable referenced d (.look behind negative e) := by
  intro first hard start start' slot hstart
  by_cases hchoice : behind = true ∧ ∃ items, e = .choice items
  · obtain ⟨rfl, items, rfl⟩ := hchoice
    have hitems : ∀ e' ∈ items, Movable referenced d e' := by
      intro e' he'
      have := List.sizeOf_lt_of_mem he'
      exact h e' (by simp only [Expr.choice.sizeOf_spec]; omega)
    rw [code?, code?]
    split
    · exact moves_looks? hitems hstart
    · dsimp only
      split
      · exact moves_whole?.bind fun body slot' hbody => moves_lookCode hstart hbody
      · exact (moves_choice? hitems (by omega : start' + 2 = start + 2 + d)).bind
          fun body slot' hbody => moves_lookCode hstart hbody
  · have hne : ∀ items, behind = true → e = .choice items → False :=
      fun items hbehind hitems => hchoice ⟨hbehind, items, hitems⟩
    rw [code?, code?]
    · split
      · exact moves_none
      · exact (h e (Nat.le_refl _) _ _ (start + lookOffset behind) (start' + lookOffset behind) slot
          (by omega)).bind fun body slot' hbody => moves_lookCode hstart hbody
    · exact hne
    · exact hne

/-! ### Code with other code inside -/

theorem shift_fork {greedy : Bool} {on away : Nat} :
    (fork greedy on away).shift d = fork greedy (on + d) (away + d) := by
  cases greedy with
  | false => rfl
  | true => rfl

theorem within_fork {greedy : Bool} {on away low high : Nat} (hon : low ≤ on ∧ on ≤ high)
    (haway : low ≤ away ∧ away ≤ high) : (fork greedy on away).Within low high := by
  cases greedy with
  | false => exact ⟨haway, hon⟩
  | true => exact ⟨hon, haway⟩

/-- Code between two instructions without addresses. -/
theorem moves_between {i j : Instruction} (hi : i.shift d = i) (hj : j.shift d = j)
    (hiWithin : ∀ low high, i.Within low high) (hjWithin : ∀ low high, j.Within low high)
    (h : Stays (start + 1) body) :
    Moves start d (some (i :: body ++ [j], slot))
      (some (i :: body.map (shift d) ++ [j], slot)) := by
  refine moves_some (by simp [hi, hj]) ?_
  simp only [Stays, List.forall_mem_append, List.forall_mem_cons, List.length_append,
    List.length_cons]
  exact ⟨⟨hiWithin _ _, h.within (by omega) (by omega)⟩, hjWithin _ _, by simp⟩

theorem movable_group (h : Movable referenced d e) : Movable referenced d (.group e) := by
  intro first hard start start' slot hstart
  rw [code?, code?]
  split
  · exact moves_whole?
  · exact (h _ _ (start + 1) (start' + 1) slot (by omega)).bind fun body slot' hbody =>
      moves_between rfl rfl (fun _ _ => trivial) (fun _ _ => trivial) hbody

theorem movable_atomic (h : Movable referenced d e) : Movable referenced d (.atomic e) := by
  intro first hard start start' slot hstart
  rw [code?, code?]
  exact (h _ _ (start + 1) (start' + 1) slot (by omega)).bind fun body slot' hbody =>
    moves_between rfl rfl (fun _ _ => trivial) (fun _ _ => trivial) hbody

theorem movable_repetition {least : Nat} {most : Option Nat} {greedy : Bool}
    (h : Movable referenced d e) : Movable referenced d (.repetition e least most greedy) := by
  intro first hard start start' slot hstart
  rw [code?, code?]
  split
  · exact moves_whole?
  split
  · refine (h _ _ (start + 1) (start' + 1) slot (by omega)).bind
      fun body slot' hbody => moves_some ?_ ?_
    · simp only [List.map_cons, shift_fork, List.length_map]
      congr 2 <;> omega
    · simp only [Stays, List.forall_mem_cons, List.length_cons]
      exact ⟨within_fork (by omega) (by omega), hbody.within (by omega) (by omega)⟩
  split
  · refine (h _ _ (start + 2) (start' + 2) (slot + 2) (by omega)).bind
      fun body slot' hbody => moves_some (by simp [shift]; omega) ?_
    simp only [Stays, List.forall_mem_append, List.forall_mem_cons, List.length_cons,
      List.length_append, List.length_nil]
    exact ⟨⟨trivial, ⟨by omega, by omega⟩, hbody.within (by omega) (by omega)⟩,
      ⟨by omega, by omega⟩, by simp⟩
  split
  · refine (h _ _ (start + 1) (start' + 1) slot (by omega)).bind
      fun body slot' hbody => moves_some ?_ ?_
    · simp only [List.cons_append, List.map_cons, List.map_append, List.map_nil, shift_fork,
        List.length_map, hstart]
      congr 2 <;> omega
    · simp only [Stays, List.forall_mem_append, List.forall_mem_cons, List.length_cons,
        List.length_append, List.length_nil]
      exact ⟨⟨within_fork (by omega) (by omega), hbody.within (by omega) (by omega)⟩,
        ⟨by omega, by omega⟩, by simp⟩
  split
  · refine (h _ _ start start' slot hstart).bind fun body slot' hbody => moves_some ?_ ?_
    · simp [shift_fork, hstart]
      congr 1
      omega
    · simp only [Stays, List.forall_mem_append, List.forall_mem_cons, List.length_cons,
        List.length_append, List.length_nil]
      exact ⟨hbody.within (by omega) (by omega), within_fork (by omega) (by omega), by simp⟩
  · refine (h _ _ (start + 2) (start' + 2) (slot + 1) (by omega)).bind
      fun body slot' hbody => moves_some (by simp [shift]; omega) ?_
    simp only [Stays, List.forall_mem_append, List.forall_mem_cons, List.length_cons,
      List.length_append, List.length_nil]
    exact ⟨⟨trivial, ⟨by omega, by omega⟩, hbody.within (by omega) (by omega)⟩,
      ⟨by omega, by omega⟩, by simp⟩

theorem movable_conditional {c y n : Expr} (hc : Movable referenced d c)
    (hy : Movable referenced d y) (hn : Movable referenced d n) :
    Movable referenced d (.conditional c y n) := by
  intro first hard start start' slot hstart
  rw [code?, code?]
  refine (hc _ _ (start + 2) (start' + 2) slot (by omega)).bind fun test slot₁ htest => ?_
  refine (hy _ _ _ _ slot₁ (by simp; omega)).bind fun yes slot₂ hyes => ?_
  refine (hn _ _ _ _ slot₂ (by simp; omega)).bind fun no slot₃ hno => ?_
  refine moves_some (by simp [shift]; omega) ?_
  simp only [Stays, List.forall_mem_append, List.forall_mem_cons, List.length_append,
    List.length_cons]
  exact ⟨⟨⟨trivial, ⟨⟨by omega, by omega⟩, by omega, by omega⟩,
    htest.within (by omega) (by omega)⟩, trivial, hyes.within (by omega) (by omega)⟩,
    ⟨by omega, by omega⟩, hno.within (by omega) (by omega)⟩

/-- **Code can be moved**, whatever it is the code of. -/
theorem movable (e : Expr) : Movable referenced d e := by
  match e with
  | .empty =>
    intro first hard start start' slot _
    rw [code?, code?]
    exact moves_some rfl Stays.nil
  | .any _ | .assertion _ | .reference _ | .resetStart | .searchStart | .groupMatched _ =>
    intro first hard start start' slot _
    rw [code?, code?]
    exact moves_single rfl trivial
  | .literal _ _ | .set _ =>
    intro first hard start start' slot _
    rw [code?, code?]
    exact moves_whole?
  | .sequence items => exact movable_sequence fun e he => movable e
  | .choice items => exact movable_choice fun e he => movable e
  | .group e => exact movable_group (movable e)
  | .look behind negative e =>
    exact movable_look fun e' hle => movable e'
  | .repetition e least most greedy => exact movable_repetition (movable e)
  | .atomic e => exact movable_atomic (movable e)
  | .conditional c y n => exact movable_conditional (movable c) (movable y) (movable n)
termination_by sizeOf e

end Program

end Vigil.Pattern
