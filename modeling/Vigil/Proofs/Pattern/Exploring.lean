import Mathlib.Logic.Relation
import Vigil.Proofs.Pattern.Between
import Vigil.Proofs.Pattern.Mirroring

/-! # Searches between the ends of a text

A program that wraps another one in conditions for the ends of the text (`Encloses`) tries the
matches of the other one that begin before the first character, one after the other, until one of
them leaves no character. At a later place it finds nothing (`Lost`).

* `Explores`, `ReachesEnd`: the matches that a machine comes to if it takes none for the last;
* `Lost.run_ne_found`: a machine that has left the first place finds nothing;
* `Mirrors.reachesEnd`: a match between the ends is one that leaves no character, by induction on
  the number of steps, with `Mirrors` as the invariant;
* `Program.encloses_ofExpr?`: the program of an expression between the ends of the text. -/

namespace Vigil.Pattern

namespace Machine

variable {program program' : Program} {text : Array Char} {high : Nat}
  {m m' m₁ m₂ m₁' : Machine} {now later : Way}

/-! ### All matches -/

/-- The machine after a step. Where a way ends, and also where it comes to a match, the machine
takes up the last way on its stack. -/
def explore? (program : Program) (text : Array Char) (m : Machine) : Option Machine :=
  let other (m : Machine) : Option Machine :=
    match back m with
    | .next m => some m
    | _ => none
  match step program text m with
  | .next m => some m
  | .fail m => other m
  | .done .found => other m
  | .done _ => none

/-- Whether a machine comes to another while it looks for all matches. -/
def Explores (program : Program) (text : Array Char) : Machine → Machine → Prop :=
  Relation.ReflTransGen fun m m' => explore? program text m = some m'

/-- Whether a machine comes to a match that leaves no character of the text. -/
def ReachesEnd (program : Program) (text : Array Char) (m : Machine) : Prop :=
  ∃ m', Explores program text m m' ∧ step program text m' = .done .found ∧
    text.size ≤ m'.way.place

theorem ReachesEnd.of_explore? (h : explore? program text m = some m')
    (h' : ReachesEnd program text m') : ReachesEnd program text m := by
  obtain ⟨m'', hexplores, hfound, hend⟩ := h'
  exact ⟨m'', .head h hexplores, hfound, hend⟩

/-- What becomes of a machine in one step and, if its way ends, the return to another. -/
def advance (program : Program) (text : Array Char) (m : Machine) : Step :=
  match step program text m with
  | .fail m => back m
  | s => s

theorem advance_of_next (h : step program text m = .next m') :
    advance program text m = .next m' := by
  rw [advance, h]

theorem advance_of_fail (h : step program text m = .fail m') :
    advance program text m = back m' := by
  rw [advance, h]

theorem advance_of_done {outcome : Outcome} (h : step program text m = .done outcome) :
    advance program text m = .done outcome := by
  rw [advance, h]

theorem advance_of_fork (h : step program text m = fork m' now later) :
    advance program text m = fork m' now later := by
  unfold fork at h ⊢
  split at h
  case isTrue hlimit =>
    rw [if_pos hlimit]
    exact advance_of_next h
  case isFalse hlimit =>
    rw [if_neg hlimit]
    exact advance_of_done h

theorem run_succ {fuel : Nat} : run program text (fuel + 1) m =
    match advance program text m with
    | .next m => run program text fuel m
    | .done outcome => outcome
    | .fail _ => .absent := by
  rw [run, advance]
  cases step program text m <;> rfl

theorem run_of_next {fuel : Nat} (h : step program text m = .next m') :
    run program text (fuel + 1) m = run program text fuel m' := by
  rw [run_succ, advance_of_next h]

/-! ### Single steps -/

theorem step_jump {next : Nat} (h : program.code[m.way.address]? = some (.jump next)) :
    step program text m = .next { m with way := goTo m.way next } := by
  simp [step, h]

theorem step_split {next other : Nat}
    (h : program.code[m.way.address]? = some (.split next other)) :
    step program text m = fork m (goTo m.way next) (goTo m.way other) := by
  simp [step, h]

theorem step_save {slot : Nat} (h : program.code[m.way.address]? = some (.save slot)) :
    step program text m =
      .next { m with way := onward (setSlot m.way slot (some m.way.place)) } := by
  simp [step, h]

theorem step_any {c : Char} (h : program.code[m.way.address]? = some (.any true))
    (hc : text[m.way.place]? = some c) :
    step program text m =
      .next { m with way := onward { m.way with place := m.way.place + 1 } } := by
  simp [step, h, hc]

theorem step_any_of_none {newline : Bool}
    (h : program.code[m.way.address]? = some (.any newline)) (hc : text[m.way.place]? = none) :
    step program text m = .fail m := by
  simp [step, h, hc]

variable {a : Assertion} {first : Nat}

theorem step_assertion_of_not
    (h : program.code[m.way.address]? = some (.plain (.assertion a) first first))
    (ha : a.holdsAt text m.way.place = false) : step program text m = .fail m := by
  simp [step, h, Node.ends, ha]

/-- Behind the first character no text starts. -/
theorem holdsAt_textStart {place : Nat} (h : 0 < place ∧ place ≤ text.size) :
    Assertion.textStart.holdsAt text place = false := by
  obtain ⟨hpos, hle⟩ := h
  have hlt : place - 1 < text.size := by omega
  simp [Assertion.holdsAt, Assertion.holds, Nat.ne_of_gt hpos, hlt]

/-! ### Programs between the ends of a text -/

/-- Whether a program is another one with conditions for the ends of the text around it; `high` is
the address where the other one comes to its end. -/
structure Encloses (high : Nat) (program program' : Program) : Prop where
  le : 4 ≤ high
  slots : program'.slots = program.slots
  start : program.code[3]? = some (.save 0)
  body : ∀ a, 4 ≤ a → a < high → ∃ i : Instruction,
    program.code[a]? = some i ∧ program'.code[a + 1]? = some (i.shift 1) ∧ i.Within 4 high
  save : program.code[high]? = some (.save 1)
  accept : program.code[high + 1]? = some .accept
  split' : program'.code[0]? = some (.split 3 1)
  any' : program'.code[1]? = some (.any true)
  jump' : program'.code[2]? = some (.jump 0)
  save' : program'.code[3]? = some (.save 0)
  textStart' : program'.code[4]? = some (.plain (.assertion .textStart) 1 1)
  textEnd' : ∃ k, program'.code[high + 1]? = some (.plain (.assertion .textEnd) k k)

/-- Whether a machine has left the first place and is about to try a later one. -/
inductive Lost (text : Array Char) (m : Machine) : Prop
  | any (h : m.way.address = 1) (hstack : m.stack = [])
  | loop (h : m.way.address = 2 ∨ m.way.address = 0) (hstack : m.stack = [])
    (hplace : 0 < m.way.place ∧ m.way.place ≤ text.size)
  | start (h : m.way.address = 3 ∨ m.way.address = 4)
    (hstack : ∃ bottom, m.stack = [bottom] ∧ bottom.address = 1)
    (hplace : 0 < m.way.place ∧ m.way.place ≤ text.size)

/-- Whether a step leads to such a machine, or ends without a match. -/
inductive Loses (text : Array Char) : Step → Prop
  | next {m : Machine} (h : Lost text m) : Loses text (.next m)
  | done {outcome : Outcome} (h : outcome ≠ .found) : Loses text (.done outcome)

/-- A machine that has left the first place only ever tries later ones. -/
theorem Lost.loses (hcode : Encloses high program program') (h : Lost text m) :
    Loses text (advance program' text m) := by
  cases h with
  | any h hstack =>
    have hany : program'.code[m.way.address]? = some (.any true) := by
      rw [h]
      exact hcode.any'
    rcases hc : text[m.way.place]? with _ | c
    · rw [advance_of_fail (step_any_of_none hany hc), back, hstack]
      exact .done nofun
    · rw [advance_of_next (step_any hany hc)]
      have hlt := (Array.getElem?_eq_some_iff.mp hc).1
      have haddress : (onward { m.way with place := m.way.place + 1 }).address = 2 := by
        simp [onward, h]
      exact .next (.loop (Or.inl haddress) hstack ⟨Nat.succ_pos _, hlt⟩)
  | loop h hstack hplace =>
    rcases h with h | h
    · have hjump : program'.code[m.way.address]? = some (.jump 0) := by
        rw [h]
        exact hcode.jump'
      rw [advance_of_next (step_jump hjump)]
      exact .next (.loop (Or.inr rfl) hstack hplace)
    · have hsplit : program'.code[m.way.address]? = some (.split 3 1) := by
        rw [h]
        exact hcode.split'
      rw [advance_of_fork (step_split hsplit), fork]
      split
      case isTrue =>
        exact .next (.start (Or.inl rfl) ⟨goTo m.way 1, by rw [hstack], rfl⟩ hplace)
      case isFalse => exact .done nofun
  | start h hstack hplace =>
    rcases h with h | h
    · have hsave : program'.code[m.way.address]? = some (.save 0) := by
        rw [h]
        exact hcode.save'
      rw [advance_of_next (step_save hsave)]
      have haddress : (onward (setSlot m.way 0 (some m.way.place))).address = 4 := by
        simp [onward, setSlot, h]
      exact .next (.start (Or.inr haddress) hstack hplace)
    · have hstart : program'.code[m.way.address]? =
          some (.plain (.assertion .textStart) 1 1) := by
        rw [h]
        exact hcode.textStart'
      obtain ⟨bottom, hstack, hbottom⟩ := hstack
      rw [advance_of_fail (step_assertion_of_not hstart (holdsAt_textStart hplace)),
        back_of_stack hstack]
      split
      case isTrue => exact .next (.any hbottom rfl)
      case isFalse => exact .done nofun

theorem Lost.run_ne_found (hcode : Encloses high program program') {fuel : Nat}
    (h : Lost text m) : run program' text fuel m ≠ .found := by
  induction fuel generalizing m with
  | zero => nofun
  | succ fuel ih =>
    rw [run_succ]
    have hloses := h.loses hcode
    generalize advance program' text m = s at hloses
    cases hloses with
    | next hlost => exact ih hlost
    | done hne => exact hne

theorem back_ne_found : back m ≠ .done .found := by
  unfold back
  split
  · nofun
  · split <;> nofun

theorem ReachesEnd.of_back (hstep : step program text m = .fail m₁ ∨
    step program text m = .done .found ∧ m₁ = m) (hback : back m₁ = .next m₂)
    (h : ReachesEnd program text m₂) : ReachesEnd program text m := by
  refine .of_explore? ?_ h
  rcases hstep with hstep | ⟨hstep, rfl⟩
  · simp [explore?, hstep, hback]
  · simp [explore?, hstep, hback]

/-- Where both ways end, the match is on one that is taken up. -/
theorem Follows.run_back (hcode : Encloses high program program') {fuel : Nat}
    (ih : ∀ {m m'}, Mirrors high m m' → run program' text fuel m' = .found →
      ReachesEnd program text m)
    (h : Follows high m m') (hadvance : advance program' text m₁' = Machine.back m')
    (hfound : run program' text (fuel + 1) m₁' = .found) :
    ∃ m₂, Machine.back m = .next m₂ ∧ ReachesEnd program text m₂ := by
  rw [run_succ, hadvance] at hfound
  rcases hback : Machine.back m' with m₂' | m₂' | outcome
  · rw [hback] at hfound
    rcases h.back hback with ⟨m₂, hm₂, hmirrors⟩ | ⟨haddress, hstack⟩
    · exact ⟨m₂, hm₂, ih hmirrors hfound⟩
    · exact absurd hfound (Lost.run_ne_found hcode (.any haddress hstack))
  · rw [hback] at hfound
    cases hfound
  · rw [hback] at hfound
    dsimp only at hfound
    subst hfound
    exact absurd hback back_ne_found

/-- Where the text has an end, the way comes to a match. -/
theorem Mirrors.reachesEnd_of_end (hcode : Encloses high program program') {fuel : Nat}
    (h : Mirrors high m m') (heq : m.way.address = high)
    (ih : ∀ {m m'}, Mirrors high m m' → run program' text fuel m' = .found →
      ReachesEnd program text m)
    (hfound : run program' text (fuel + 1) m' = .found) : ReachesEnd program text m := by
  have hsave : program.code[m.way.address]? = some (.save 1) := by
    rw [heq]
    exact hcode.save
  have hstep : step program text m =
      .next { m with way := onward (setSlot m.way 1 (some m.way.place)) } := by
    simp [step, hsave]
  have haccept : step program text
      { m with way := onward (setSlot m.way 1 (some m.way.place)) } = .done .found := by
    have haddress : (onward (setSlot m.way 1 (some m.way.place))).address = high + 1 := by
      rw [← heq]
      rfl
    simp [step, haddress, hcode.accept]
  refine .of_explore? (by rw [explore?, hstep]) ?_
  by_cases hplace : text.size ≤ m.way.place
  · exact ⟨_, .refl, haccept, hplace⟩
  · obtain ⟨k, htextEnd⟩ := hcode.textEnd'
    have hplain : program'.code[m'.way.address]? = some (.plain (.assertion .textEnd) k k) := by
      rw [h.way, moved_address, heq]
      exact htextEnd
    have hends : Assertion.textEnd.holdsAt text m.way.place = false := by
      simp [Assertion.holdsAt, Assertion.holds]
      omega
    have hstep' : step program' text m' = .fail m' := by
      have hends' : Assertion.textEnd.holdsAt text m'.way.place = false := by
        rw [h.way]
        exact hends
      simp [step, hplain, Node.ends, hends']
    have hfollows : Follows high { m with way := onward (setSlot m.way 1 (some m.way.place)) } m' :=
      ⟨h.stack, h.depth, h.depth', h.returns, h.inside⟩
    obtain ⟨m₂, hback, hend⟩ := hfollows.run_back hcode ih (advance_of_fail hstep') hfound
    exact .of_back (Or.inr ⟨haccept, rfl⟩) hback hend

/-- **A match between the ends of a text** is one that leaves no character. -/
theorem Mirrors.reachesEnd (hcode : Encloses high program program') {fuel : Nat}
    (h : Mirrors high m m') (hfound : run program' text fuel m' = .found) :
    ReachesEnd program text m := by
  induction fuel generalizing m m' with
  | zero => cases hfound
  | succ fuel ih =>
    obtain ⟨hlow, hhigh⟩ := h.inside_way
    rcases Nat.lt_or_eq_of_le hhigh with hlt | heq
    · obtain ⟨i, hi, hi', hwithin⟩ := hcode.body _ hlow hlt
      have hsteps : StepMirrors high (step program text m) (step program' text m') :=
        stepMirrors_step h hi hi' hwithin hlt
      generalize hs : step program text m = s at hsteps
      generalize hs' : step program' text m' = s' at hsteps
      cases hsteps with
      | next h₁ =>
        rw [run_succ, advance_of_next hs'] at hfound
        exact .of_explore? (by rw [explore?, hs]) (ih h₁ hfound)
      | fail h₁ =>
        obtain ⟨m₂, hback, hends⟩ := h₁.run_back hcode ih (advance_of_fail hs') hfound
        exact .of_back (Or.inl hs) hback hends
      | exhausted hstack =>
        rw [run_succ, advance_of_fail hs', Machine.back, hstack] at hfound
        cases hfound
      | gaveUp =>
        rw [run_succ, advance_of_done hs'] at hfound
        cases hfound
    · exact h.reachesEnd_of_end hcode heq ih hfound

/-- A machine that is to match from some place on, after the instructions that go from one place to
the next. -/
def startAt (program : Program) (place : Nat) : Machine where
  way := ⟨3, place, Array.replicate program.slots none, []⟩

/-- **A search between the ends of a text** finds matches from the first place that leave no
character. -/
theorem reachesEnd_of_search (hcode : Encloses high program program') {text : List Char}
    (hfound : program'.search text = .found) :
    ReachesEnd program text.toArray (startAt program 0) := by
  obtain ⟨fuel, hfuel⟩ : ∃ fuel, stepLimit = fuel + 3 := ⟨stepLimit - 3, by decide⟩
  let slots : Array (Option Nat) := Array.replicate program.slots none
  let bottom : Way := ⟨1, 0, slots, []⟩
  have hloop : step program' text.toArray { way := ⟨0, 0, slots, []⟩ } =
      .next { way := ⟨3, 0, slots, []⟩, stack := [bottom], depth := 1 } := by
    simp [step, hcode.split', fork, goTo, stackLimit, bottom]
  have hsave : step program' text.toArray
      { way := ⟨3, 0, slots, []⟩, stack := [bottom], depth := 1 } = .next
        { way := ⟨4, 0, slots.setIfInBounds 0 (some 0), []⟩, stack := [bottom], depth := 1 } := by
    simp [step, hcode.save', onward, setSlot]
  have htextStart : step program' text.toArray
      { way := ⟨4, 0, slots.setIfInBounds 0 (some 0), []⟩, stack := [bottom], depth := 1 } = .next
        { way := ⟨5, 0, slots.setIfInBounds 0 (some 0), []⟩, stack := [bottom], depth := 1 } := by
    have hends : Assertion.textStart.holdsAt text.toArray 0 = true := rfl
    simp [step, hcode.textStart', Node.ends, hends, onward, recordGroups]
  have hstart : step program text.toArray (startAt program 0) =
      .next { way := ⟨4, 0, slots.setIfInBounds 0 (some 0), []⟩ } := by
    simp [step, startAt, hcode.start, onward, setSlot, slots]
  rw [Program.search, hcode.slots, hfuel, run_of_next hloop, run_of_next hsave,
    run_of_next htextStart] at hfound
  refine .of_explore? (by rw [explore?, hstart]) (Mirrors.reachesEnd hcode ?_ hfound)
  exact ⟨⟨⟨bottom, rfl, rfl⟩, rfl, rfl, rfl, by simp⟩, rfl, ⟨Nat.le_refl 4, hcode.le⟩⟩

end Machine

namespace Program

variable {referenced : List Nat} {e : Expr} {program program' : Program} {body : List Instruction}
  {slots : Nat}

/-- The code of a hard expression between the ends of the text is its own, moved by one address. -/
theorem code?_betweenEnds (hhard : e.isHard referenced 1 = true)
    (h : code? referenced 1 true 4 (2 * (e.groups + 1)) e = some (body, slots)) :
    code? referenced 1 true 4 (2 * ((betweenEnds e).groups + 1)) (betweenEnds e) =
      some (.plain (.assertion .textStart) 1 1 :: body.map (Instruction.shift 1) ++
        [.plain (.assertion .textEnd) (1 + e.groups) (1 + e.groups)], slots) := by
  have hempty : Reader.isEmpty e = false := by
    cases e with
    | empty => cases hhard
    | _ => rfl
  have hgroups : (betweenEnds e).groups = e.groups := by
    simp [betweenEnds, hempty, Expr.groups, Expr.groupsAll]
  obtain ⟨hmoved, -⟩ := movable (d := 1) e 1 true 4 5 _ rfl h
  rw [hgroups]
  have hstart : whole? 1 [Expr.assertion .textStart] =
      some [.plain (.assertion .textStart) 1 1] := rfl
  have hend : whole? (1 + e.groups) [Expr.assertion .textEnd] =
      some [.plain (.assertion .textEnd) (1 + e.groups) (1 + e.groups)] := rfl
  have hitems : betweenEnds e =
      .sequence [.assertion .textStart, e, .assertion .textEnd] := by
    simp [betweenEnds, hempty]
  rw [hitems, code?]
  simp [leading, trailing, hhard, Expr.hasFixedSize, Expr.isHard, Assertion.isHard,
    Expr.groupsAll, Expr.groups, hstart, hend, middle?, hmoved]

/-- The program of an expression between the ends of a text. -/
theorem encloses_ofExpr? (hhard : e.isHard referenced 1 = true)
    (h : ofExpr? referenced e = some program)
    (h' : ofExpr? referenced (betweenEnds e) = some program') :
    ∃ high, Machine.Encloses high program program' := by
  obtain ⟨⟨body, slots⟩, hbody, rfl⟩ := Option.map_eq_some_iff.mp h
  obtain ⟨⟨body', slots'⟩, hbody', rfl⟩ := Option.map_eq_some_iff.mp h'
  cases (code?_betweenEnds hhard hbody).symm.trans hbody'
  obtain ⟨-, hstays⟩ := movable (d := 1) e 1 true 4 5 _ rfl hbody
  refine ⟨4 + body.length, ⟨Nat.le_add_right _ _, rfl, ?_, ?_, ?_, ?_, ?_, ?_, ?_, ?_, ?_, ?_⟩⟩
  · rfl
  · intro a hlow hhigh
    obtain ⟨k, rfl⟩ := Nat.exists_eq_add_of_le' hlow
    have hk : k < body.length := by omega
    refine ⟨body[k], ?_, ?_, hstays _ (List.getElem_mem hk)⟩
    · simp [List.getElem?_append_left hk]
    · have hmap : k < (body.map (Instruction.shift 1)).length := by rwa [List.length_map]
      simp [List.getElem?_append_left hmap, hk]
  · simp [Nat.add_comm 4]
  · simp [Nat.add_comm 4]
  · rfl
  · rfl
  · rfl
  · rfl
  · rfl
  · refine ⟨1 + e.groups, ?_⟩
    simp [Nat.add_comm 4]

end Program

end Vigil.Pattern
