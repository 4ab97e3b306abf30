import Vigil.Pattern.Machine
import Vigil.Proofs.Pattern.Relocation

/-! # Machines in moved code

A program that wraps another one holds its code one address further on (`Instruction.shift`). A
machine in the moved code does the same as one in the other code, with one more way at the bottom of
its stack: that on which the search goes on to the next place.

* `Mirrors`, `Follows`: whether a machine does what another does, before and after a way has ended;
* `Follows.goOn`, `Follows.fork`, `Follows.cut`, `Follows.refuse`: what may happen in one step;
* `stepMirrors_step`: one step of both machines, by instruction;
* `Follows.back`: the return to another way. -/

namespace Vigil.Pattern

namespace Machine

variable {program program' : Program} {text : Array Char} {high : Nat} {m m' m₁ m₁' : Machine}
  {w w' now later : Way}

/-! ### Moved ways -/

/-- A way through code that lies one address further on, with one more way on the stack. -/
def moved (w : Way) : Way :=
  { w with address := w.address + 1, atomics := w.atomics.map (· + 1) }

@[simp] theorem moved_address : (moved w).address = w.address + 1 := rfl

@[simp] theorem moved_place : (moved w).place = w.place := rfl

@[simp] theorem moved_atomics : (moved w).atomics = w.atomics.map (· + 1) := rfl

@[simp] theorem slot?_moved {slot : Nat} : slot? (moved w) slot = slot? w slot := rfl

theorem setSlot_moved {slot : Nat} {value : Option Nat} :
    setSlot (moved w) slot value = moved (setSlot w slot value) := rfl

theorem recordGroups_moved {groups : List (Nat × Nat × Nat)} {first count : Nat} :
    recordGroups groups first count (moved w) = moved (recordGroups groups first count w) := by
  unfold recordGroups
  generalize List.range' first count = numbers
  induction numbers generalizing w with
  | nil => rfl
  | cons n numbers ih =>
    rw [List.foldl_cons, List.foldl_cons]
    cases groups.lookup n with
    | none =>
      dsimp only
      rw [setSlot_moved, setSlot_moved]
      exact ih
    | some _ =>
      dsimp only
      rw [setSlot_moved, setSlot_moved]
      exact ih

@[simp] theorem recordGroups_address {groups : List (Nat × Nat × Nat)} {first count : Nat} :
    (recordGroups groups first count w).address = w.address := by
  unfold recordGroups
  generalize List.range' first count = numbers
  induction numbers generalizing w with
  | nil => rfl
  | cons n numbers ih =>
    rw [List.foldl_cons, ih]
    cases groups.lookup n with
    | none => rfl
    | some _ => rfl

/-! ### Machines that do the same -/

/-- Whether a way is in the code that the machines have in common, or at its end. -/
def Inside (high : Nat) (w : Way) : Prop := 4 ≤ w.address ∧ w.address ≤ high

/-- Whether a machine has the moved ways of another on its stack, above one way that goes on to the
next place. -/
structure Follows (high : Nat) (m m' : Machine) : Prop where
  stack : ∃ bottom, bottom.address = 1 ∧ m'.stack = m.stack.map moved ++ [bottom]
  depth : m.depth = m.stack.length
  depth' : m'.depth = m.depth + 1
  returns : m'.returns = m.returns
  inside : ∀ w ∈ m.stack, Inside high w

/-- Whether a machine is on the moved way of another. -/
structure Mirrors (high : Nat) (m m' : Machine) : Prop extends Follows high m m' where
  way : m'.way = moved m.way
  inside_way : Inside high m.way

/-- Whether steps have the same outcome, unless the second machine gives up or has no way left. -/
inductive StepMirrors (high : Nat) : Step → Step → Prop
  | next {m m' : Machine} (h : Mirrors high m m') : StepMirrors high (.next m) (.next m')
  | fail {m m' : Machine} (h : Follows high m m') : StepMirrors high (.fail m) (.fail m')
  | exhausted {s : Step} {m' : Machine} (h : m'.stack = []) : StepMirrors high s (.fail m')
  | gaveUp {s : Step} : StepMirrors high s (.done .gaveUp)

theorem StepMirrors.ite {p : Prop} [Decidable p] {s s' t t' : Step} (h : p → StepMirrors high s s')
    (h' : ¬ p → StepMirrors high t t') :
    StepMirrors high (if p then s else t) (if p then s' else t') := by
  by_cases hp : p
  · rw [if_pos hp, if_pos hp]
    exact h hp
  · rw [if_neg hp, if_neg hp]
    exact h' hp

theorem Follows.goOn (h : Follows high m m') (hw : Inside high w) :
    StepMirrors high (.next { m with way := w }) (.next { m' with way := moved w }) :=
  .next ⟨⟨h.stack, h.depth, h.depth', h.returns, h.inside⟩, rfl, hw⟩

theorem Follows.fork (h : Follows high m m') (hnow : Inside high now) (hlater : Inside high later) :
    StepMirrors high (fork m now later) (fork m' (moved now) (moved later)) := by
  unfold Machine.fork
  by_cases hlimit : m'.depth < stackLimit
  · have hdepth : m.depth < stackLimit := by
      have := h.depth'
      omega
    rw [if_pos hlimit, if_pos hdepth]
    obtain ⟨bottom, hbottom, hstack⟩ := h.stack
    refine .next ⟨⟨⟨bottom, hbottom, ?_⟩, ?_, ?_, h.returns, ?_⟩, rfl, hnow⟩
    · simp [hstack]
    · simp [h.depth]
    · simp [h.depth']
    · simpa using ⟨hlater, h.inside⟩
  · rw [if_neg hlimit]
    exact .gaveUp

/-- The ways that an atomic group leaves on the stack. -/
theorem Follows.cut (h : Follows high m m') {depth : Nat} : Follows high
    { m with way := w, stack := m.stack.drop (m.depth - depth), depth := min m.depth depth }
    { m' with
      way := w'
      stack := m'.stack.drop (m'.depth - (depth + 1))
      depth := min m'.depth (depth + 1) } := by
  obtain ⟨bottom, hbottom, hstack⟩ := h.stack
  have hdepth := h.depth
  have hdepth' := h.depth'
  refine ⟨⟨bottom, hbottom, ?_⟩, ?_, ?_, h.returns, ?_⟩
  · have hcount : m'.depth - (depth + 1) = m.depth - depth := by omega
    have hle : m.depth - depth ≤ (m.stack.map moved).length := by
      rw [List.length_map, ← hdepth]
      exact Nat.sub_le _ _
    dsimp only
    rw [hstack, hcount, List.drop_append_of_le_length hle, List.map_drop]
  · dsimp only
    rw [List.length_drop]
    omega
  · dsimp only
    omega
  · exact fun w hw => h.inside w (List.mem_of_mem_drop hw)

/-- A way that is refused takes with it those above one that goes on right after it; if there is
none, no way is left. -/
theorem Follows.refuse (h : Follows high m m') :
    StepMirrors high
      (let inner := m.stack.takeWhile fun other => other.address != w.address + 1
      .fail { m with
        way := now
        stack := m.stack.drop (inner.length + 1)
        depth := m.depth - (inner.length + 1) })
      (let inner := m'.stack.takeWhile fun other => other.address != (moved w).address + 1
      .fail { m' with
        way := later
        stack := m'.stack.drop (inner.length + 1)
        depth := m'.depth - (inner.length + 1) }) := by
  obtain ⟨bottom, hbottom, hstack⟩ := h.stack
  have hdepth := h.depth
  have hdepth' := h.depth'
  have hmoved : ((m.stack.map moved).takeWhile
      fun other => other.address != (moved w).address + 1).length =
        (m.stack.takeWhile fun other => other.address != w.address + 1).length := by
    have htest : (fun other : Way => other.address != (moved w).address + 1) ∘ moved =
        fun other => other.address != w.address + 1 := by
      funext other
      simp [moved, bne]
    rw [List.takeWhile_map, List.length_map, htest]
  dsimp only
  rw [hstack, List.takeWhile_append, List.length_map, hmoved]
  split
  case isTrue hall =>
    refine .exhausted (List.drop_eq_nil_of_le ?_)
    simp
  case isFalse hsome =>
    have hle := (List.takeWhile_sublist (l := m.stack)
      fun other => other.address != w.address + 1).length_le
    rw [hmoved]
    refine .fail ⟨⟨bottom, hbottom, ?_⟩, ?_, ?_, h.returns, ?_⟩
    · dsimp only
      rw [List.drop_append_of_le_length (by rw [List.length_map]; omega), List.map_drop]
    · dsimp only
      rw [List.length_drop]
      omega
    · dsimp only
      omega
    · exact fun w hw => h.inside w (List.mem_of_mem_drop hw)

/-- **Machines in moved code** take the same steps. -/
theorem stepMirrors_step {i : Instruction} (h : Mirrors high m m')
    (hcode : program.code[m.way.address]? = some i)
    (hcode' : program'.code[m.way.address + 1]? = some (i.shift 1))
    (hi : i.Within 4 high) (hlt : m.way.address < high) :
    StepMirrors high (step program text m) (step program' text m') := by
  obtain ⟨hfollows, hway, hinside⟩ := h
  have honward : ∀ {w : Way}, w.address = m.way.address → Inside high (onward w) := by
    intro w hw
    unfold Inside onward at *
    dsimp only
    omega
  have hcode'' : program'.code[m'.way.address]? = some (i.shift 1) := by
    rw [hway]
    exact hcode'
  unfold step
  dsimp only
  rw [hcode, hcode'', hway]
  cases i with
  | accept => exact hi.elim
  | any newline =>
    dsimp only [Instruction.shift, moved_place]
    cases text[m.way.place]? with
    | none => exact .fail hfollows
    | some c =>
      exact .ite (fun _ => hfollows.goOn (honward rfl)) fun _ => .fail hfollows
  | literal cs =>
    dsimp only [Instruction.shift, moved_place]
    exact .ite (fun _ => hfollows.goOn (honward rfl)) fun _ => .fail hfollows
  | set s =>
    dsimp only [Instruction.shift, moved_place]
    cases text[m.way.place]? with
    | none => exact .fail hfollows
    | some c =>
      exact .ite (fun _ => hfollows.goOn (honward rfl)) fun _ => .fail hfollows
  | assertion a =>
    dsimp only [Instruction.shift, moved_place]
    exact .ite (fun _ => hfollows.goOn (honward rfl)) fun _ => .fail hfollows
  | plain n first last =>
    dsimp only [Instruction.shift, moved_place]
    cases (n.ends text ⟨m.way.place, []⟩).head? with
    | none => exact .fail hfollows
    | some spot =>
      have hrecord : recordGroups spot.groups first (last - first)
          { moved m.way with place := spot.place } =
            moved (recordGroups spot.groups first (last - first)
              { m.way with place := spot.place }) :=
        recordGroups_moved (w := { m.way with place := spot.place })
      dsimp only
      rw [hrecord]
      exact hfollows.goOn (honward recordGroups_address)
  | split next other => exact hfollows.fork hi.1 hi.2
  | jump next => exact hfollows.goOn hi
  | save slot => exact hfollows.goOn (honward rfl)
  | clear slot => exact hfollows.goOn (honward rfl)
  | restore slot =>
    dsimp only [Instruction.shift]
    rw [slot?_moved]
    cases slot? m.way slot with
    | none => exact .fail hfollows
    | some place => exact hfollows.goOn (honward rfl)
  | again least most greedy next count =>
    dsimp only [Instruction.shift]
    rw [slot?_moved]
    exact .ite (fun _ => hfollows.goOn hi) fun _ =>
      .ite (fun _ => hfollows.goOn (honward rfl)) fun _ =>
      .ite (fun _ => hfollows.fork (honward rfl) hi) fun _ => hfollows.fork hi (honward rfl)
  | againNonempty least greedy next count start =>
    dsimp only [Instruction.shift]
    rw [slot?_moved, slot?_moved]
    exact .ite (fun _ => .fail hfollows) fun _ =>
      .ite (fun _ => hfollows.goOn (honward rfl)) fun _ =>
      .ite (fun _ => hfollows.fork (honward rfl) hi) fun _ => hfollows.fork hi (honward rfl)
  | goBack n =>
    dsimp only [Instruction.shift, moved_place]
    exact .ite (fun _ => hfollows.goOn (honward rfl)) fun _ => .fail hfollows
  | refuse => exact hfollows.refuse
  | reference group =>
    dsimp only [Instruction.shift]
    rw [slot?_moved, slot?_moved]
    cases slot? m.way (2 * group) with
    | none => exact .fail hfollows
    | some s =>
      cases slot? m.way (2 * group + 1) with
      | none => exact .fail hfollows
      | some t =>
        exact .ite (fun _ => hfollows.goOn (honward rfl)) fun _ => .fail hfollows
  | groupMatched group =>
    dsimp only [Instruction.shift]
    rw [slot?_moved]
    exact .ite (fun _ => hfollows.goOn (honward rfl)) fun _ => .fail hfollows
  | beginAtomic =>
    dsimp only [Instruction.shift]
    have hgoOn := hfollows.goOn (w := onward { m.way with atomics := m.depth :: m.way.atomics })
      (honward rfl)
    rw [hfollows.depth'] at hgoOn ⊢
    exact hgoOn
  | endAtomic =>
    dsimp only [Instruction.shift, moved_atomics]
    cases m.way.atomics with
    | nil => exact .fail hfollows
    | cons depth atomics => exact .next ⟨hfollows.cut, rfl, honward rfl⟩
  | searchStart =>
    dsimp only [Instruction.shift, moved_place]
    exact .ite (fun _ => hfollows.goOn (honward rfl)) fun _ => .fail hfollows

theorem back_of_stack {ways : List Way} (h : m.stack = w :: ways) : back m =
    if m.returns + 1 ≤ backtrackLimit then
      .next { way := w, stack := ways, depth := m.depth - 1, returns := m.returns + 1 }
    else .done .gaveUp := by
  unfold back
  rw [h]

/-- The way that a machine takes up is the moved one; without another way, the second machine goes
on to the next place. -/
theorem Follows.back (h : Follows high m m') (hback : back m' = .next m₁') :
    (∃ m₁, back m = .next m₁ ∧ Mirrors high m₁ m₁') ∨ m₁'.way.address = 1 ∧ m₁'.stack = [] := by
  obtain ⟨bottom, hbottom, hstack⟩ := h.stack
  have hdepth := h.depth
  have hdepth' := h.depth'
  have hinside := h.inside
  rcases hways : m.stack with _ | ⟨w, ways⟩
  · rw [hways] at hstack
    rw [back_of_stack hstack] at hback
    split at hback
    case isTrue =>
      cases hback
      exact Or.inr ⟨hbottom, rfl⟩
    case isFalse => cases hback
  · rw [hways] at hstack hdepth hinside
    rw [back_of_stack hstack, h.returns] at hback
    rw [List.length_cons] at hdepth
    split at hback
    case isTrue hlimit =>
      cases hback
      refine Or.inl ⟨_, (back_of_stack hways).trans (if_pos hlimit), ?_⟩
      refine ⟨⟨⟨bottom, hbottom, rfl⟩, ?_, ?_, rfl, ?_⟩, rfl, hinside w List.mem_cons_self⟩
      · dsimp only
        omega
      · dsimp only
        omega
      · exact fun w hw => hinside w (List.mem_cons_of_mem _ hw)
    case isFalse => cases hback

end Machine

end Vigil.Pattern
