import Mathlib.Data.List.Basic
import Vigil.Proofs.Pattern.Wildcard
import Vigil.Proofs.Query.Tests
import Vigil.Proofs.Text.Folding

/-! # Prefixes, suffixes and infixes

Three functions look for their argument at the start of a text, at its end, or anywhere in it
(`Function.Finds`). A star or any other sign in the argument stands for itself.

* `isMatch_startsWith_iff`, `isMatch_endsWith_iff`, `isMatch_contains_iff`: the patterns of the
  three functions, and that their searches do not give up;
* `calls_find_argument`: what these match, and what calls ask for. -/

namespace Vigil.Query

open Vigil.Text Vigil.Pattern

variable {f : Function} {s : String} {cs t : List Char} {cased : Bool} {q : Pattern}

/-- The texts in which a function finds a text: those that begin with it, those that end with it,
and those that have it in them. -/
inductive Function.Finds : Function → List Char → List Char → Prop
  | startsWith (u w : List Char) : Finds .startsWith u (u ++ w)
  | endsWith (w u : List Char) : Finds .endsWith u (w ++ u)
  | contains (w u w' : List Char) : Finds .contains u (w ++ u ++ w')

/-- The functions that look for their argument as it stands. -/
def Function.affixes : List Function := [.startsWith, .endsWith, .contains]

/-! ### Patterns -/

theorem isMatch_startsWith_iff (hq : Pattern.startsWith? cs cased = some q) :
    (q.isMatch t = true ↔ ∃ u, Function.Finds .startsWith u t ∧ TextAgrees cased cs u) ∧
      q.givesUp t = false := by
  rw [startsWith?_eq_written] at hq
  refine ⟨(isMatch_written_iff hq).trans ?_, givesUp_written hq⟩
  rw [fits_letters_append_iff]
  constructor
  · rintro ⟨u, w, rfl, hu, -⟩
    exact ⟨u, .startsWith u w, hu⟩
  · rintro ⟨u, hfinds, hu⟩
    cases hfinds with
    | startsWith u w => exact ⟨u, w, rfl, hu, fits_anything_iff.mpr ⟨w, [], by simp, .nil⟩⟩

theorem isMatch_endsWith_iff (hq : Pattern.endsWith? cs cased = some q) :
    (q.isMatch t = true ↔ ∃ u, Function.Finds .endsWith u t ∧ TextAgrees cased cs u) ∧
      q.givesUp t = false := by
  rw [endsWith?_eq_written] at hq
  refine ⟨(isMatch_written_iff hq).trans ?_, givesUp_written hq⟩
  simp only [fits_anything_iff, fits_letters_iff]
  constructor
  · rintro ⟨w, u, rfl, hu⟩
    exact ⟨u, .endsWith w u, hu⟩
  · rintro ⟨u, hfinds, hu⟩
    cases hfinds with
    | endsWith w u => exact ⟨w, u, rfl, hu⟩

theorem isMatch_contains_iff (hq : Pattern.contains? cs cased = some q) :
    (q.isMatch t = true ↔ ∃ u, Function.Finds .contains u t ∧ TextAgrees cased cs u) ∧
      q.givesUp t = false := by
  rw [contains?_eq_written] at hq
  refine ⟨(isMatch_written_iff hq).trans ?_, givesUp_written hq⟩
  simp only [fits_anything_iff, fits_letters_append_iff]
  constructor
  · rintro ⟨w, _, rfl, u, w', rfl, hu, -⟩
    have hfinds : Function.Finds .contains u (w ++ u ++ w') := .contains w u w'
    rw [List.append_assoc] at hfinds
    exact ⟨u, hfinds, hu⟩
  · rintro ⟨u, hfinds, hu⟩
    cases hfinds with
    | contains w u w' =>
      exact ⟨w, u ++ w', List.append_assoc w u w', u, w', rfl, hu, w', [], by simp, .nil⟩

/-- Such a pattern matches the texts in which the function finds one that agrees with the argument,
and its search does not give up. -/
theorem isMatch_iff_finds (hf : f ∈ Function.affixes) (hq : f.pattern? s cased = some q) :
    (q.isMatch t = true ↔ ∃ u, f.Finds u t ∧ TextAgrees cased s.toList u) ∧
      q.givesUp t = false := by
  simp only [Function.affixes, List.mem_cons, List.not_mem_nil, or_false] at hf
  rcases hf with rfl | rfl | rfl
  · exact isMatch_startsWith_iff hq
  · exact isMatch_endsWith_iff hq
  · exact isMatch_contains_iff hq

/-! ### Calls -/

/-- **Prefixes, suffixes and infixes.** The patterns of `startsWith`, `endsWith` and
`stringContains` match the texts that begin with the argument, end with it, or have it in them;
without regard to case, those that do so with a text that agrees with it up to folding, character by
character. No search gives up. A call asks for a text that the pattern matches. -/
theorem calls_find_argument (hf : f ∈ Function.affixes) (hq : f.pattern? s cased = some q)
    (t : List Char) :
    (cased = true → (q.isMatch t = true ↔ f.Finds s.toList t)) ∧
    (cased = false → (q.isMatch t = true ↔
      ∃ u, f.Finds u t ∧ List.Forall₂ (fun c d => fold c = fold d) s.toList u)) ∧
    q.givesUp t = false ∧
    ∀ name field, Call.ofName? name = some ⟨f, cased⟩ →
      ∃ test, (Leaf.call name field s []).test? = some test ∧
        test.Asks field fun u => q.isMatch u.toList = true := by
  obtain ⟨hmatch, hgives⟩ := isMatch_iff_finds hf hq
  refine ⟨?_, ?_, hgives, fun name field hname => exists_test_call hname hq⟩
  · rintro rfl
    rw [hmatch]
    simp only [TextAgrees, agrees_true, List.forall₂_eq_eq_eq, exists_eq_right']
  · rintro rfl
    exact hmatch

/-- A part with signs in it after the end of a line, with a capital letter for a small one. -/
theorem calls_find_argument_sigma : Function.contains ∈ Function.affixes ∧
    ∃ q, Function.contains.pattern? "σ.*" false = some q ∧
      q.isMatch ['\n', 'Σ', '.', '*', 'x'] = true ∧
      q.givesUp ['\n', 'Σ', '.', '*', 'x'] = false := by
  have hf : Function.contains ∈ Function.affixes := by decide
  obtain ⟨q, hq⟩ : ∃ q, Function.contains.pattern? "σ.*" false = some q :=
    Option.isSome_iff_exists.mp (by decide +kernel)
  obtain ⟨-, hmatch, hgives, -⟩ := calls_find_argument hf hq ['\n', 'Σ', '.', '*', 'x']
  have hfold : fold 'σ' = fold 'Σ' := by rw [← fold_sigma, fold_fold]
  refine ⟨hf, q, hq, (hmatch rfl).mpr ⟨['Σ', '.', '*'], ?_, ?_⟩, hgives⟩
  · exact .contains ['\n'] ['Σ', '.', '*'] ['x']
  · exact .cons hfold (.cons rfl (.cons rfl .nil))

end Vigil.Query
