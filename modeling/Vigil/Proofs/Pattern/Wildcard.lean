import Mathlib.Data.List.Forall2
import Vigil.Pattern.Basic
import Vigil.Proofs.Pattern.Pieces

/-! # Wildcards

A wildcard pattern matches the texts that it becomes when each of its stars is replaced by some
text (`Fills`).

* `written_piecesOf`: what is written for a wildcard pattern are its characters, one by one, with the
  expression for any text in the place of a star;
* `fits_piecesOf_iff`: these pieces stand for what fills the pattern;
* `exists_fills_part`: where the text between two stars can stand;
* `isMatch_wildcard?_iff`, `wildcard_matches_iff`: the meaning of a wildcard pattern, with and without
  regard to case. -/

namespace Vigil

open Vigil.Text Vigil.Pattern

namespace Pattern

/-! ### Texts by themselves -/

theorem isMatch_ofText {cs ds : List Char} :
    (ofText cs false).isMatch ds = true ↔ lower ds = lower cs := by
  unfold ofText isMatch compare
  by_cases h : lower ds = lower cs
  · simp [h]
  · simp [h, Ne.symm h]

theorem wildcard?_of_no_star {cased : Bool} {cs : List Char} (h : '*' ∉ cs) :
    wildcard? cs cased = some (ofText cs cased) := by
  rw [wildcard?, if_neg (by simpa using h)]

/-! ### Filling a pattern -/

/-- **What fills a pattern.** `Fills same p ws t` says that `t` is `p` with its stars replaced by
the texts `ws`, one after the other, and each other character by one that is the `same`. -/
inductive Fills (same : Char → Char → Prop) : List Char → List (List Char) → List Char → Prop
  | nil : Fills same [] [] []
  | star {p ws t} (w : List Char) (h : Fills same p ws t) : Fills same ('*' :: p) (w :: ws) (w ++ t)
  | char {p ws t c d} (hc : c ≠ '*') (hd : same c d) (h : Fills same p ws t) :
    Fills same (c :: p) ws (d :: t)

/-- A pattern with its stars replaced by texts, from the first on; missing texts count as empty. -/
def replaceStars : List Char → List (List Char) → List Char
  | [], _ => []
  | c :: p, ws => if c = '*' then ws.headD [] ++ replaceStars p ws.tail else c :: replaceStars p ws

variable {same : Char → Char → Prop} {p t : List Char} {ws : List (List Char)}

theorem Fills.length_eq (h : Fills same p ws t) : ws.length = p.count '*' := by
  induction h with
  | nil => rfl
  | star w _ ih => simp [ih]
  | char hc _ _ ih => simp [ih, hc]

theorem exists_fills_star : (∃ ws, Fills same ('*' :: p) ws t) ↔
    ∃ u v, t = u ++ v ∧ ∃ ws, Fills same p ws v := by
  constructor
  · rintro ⟨_, h⟩
    cases h with
    | star u h => exact ⟨u, _, rfl, _, h⟩
    | char hc => exact absurd rfl hc
  · rintro ⟨u, v, rfl, ws, h⟩
    exact ⟨u :: ws, Fills.star u h⟩

theorem exists_fills_char {c : Char} (hc : c ≠ '*') : (∃ ws, Fills same (c :: p) ws t) ↔
    ∃ d v, t = d :: v ∧ same c d ∧ ∃ ws, Fills same p ws v := by
  constructor
  · rintro ⟨ws, h⟩
    cases h with
    | star => exact absurd rfl hc
    | char _ hd h => exact ⟨_, _, rfl, hd, ws, h⟩
  · rintro ⟨d, v, rfl, hd, ws, h⟩
    exact ⟨ws, Fills.char hc hd h⟩

/-- A pattern as pieces: a star is any text. -/
def piecesOf (p : List Char) : List Piece := p.map fun c => if c = '*' then .anything else .letter c

theorem piecesOf_star : piecesOf ('*' :: p) = .anything :: piecesOf p := rfl

theorem piecesOf_char {c : Char} (hc : c ≠ '*') : piecesOf (c :: p) = .letter c :: piecesOf p := by
  rw [piecesOf, List.map_cons, if_neg hc]
  rfl

theorem piecesOf_append {l : List Char} (hl : '*' ∉ l) :
    piecesOf (l ++ p) = l.map .letter ++ piecesOf p := by
  have hletters : piecesOf l = l.map .letter := by
    refine List.map_congr_left fun c hc => if_neg ?_
    rintro rfl
    exact hl hc
  rw [← hletters, piecesOf, List.map_append]
  rfl

/-- **The pieces of a pattern** stand for what fills it. -/
theorem fits_piecesOf_iff : Fits same (piecesOf p) t ↔ ∃ ws, Fills same p ws t := by
  induction p generalizing t with
  | nil =>
    rw [piecesOf, List.map_nil, fits_nil_iff]
    constructor
    · rintro rfl
      exact ⟨[], Fills.nil⟩
    · rintro ⟨_, _ | _⟩
      rfl
  | cons c p ih =>
    by_cases hc : c = '*'
    · subst hc
      rw [piecesOf_star, fits_anything_iff, exists_fills_star]
      simp only [ih]
    · rw [piecesOf_char hc, fits_letter_iff, exists_fills_char hc]
      simp only [ih]

theorem exists_fills_append {l : List Char} (hl : '*' ∉ l) : (∃ ws, Fills same (l ++ p) ws t) ↔
    ∃ s v, t = s ++ v ∧ List.Forall₂ same l s ∧ ∃ ws, Fills same p ws v := by
  simp only [← fits_piecesOf_iff, piecesOf_append hl, fits_letters_append_iff]

theorem exists_fills_only_star : ∃ ws, Fills same ['*'] ws t := by
  exact exists_fills_star.mpr ⟨t, [], by simp, [], Fills.nil⟩

/-- A star before a part lets it stand anywhere. -/
theorem exists_fills_part {l : List Char} (hl : '*' ∉ l) :
    (∃ ws, Fills same ('*' :: (l ++ p)) ws t) ↔
      ∃ a s v, t = a ++ (s ++ v) ∧ List.Forall₂ same l s ∧ ∃ ws, Fills same p ws v := by
  rw [exists_fills_star]
  constructor
  · rintro ⟨a, u, rfl, h⟩
    obtain ⟨s, v, rfl, hs, h⟩ := (exists_fills_append hl).mp h
    exact ⟨a, s, v, rfl, hs, h⟩
  · rintro ⟨a, s, v, rfl, hs, h⟩
    exact ⟨a, s ++ v, rfl, (exists_fills_append hl).mpr ⟨s, v, rfl, hs, h⟩⟩

/-- Where characters stand for themselves only, a pattern is filled by replacing its stars. -/
theorem fills_eq_iff :
    Fills Eq p ws t ↔ ws.length = p.count '*' ∧ t = replaceStars p ws := by
  constructor
  · intro h
    refine ⟨h.length_eq, ?_⟩
    induction h with
    | nil => rfl
    | star w _ ih => simp [replaceStars, ih]
    | char hc hd _ ih => simp [replaceStars, hc, ← hd, ih]
  · rintro ⟨hlen, rfl⟩
    induction p generalizing ws with
    | nil =>
      obtain rfl := List.length_eq_zero_iff.mp hlen
      exact Fills.nil
    | cons c p ih =>
      by_cases hc : c = '*'
      · subst hc
        obtain ⟨w, ws, rfl⟩ :=
          List.exists_cons_of_length_eq_add_one (hlen.trans List.count_cons_self)
        rw [replaceStars, if_pos rfl]
        exact Fills.star w (ih (by simpa using hlen))
      · rw [replaceStars, if_neg hc]
        exact Fills.char hc rfl (ih (by simpa [hc] using hlen))

/-! ### Wildcard patterns -/

theorem partsAtStars_ne_nil (p : List Char) : partsAtStars p ≠ [] := by
  rcases p with _ | ⟨c, p⟩
  · simp [partsAtStars]
  · rw [partsAtStars]
    split
    · simp
    · split <;> simp

theorem partsAtStars_cons {c : Char} (hc : c ≠ '*') {part : List Char} {parts : List (List Char)}
    (h : partsAtStars p = part :: parts) : partsAtStars (c :: p) = (c :: part) :: parts := by
  rw [partsAtStars, if_neg hc, h]

/-- The escaped parts of a pattern, with the expression for any text between them, are its pieces. -/
theorem written_piecesOf (p : List Char) :
    written (piecesOf p) = anyText.intercalate ((partsAtStars p).map escaped) := by
  induction p with
  | nil => rfl
  | cons c p ih =>
    obtain ⟨part, parts, hparts⟩ := List.exists_cons_of_ne_nil (partsAtStars_ne_nil p)
    by_cases hc : c = '*'
    · subst hc
      have hstar : partsAtStars ('*' :: p) = [] :: partsAtStars p := if_pos rfl
      rw [piecesOf_star, written, List.flatMap_cons, ← written, ih, hstar, hparts]
      simp [List.intercalate, escaped, Piece.text]
    · rw [piecesOf_char hc, written, List.flatMap_cons, ← written, ih, hparts,
        partsAtStars_cons hc hparts]
      rcases parts with _ | ⟨part', parts⟩
      · simp [List.intercalate, escaped, Piece.text]
      · simp [List.intercalate, escaped, Piece.text]

theorem wildcard?_of_star {cased : Bool} (hstar : '*' ∈ p) :
    wildcard? p cased = ofBody? (written (piecesOf p)) cased := by
  rw [wildcard?, if_pos (List.contains_iff_mem.mpr hstar), written_piecesOf]

theorem isMatch_wildcard?_iff {cased : Bool} {q : Pattern} (hstar : '*' ∈ p)
    (hq : wildcard? p cased = some q) :
    q.isMatch t = true ↔ ∃ ws, Fills (Agrees cased) p ws t :=
  (isMatch_written_iff ((wildcard?_of_star hstar).symm.trans hq)).trans fits_piecesOf_iff

/-- **Wildcards.** A pattern with stars matches the texts that it becomes when each star is
replaced by some text; without regard to case, its other characters may be replaced by any that
fold to the same. The search never gives up. -/
theorem wildcard_matches_iff {cased : Bool} {q : Pattern} (hstar : '*' ∈ p)
    (hq : wildcard? p cased = some q) (t : List Char) :
    (cased = true → (q.isMatch t = true ↔
      ∃ ws : List (List Char), ws.length = p.count '*' ∧ t = replaceStars p ws)) ∧
    (cased = false → (q.isMatch t = true ↔
      ∃ ws : List (List Char), Fills (fun c d => fold c = fold d) p ws t)) ∧
    q.givesUp t = false := by
  refine ⟨?_, ?_, givesUp_written ((wildcard?_of_star hstar).symm.trans hq)⟩
  · rintro rfl
    rw [isMatch_wildcard?_iff hstar hq]
    simp only [agrees_true, fills_eq_iff]
  · rintro rfl
    exact isMatch_wildcard?_iff hstar hq

/-- The pattern `*(b*` without regard to case, and a line that it matches. -/
theorem wildcard_matches_bracket : '*' ∈ ['*', '(', 'b', '*'] ∧
    ∃ q, wildcard? ['*', '(', 'b', '*'] false = some q ∧
      q.isMatch ['.', '\n', '(', 'B'] = true ∧ q.givesUp ['.', '\n', '(', 'B'] = false := by
  have hstar : '*' ∈ ['*', '(', 'b', '*'] := by decide
  obtain ⟨q, hq⟩ : ∃ q, wildcard? ['*', '(', 'b', '*'] false = some q :=
    Option.isSome_iff_exists.mp (by decide +kernel)
  obtain ⟨-, hmatch, hgives⟩ := wildcard_matches_iff hstar hq ['.', '\n', '(', 'B']
  have hfold : fold 'b' = fold 'B' := by decide +kernel
  refine ⟨hstar, q, hq, (hmatch rfl).mpr ⟨[['.', '\n'], []], ?_⟩, hgives⟩
  exact Fills.star _ (Fills.char (by decide) rfl
    (Fills.char (by decide) hfold (Fills.star [] Fills.nil)))

end Pattern

end Vigil
