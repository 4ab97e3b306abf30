import Mathlib.Data.List.Basic
import Vigil.Pattern.Basic

/-! # Reading pieces

What is written for a wildcard, a prefix and the like consists of pieces (`Piece`): characters that stand
for themselves, escaped where they have a meaning, and the expression for any text. It is read as these
pieces in a row. The readers are followed from a cursor before which no group has been opened
(`cursorAt`), and each piece ends where no quantifier can follow (`Quiet`).

* `Reader.sequence_run_piece`, `Reader.sequence_run_pieces`: one piece, and one after the other;
* `read?_pieces`: pieces between the ends of the text;
* `read?_escaped`: an escaped text in a group between the ends. -/

namespace Vigil.Pattern

open Vigil.Text

/-- A part of what is written: a character that stands for itself, or any text. -/
inductive Piece
  | letter (c : Char)
  | anything

namespace Piece

/-- A piece as it is written. -/
def text : Piece → List Char
  | .letter c => if Reader.isSpecial c then ['\\', c] else [c]
  | .anything => anyText

/-- What a piece is read as. -/
def expr (fold : Bool) : Piece → Expr
  | .letter c => .literal c (fold && !Reader.isSpecial c)
  | .anything => .repetition (.any true) 0 none true

theorem length_text_pos (p : Piece) : 0 < p.text.length := by
  cases p with
  | letter c =>
    by_cases hc : Reader.isSpecial c = true
    · rw [text, if_pos hc]
      exact Nat.succ_pos _
    · rw [text, if_neg hc]
      exact Nat.succ_pos _
  | anything => exact Nat.succ_pos _

end Piece

/-- Pieces as they are written. -/
def written (ps : List Piece) : List Char := ps.flatMap Piece.text

theorem written_letters (cs : List Char) : written (cs.map .letter) = escaped cs := by
  rw [written, List.flatMap_map]
  rfl

theorem length_le_written (ps : List Piece) : ps.length ≤ (written ps).length := by
  induction ps with
  | nil => exact Nat.le_refl 0
  | cons p ps ih =>
    have hp := p.length_text_pos
    rw [written, List.flatMap_cons, List.length_append, List.length_cons]
    rw [written] at ih
    omega

namespace Reader

variable {fold : Bool} {c : Char} {cs ds after : List Char} {e e' : Expr} {es before : List Expr}
  {ps : List Piece} {size fuel depth : Nat}

/-- The cursor before a text, where no group has been opened. -/
def cursorAt (fold : Bool) (cs : List Char) : Cursor where
  rest := cs
  flags := { fold, anyNewline := true }

@[simp] theorem rest_run : rest.run (cursorAt fold cs) = some (cs, cursorAt fold cs) := rfl

@[simp] theorem goTo_run :
    (goTo after).run (cursorAt fold cs) = some ((), cursorAt fold after) := rfl

/-! ### Blanks and quantifiers -/

/-- Whether a text does not begin with a comment. -/
def NoComment (cs : List Char) : Prop := ∀ ds, cs ≠ '(' :: '?' :: '#' :: ds

theorem noComment_cons (h : c ≠ '(') : NoComment (c :: cs) := by
  rintro ds ⟨⟩
  exact h rfl

theorem skipBlanks_run (h : NoComment cs) :
    skipBlanks.run (cursorAt fold cs) = some ((), cursorAt fold cs) := by
  have hskipped : skipped { fold, anyNewline := true } cs = some cs := by
    unfold skipped skipBlanksFrom
    split
    · exact absurd rfl (h _)
    · simp
    · simp
    · rfl
  simp [skipBlanks, cursorAt, hskipped, StateT.run_bind]

/-- Whether an atom before a text stands without a quantifier. -/
def Quiet (cs : List Char) : Prop :=
  NoComment cs ∧ ∀ d ∈ cs.head?, d ∉ ['?', '*', '+', '\x7b']

theorem quiet_cons (hopening : c ≠ '(') (h : c ∉ ['?', '*', '+', '\x7b']) : Quiet (c :: cs) :=
  ⟨noComment_cons hopening, by simpa using h⟩

theorem quantifier?_eq_none {flags : Flags} (h : Quiet cs) : quantifier? flags cs = none := by
  obtain ⟨-, hhead⟩ := h
  unfold quantifier?
  split
  case h_5 => rfl
  all_goals exact absurd (by simp) (hhead _ rfl)

theorem quantified_run (h : Quiet cs) :
    (quantified e).run (cursorAt fold cs) = some (e, cursorAt fold cs) := by
  have hnone : quantifier? (cursorAt fold cs).flags (cursorAt fold cs).rest = none :=
    quantifier?_eq_none h
  rw [quantified, StateT.run_bind, skipBlanks_run h.1]
  simp [StateT.run_bind, hnone]

theorem quantified_run_star (he : isRepeatable e = true) (h : Quiet after) :
    (quantified e).run (cursorAt fold ('*' :: after)) =
      some (.repetition e 0 none true, cursorAt fold after) := by
  have hquantifier : quantifier? (cursorAt fold ('*' :: after)).flags
      (cursorAt fold ('*' :: after)).rest = some ((0, none), after) := rfl
  have hstar : NoComment ('*' :: after) := noComment_cons (by decide)
  rw [quantified, StateT.run_bind, skipBlanks_run hstar]
  simp [StateT.run_bind, hquantifier, he, skipBlanks_run h.1]
  -- what follows makes the quantifier neither lazy nor possessive
  rcases after with _ | ⟨d, ds⟩
  · rfl
  · have hd := h.2 d rfl
    simp only [List.mem_cons, not_or] at hd
    obtain ⟨hmark, -, hplus, -⟩ := hd
    simp [hmark, hplus]
    rfl

/-! ### Atoms -/

theorem escape_run (h : isSpecial c = true) :
    (escape size false).run (cursorAt fold (c :: cs)) =
      some (.literal c false, cursorAt fold cs) := by
  have hc : c ∈ "\\.+*?()|[]\x7b\x7d^$#".toList := by simpa [isSpecial] using h
  simp only [String.reduceToList, List.mem_cons, List.not_mem_nil, or_false] at hc
  rcases hc with rfl | rfl | rfl | rfl | rfl | rfl | rfl | rfl | rfl | rfl | rfl | rfl | rfl | rfl |
    rfl
  all_goals rfl

theorem ne_of_isSpecial {d : Char} (h : isSpecial c = false) (hd : isSpecial d = true) : c ≠ d := by
  rintro rfl
  cases hd.symm.trans h

theorem atom_run_special (h : isSpecial c = true) :
    (atom size (fuel + 1) depth).run (cursorAt fold ('\\' :: c :: cs)) =
      some ((Piece.letter c).expr fold, cursorAt fold cs) := by
  have hletter : (Piece.letter c).expr fold = .literal c false := by simp [Piece.expr, h]
  rw [atom, StateT.run_bind, skipBlanks_run (noComment_cons (by decide)), hletter]
  exact escape_run h

theorem atom_run_plain (h : isSpecial c = false) :
    (atom size (fuel + 1) depth).run (cursorAt fold (c :: cs)) =
      some ((Piece.letter c).expr fold, cursorAt fold cs) := by
  have hopening : c ≠ '(' := ne_of_isSpecial h (by decide)
  have hclosing : c ≠ ')' := ne_of_isSpecial h (by decide)
  have hplus : c ≠ '+' := ne_of_isSpecial h (by decide)
  have hstar : c ≠ '*' := ne_of_isSpecial h (by decide)
  have hmark : c ≠ '?' := ne_of_isSpecial h (by decide)
  have hbar : c ≠ '|' := ne_of_isSpecial h (by decide)
  have hstop : c ≠ '.' := ne_of_isSpecial h (by decide)
  have hcaret : c ≠ '^' := ne_of_isSpecial h (by decide)
  have hdollar : c ≠ '$' := ne_of_isSpecial h (by decide)
  have hbackslash : c ≠ '\\' := ne_of_isSpecial h (by decide)
  have hbracket : c ≠ '[' := ne_of_isSpecial h (by decide)
  rw [atom, StateT.run_bind, skipBlanks_run (noComment_cons hopening)]
  simp [StateT.run_bind, literal, Piece.expr, *]
  rfl

theorem atom_run_stop :
    (atom size (fuel + 1) depth).run (cursorAt fold ('.' :: after)) =
      some (.any true, cursorAt fold after) := by
  rw [atom, StateT.run_bind, skipBlanks_run (noComment_cons (by decide))]
  rfl

/-! ### Sequences -/

theorem sequence_run_cons
    (hatom : (atom size fuel depth).run (cursorAt fold cs) = some (e, cursorAt fold ds))
    (hquantified : (quantified e).run (cursorAt fold ds) = some (e', cursorAt fold after))
    (hlt : after.length < cs.length) :
    (sequence size (fuel + 1) depth before).run (cursorAt fold cs) =
      (sequence size fuel depth (if isEmpty e' then before else e' :: before)).run
        (cursorAt fold after) := by
  have hcs : cs ≠ [] := List.ne_nil_of_length_pos (Nat.zero_lt_of_lt hlt)
  have hne : after.length ≠ cs.length := Nat.ne_of_lt hlt
  rw [sequence]
  simp [StateT.run_bind, hcs, hatom, hquantified, hne]

theorem sequence_run_nil :
    (sequence size (fuel + 1) depth before).run (cursorAt fold []) =
      some (joined before.reverse, cursorAt fold []) := by
  rw [sequence]
  rfl

theorem sequence_run_closing :
    (sequence size (fuel + 2) depth before).run (cursorAt fold (')' :: after)) =
      some (joined before.reverse, cursorAt fold (')' :: after)) := by
  have hquiet : Quiet (')' :: after) := quiet_cons (by decide) (by decide)
  have hatom : (atom size (fuel + 1) depth).run (cursorAt fold (')' :: after)) =
      some (.empty, cursorAt fold (')' :: after)) := by
    rw [atom, StateT.run_bind, skipBlanks_run hquiet.1]
    rfl
  rw [sequence]
  simp [StateT.run_bind, hatom, quantified_run hquiet]

theorem quiet_piece (p : Piece) : Quiet (p.text ++ after) := by
  cases p with
  | anything => exact quiet_cons (by decide) (by decide)
  | letter c =>
    by_cases hc : isSpecial c = true
    · rw [Piece.text, if_pos hc]
      exact quiet_cons (by decide) (by decide)
    · rw [Piece.text, if_neg hc]
      rw [Bool.not_eq_true] at hc
      refine quiet_cons (ne_of_isSpecial hc (by decide)) fun hmem => ?_
      have hall : ['?', '*', '+', '\x7b'].all isSpecial = true := by decide
      cases (List.all_eq_true.mp hall c hmem).symm.trans hc

theorem quiet_written (h : Quiet after) : Quiet (written ps ++ after) := by
  cases ps with
  | nil => exact h
  | cons p ps =>
    rw [written, List.flatMap_cons, List.append_assoc]
    exact quiet_piece p

/-- A piece is read where none of its text is left for a quantifier. -/
theorem sequence_run_piece (p : Piece) (hafter : Quiet after) :
    (sequence size (fuel + 2) depth before).run (cursorAt fold (p.text ++ after)) =
      (sequence size (fuel + 1) depth (p.expr fold :: before)).run (cursorAt fold after) := by
  have hlt : after.length < (p.text ++ after).length := by
    have hp := p.length_text_pos
    rw [List.length_append]
    omega
  cases p with
  | letter c =>
    have hatom : (atom size (fuel + 1) depth).run (cursorAt fold ((Piece.letter c).text ++ after)) =
        some ((Piece.letter c).expr fold, cursorAt fold after) := by
      by_cases hc : isSpecial c = true
      · rw [Piece.text, if_pos hc]
        exact atom_run_special hc
      · rw [Piece.text, if_neg hc]
        exact atom_run_plain (Bool.of_not_eq_true hc)
    exact sequence_run_cons hatom (quantified_run hafter) hlt
  | anything =>
    exact sequence_run_cons atom_run_stop (quantified_run_star rfl hafter) hlt

/-- Pieces are read one by one. -/
theorem sequence_run_pieces (hafter : Quiet after) :
    (sequence size (fuel + 1 + ps.length) depth before).run (cursorAt fold (written ps ++ after)) =
      (sequence size (fuel + 1) depth ((ps.map (Piece.expr fold)).reverse ++ before)).run
        (cursorAt fold after) := by
  induction ps generalizing before with
  | nil => rfl
  | cons p ps ih =>
    have hwritten : written (p :: ps) ++ after = p.text ++ (written ps ++ after) := by
      rw [written, List.flatMap_cons, List.append_assoc]
      rfl
    have hfuel : fuel + 1 + (p :: ps).length = fuel + ps.length + 2 := by
      rw [List.length_cons]
      omega
    have hfuel' : fuel + ps.length + 1 = fuel + 1 + ps.length := by omega
    rw [hwritten, hfuel, sequence_run_piece p (quiet_written hafter), hfuel', ih]
    simp

/-! ### Groups -/

theorem choice_run
    (hsequence : (sequence size fuel depth []).run (cursorAt fold cs) =
      some (e, cursorAt fold after))
    (hafter : NoComment after) (hbar : ∀ ds, after ≠ '|' :: ds) :
    (choice size (fuel + 1) depth).run (cursorAt fold cs) = some (e, cursorAt fold after) := by
  rw [choice, StateT.run_bind, hsequence]
  simp only [Option.bind_eq_bind, Option.bind_some, StateT.run_bind, skipBlanks_run hafter,
    rest_run]
  rfl

theorem flagLetters_run_colon :
    (flagLetters (fuel + 1) false '?').run (cursorAt fold (':' :: cs)) =
      some (true, cursorAt fold cs) := by
  have hcolon : NoComment (':' :: cs) := noComment_cons (by decide)
  rw [flagLetters]
  simp only [StateT.run_bind, rest_run, Option.bind_eq_bind, Option.bind_some,
    skipBlanks_run hcolon, goTo_run]
  rfl

/-- A group without a number is read as what is inside. -/
theorem group_run (hdepth : depth < depthLimit)
    (hchoice : (choice size fuel depth).run (cursorAt fold cs) =
      some (e, cursorAt fold (')' :: after))) :
    (group size (fuel + 1) depth).run (cursorAt fold ('?' :: ':' :: cs)) =
      some (e, cursorAt fold after) := by
  have hmark : NoComment ('?' :: ':' :: cs) := noComment_cons (by decide)
  rw [group]
  simp [StateT.run_bind, Nat.not_le.mpr hdepth, skipBlanks_run hmark, flagLetters_run_colon,
    hchoice]
  rfl

/-- A text in a group is read as its characters. -/
theorem group_run_escaped (hfuel : cs.length + 4 ≤ fuel) (hdepth : depth < depthLimit) :
    (group size fuel depth).run (cursorAt fold ('?' :: ':' :: (escaped cs ++ ')' :: after))) =
      some (joined ((cs.map .letter).map (Piece.expr fold)), cursorAt fold after) := by
  obtain ⟨k, rfl⟩ := Nat.exists_eq_add_of_le' hfuel
  have hfuel : k + (cs.length + 4) = k + 1 + 1 + (cs.map Piece.letter).length + 2 := by
    rw [List.length_map]
    omega
  rw [hfuel]
  refine group_run hdepth (choice_run ?_ (noComment_cons (by decide)) (by rintro ds ⟨⟩))
  rw [← written_letters, sequence_run_pieces (quiet_cons (by decide) (by decide)),
    sequence_run_closing]
  simp

/-! ### Between the ends -/

/-- Expressions in a row between the ends of the text. -/
def anchored (es : List Expr) : Expr :=
  joined (.assertion .textStart :: (es ++ [.assertion .textEnd]))

/-- Whether the text of a body is read as expressions in a row, before the end of the text. -/
def ReadsAs (fold : Bool) (size : Nat) (body : List Char) (es : List Expr) : Prop :=
  Quiet (body ++ ['$']) ∧ ∀ k before, ∃ fuel, 2 ≤ fuel ∧
    (sequence size (k + body.length + 4) 0 before).run (cursorAt fold (body ++ ['$'])) =
      (sequence size fuel 0 (es.reverse ++ before)).run (cursorAt fold ['$'])

theorem readsAs_pieces (size : Nat) (ps : List Piece) :
    ReadsAs fold size (written ps) (ps.map (Piece.expr fold)) := by
  have hquiet : Quiet ['$'] := quiet_cons (by decide) (by decide)
  refine ⟨quiet_written hquiet, fun k before => ?_⟩
  have hlength := length_le_written ps
  obtain ⟨l, hl⟩ : ∃ l, k + (written ps).length + 4 = l + 1 + 1 + ps.length :=
    ⟨k + (written ps).length - ps.length + 2, by omega⟩
  exact ⟨l + 1 + 1, by omega, by rw [hl, sequence_run_pieces hquiet]⟩

theorem isEmpty_joined_letters :
    isEmpty (joined ((cs.map .letter).map (Piece.expr fold))) = decide (cs = []) := by
  rcases cs with _ | ⟨c, _ | ⟨d, cs⟩⟩ <;> rfl

/-- A group of no characters leaves nothing behind. -/
theorem readsAs_group (size : Nat) (cs : List Char) :
    ReadsAs fold size ("(?:".toList ++ escaped cs ++ ")".toList)
      (if cs = [] then [] else [joined ((cs.map .letter).map (Piece.expr fold))]) := by
  have htext : "(?:".toList ++ escaped cs ++ ")".toList ++ ['$'] =
      '(' :: '?' :: ':' :: (escaped cs ++ [')', '$']) := by simp
  have hquiet : Quiet ('(' :: '?' :: ':' :: (escaped cs ++ [')', '$'])) :=
    ⟨by rintro ds ⟨⟩, by simp⟩
  have hend : Quiet ['$'] := quiet_cons (by decide) (by decide)
  have hlength : cs.length ≤ (escaped cs).length := by
    have hle := length_le_written (cs.map .letter)
    rwa [written_letters, List.length_map] at hle
  refine ⟨htext ▸ hquiet, fun k before => ?_⟩
  obtain ⟨l, hl, hfuel⟩ : ∃ l, cs.length + 4 ≤ l ∧
      k + ("(?:".toList ++ escaped cs ++ ")".toList).length + 4 = l + 2 :=
    ⟨k + (escaped cs).length + 6, by omega, by simp; omega⟩
  have hatom : (atom size (l + 1) 0).run
      (cursorAt fold ('(' :: '?' :: ':' :: (escaped cs ++ [')', '$']))) =
        some (joined ((cs.map .letter).map (Piece.expr fold)), cursorAt fold ['$']) := by
    rw [atom, StateT.run_bind, skipBlanks_run hquiet.1]
    exact group_run_escaped hl (by decide)
  refine ⟨l + 1, by omega, ?_⟩
  rw [htext, hfuel, sequence_run_cons hatom (quantified_run hend) (by simp), isEmpty_joined_letters]
  by_cases hcs : cs = [] <;> simp [hcs]

end Reader

open Reader

variable {fold : Bool} {size : Nat}

/-- **Reading a body** between the ends of the text. -/
theorem read?_whole {body : List Char} {es : List Expr} (h : ReadsAs fold size body es) :
    read? { fold, anyNewline := true } ('^' :: (body ++ ['$'])) size = some (anchored es, []) := by
  obtain ⟨hquiet, hreads⟩ := h
  have hstart (fuel : Nat) : (atom size (fuel + 1) 0).run (cursorAt fold ('^' :: (body ++ ['$']))) =
      some (.assertion .textStart, cursorAt fold (body ++ ['$'])) := by
    rw [atom, StateT.run_bind, skipBlanks_run (noComment_cons (by decide))]
    rfl
  have hend (fuel : Nat) : (atom size (fuel + 1) 0).run (cursorAt fold ['$']) =
      some (.assertion .textEnd, cursorAt fold []) := by
    rw [atom, StateT.run_bind, skipBlanks_run (noComment_cons (by decide))]
    rfl
  have hnil : Quiet [] := ⟨by rintro ds ⟨⟩, by simp⟩
  obtain ⟨k, hk⟩ : ∃ k, 8 * ('^' :: (body ++ ['$'])).length + 8 = k + body.length + 4 + 1 + 1 :=
    ⟨8 * ('^' :: (body ++ ['$'])).length + 8 - body.length - 6, by simp; omega⟩
  obtain ⟨fuel, hfuel, hbody⟩ := hreads k [.assertion .textStart]
  obtain ⟨l, rfl⟩ := Nat.exists_eq_add_of_le' hfuel
  have hrun : (choice size (8 * ('^' :: (body ++ ['$'])).length + 8) 0).run
      (cursorAt fold ('^' :: (body ++ ['$']))) = some (anchored es, cursorAt fold []) := by
    rw [hk]
    refine choice_run ?_ (by rintro ds ⟨⟩) (by rintro ds ⟨⟩)
    rw [sequence_run_cons (hstart _) (quantified_run hquiet) (by simp)]
    refine hbody.trans ?_
    rw [sequence_run_cons (hend _) (quantified_run hnil) (by simp), sequence_run_nil]
    simp [anchored, isEmpty]
  rw [cursorAt] at hrun
  rw [read?, hrun]
  rfl

/-- **Reading pieces** between the ends of the text. -/
theorem read?_pieces (ps : List Piece) :
    read? { fold, anyNewline := true } ('^' :: (written ps ++ ['$'])) size =
      some (anchored (ps.map (Piece.expr fold)), []) :=
  read?_whole (readsAs_pieces size ps)

/-- **Reading an escaped text** in a group between the ends. -/
theorem read?_escaped (cs : List Char) :
    read? { fold, anyNewline := true } ('^' :: ("(?:".toList ++ escaped cs ++ ")".toList ++ ['$']))
      size = some (anchored (if cs = [] then [] else
        [joined ((cs.map .letter).map (Piece.expr fold))]), []) :=
  read?_whole (readsAs_group size cs)

end Vigil.Pattern
