import Mathlib.Algebra.Ring.Parity
import Mathlib.Data.List.DropRight
import Vigil.Proofs.Query.Blanks

/-! # Where a text goes wrong

The offset of an error is that of a character before which the text has tokens (`StandsAt`): of a
character that begins no token, of a sign without the one that completes it (`IsStray`), or of a
quote after which every other quote is escaped (`QuotesEscaped`).

The lexer keeps an offset for a sign and for a text between quotes. What these are the offsets of is
said by `Pending.Follows`: whatever is pending after a text follows from the text so far. Every
character keeps this or gives an error that is where it says (`Reached.explains_read`).

* `Pending.Inside.read`: the next character between quotes is escaped if and only if the number of
  backslashes right before it is odd;
* `Reached.isLocated`: every error of a run is where it says;
* `tokens?_of_isStray`, `tokens?_of_quotesEscaped`: conversely such a character is an error;
* `tokens?_errors_located`: both together. -/

namespace Vigil.Query

open Vigil.Text

variable {s s' : LexerState} {cs ds text before after : List Char} {us : List Token} {c : Char}
  {offset start : Nat} {e : QueryError}

/-! ### Places -/

/-- Whether a text has tokens. -/
def HasTokens (cs : List Char) : Prop := ∃ ts, tokens? cs = .ok ts

theorem hasTokens_of_closes (hrun : cs.foldlM LexerState.step {} = .ok s)
    (hp : s.pending.Closes us) : HasTokens cs :=
  ⟨_, tokens?_eq_ok.mpr ⟨s, us, hrun, hp, rfl⟩⟩

/-- Whether a character stands in a text at an offset, which counts bytes, and what is before it has
tokens. -/
structure StandsAt (text : List Char) (c : Char) (offset : Nat) (before after : List Char) :
    Prop where
  text_eq : text = before ++ c :: after
  offset_eq : (String.ofList before).utf8ByteSize = offset
  hasTokens : HasTokens before

theorem StandsAt.append (h : StandsAt text c offset before after) (ds : List Char) :
    StandsAt (text ++ ds) c offset before (after ++ ds) := by
  refine ⟨?_, h.offset_eq, h.hasTokens⟩
  rw [h.text_eq, List.append_assoc]
  rfl

/-! ### Stray characters -/

/-- Whether a character is neither a blank nor one that tokens begin with, or begins a sign that the
text after it does not complete. -/
def IsStray (c : Char) (after : List Char) : Prop :=
  ¬ IsKnown c ∨ (c = '=' ∨ c = '!') ∧ after.head? ≠ some '='

theorem IsStray.not_isDigit (h : IsStray c after) : ¬ c.isDigit = true := by
  rcases h with hknown | ⟨rfl | rfl, -⟩
  · exact fun hdigit => hknown (Or.inr (Or.inr (Or.inl hdigit)))
  · decide
  · decide

/-! ### Backslashes -/

/-- The number of backslashes that a text ends with. -/
def backslashes (cs : List Char) : Nat := (cs.rtakeWhile (· == '\\')).length

/-- Whether every quote in a text is escaped: the number of backslashes right before it is odd. -/
def QuotesEscaped (cs : List Char) : Prop := ∀ u v, cs = u ++ '"' :: v → Odd (backslashes u)

theorem backslashes_concat (cs : List Char) (c : Char) :
    backslashes (cs ++ [c]) = if c = '\\' then backslashes cs + 1 else 0 := by
  rw [backslashes, List.rtakeWhile_concat]
  split_ifs <;> simp_all [backslashes]

theorem quotesEscaped_nil : QuotesEscaped [] := by
  intro u v h
  simp at h

theorem quotesEscaped_concat : QuotesEscaped (cs ++ [c]) ↔
    QuotesEscaped cs ∧ (c = '"' → Odd (backslashes cs)) := by
  constructor
  · intro h
    refine ⟨fun u v hcs => h u (v ++ [c]) ?_, ?_⟩
    · rw [hcs, List.append_assoc]
      rfl
    · rintro rfl
      exact h cs [] rfl
  · rintro ⟨h, hc⟩ u v hcs
    rcases List.eq_nil_or_concat' v with rfl | ⟨v, d, rfl⟩
    · obtain ⟨rfl, hquote⟩ := List.append_inj' hcs rfl
      exact hc (List.head_eq_of_cons_eq hquote)
    · rw [← List.cons_append, ← List.append_assoc] at hcs
      exact h u v (List.append_inj' hcs rfl).1

/-! ### Between quotes -/

/-- What is pending between quotes, where a text follows the quote at an offset: a backslash that is
not escaped itself waits for the character that it escapes. -/
inductive Pending.Inside (start : Nat) (cs : List Char) : Pending → Prop
  | text (before : List Char) (h : Even (backslashes cs)) : Inside start cs (.text start before)
  | escape (before : List Char) (h : Odd (backslashes cs)) : Inside start cs (.escape start before)

theorem Pending.Inside.read (h : s.pending.Inside start cs)
    (hc : c = '"' → Odd (backslashes cs)) :
    ∃ s', s.read c = .ok s' ∧ s'.pending.Inside start (cs ++ [c]) := by
  obtain ⟨offset, complete, pending⟩ := s
  cases h with
  | text before h =>
    by_cases hbackslash : c = '\\'
    · subst hbackslash
      refine ⟨_, rfl, .escape before ?_⟩
      rw [backslashes_concat, if_pos rfl]
      exact h.add_one
    · have hquote : c ≠ '"' := fun hquote => Nat.not_odd_iff_even.mpr h (hc hquote)
      refine ⟨⟨offset, complete, .text start (c :: before)⟩, ?_, .text _ ?_⟩
      · simp [LexerState.read, hquote, hbackslash]
      · rw [backslashes_concat, if_neg hbackslash]
        exact Even.zero
  | escape before h =>
    refine ⟨_, rfl, .text _ ?_⟩
    rw [backslashes_concat]
    split_ifs
    · exact h.add_one
    · exact Even.zero

/-- A text in which every quote is escaped does not leave the quotes. -/
theorem exists_inside_of_quotesEscaped (hs : s.pending.Inside start []) (h : QuotesEscaped cs) :
    ∃ s', cs.foldlM LexerState.step s = .ok s' ∧ s'.pending.Inside start cs := by
  -- what a character does depends on the backslashes before it, so the text grows at its end
  induction cs using List.reverseRecOn with
  | nil => exact ⟨s, rfl, hs⟩
  | append_singleton cs c ih =>
    obtain ⟨hcs, hc⟩ := quotesEscaped_concat.mp h
    obtain ⟨s₁, hrun, hinside⟩ := ih hcs
    obtain ⟨s₂, hread, hinside'⟩ := hinside.read hc
    refine ⟨{ s₂ with offset := s₂.offset + c.utf8Size }, ?_, hinside'⟩
    rw [List.foldlM_append]
    exact bind_eq_ok.mpr ⟨s₁, hrun, foldlM_cons_of_read hread⟩

theorem finish_of_inside (h : s.pending.Inside start cs) :
    s.finish = .error (.unterminatedText start) := by
  obtain ⟨offset, complete, pending⟩ := s
  cases h <;> rfl

/-! ### What is pending after a text -/

/-- **What is pending after a text.** It is complete, or a number that does not fit, or a sign at
the end of the text, or a text between quotes of which the first stands in the text. -/
inductive Pending.Follows (cs : List Char) : Pending → Prop
  | complete {p : Pending} {us : List Token} (h : p.Closes us) : Follows cs p
  | unfit {digits : List Char} (h : integer? digits.reverse = none) : Follows cs (.number digits)
  | sign {c : Char} {start : Nat} {before : List Char} (hc : c = '=' ∨ c = '!')
    (h : StandsAt cs c start before []) : Follows cs (.sign c start)
  | inside {p : Pending} {start : Nat} {before after : List Char}
    (h : StandsAt cs '"' start before after) (hquotes : QuotesEscaped after)
    (hp : p.Inside start after) : Follows cs p

theorem follows_nothing : Pending.Follows cs .nothing := .complete .nothing

theorem follows_word (before : List Char) : Pending.Follows cs (.word before) :=
  .complete (.word before)

theorem follows_number (digits : List Char) : Pending.Follows cs (.number digits) := by
  cases hi : integer? digits.reverse with
  | none => exact .unfit hi
  | some i => exact .complete (.number hi)

theorem follows_of_begin (hc : StandsAt (cs ++ [c]) c s.offset cs []) (h : s.begin c = .ok s') :
    s'.pending.Follows (cs ++ [c]) := by
  have hbegins : Begins s c (.ok s') := h ▸ begins_begin s c
  cases hbegins with
  | blank | sign => exact follows_nothing
  | equality hsign => exact .sign hsign hc
  | quote hquote =>
    subst hquote
    exact .inside hc quotesEscaped_nil (.text [] Even.zero)
  | number => exact follows_number [c]
  | word => exact follows_word [c]

/-- A character that goes on with a word or a number leaves what is complete, or again a number. -/
theorem exists_read_of_goesOn (hc : s.pending.GoesOn c) : ∃ s', s.read c = .ok s' ∧
    ((∃ us, s'.pending.Closes us) ∨ c.isDigit = true ∧ ∃ digits, s'.pending = .number digits) := by
  obtain ⟨offset, complete, pending⟩ := s
  cases pending with
  | number digits =>
    have hdigit : c.isDigit = true := hc
    refine ⟨⟨offset, complete, .number (c :: digits)⟩, ?_, Or.inr ⟨hdigit, _, rfl⟩⟩
    simp [LexerState.read, hdigit]
  | word before =>
    by_cases hword : continuesWord c = true
    · refine ⟨⟨offset, complete, .word (c :: before)⟩, ?_, Or.inl ⟨_, .word _⟩⟩
      simp [LexerState.read, hword]
    · have htilde : c = '~' := hc.resolve_left hword
      subst htilde
      have hread : LexerState.read ⟨offset, complete, .word before⟩ '~' =
          .ok (LexerState.emit ⟨offset, complete, .word before⟩
            (wordToken ('~' :: before).reverse)) := by
        simp [LexerState.read, hword]
      exact ⟨_, hread, Or.inl ⟨_, .nothing⟩⟩
  | nothing | sign | text | escape => exact hc.elim

/-- Whether the lexer gets into a state by a text. -/
structure Reached (cs : List Char) (s : LexerState) : Prop where
  run : cs.foldlM LexerState.step {} = .ok s
  pending : s.pending.Follows cs

theorem reached_nil : Reached [] {} := ⟨rfl, follows_nothing⟩

theorem offset_of_run (hrun : cs.foldlM LexerState.step {} = .ok s) :
    s.offset = (String.ofList cs).utf8ByteSize := by
  rw [LexerState.offset_of_foldlM hrun]
  exact Nat.zero_add _

/-- Where the text so far has tokens, the next character stands at the offset of the lexer. -/
theorem Reached.standsAt (h : Reached cs s) (hp : s.pending.Closes us) (c : Char) (ds : List Char) :
    StandsAt (cs ++ c :: ds) c s.offset cs ds :=
  ⟨rfl, (offset_of_run h.run).symm, hasTokens_of_closes h.run hp⟩

/-! ### Errors -/

/-- Whether an error is where it says: a stray character stands there, and the text before it has
tokens only without it, or a quote after which every other one is escaped. -/
def IsLocated (text : List Char) : QueryError → Prop
  | .unexpectedCharacter c offset => ∃ before after, StandsAt text c offset before after ∧
      ¬ HasTokens (before ++ [c]) ∧ IsStray c after
  | .unterminatedText offset => ∃ before after, StandsAt text '"' offset before after ∧
      QuotesEscaped after
  | _ => True

theorem not_hasTokens_of_read (h : Reached cs s) (hread : s.read c = .error e) :
    ¬ HasTokens (cs ++ [c]) := by
  have hrun : (cs ++ [c]).foldlM LexerState.step {} = .error e := by
    rw [List.foldlM_append, h.run]
    exact foldlM_cons_of_error hread
  rintro ⟨ts, hts⟩
  rw [tokens?, hrun] at hts
  cases hts

theorem not_hasTokens_of_sign (h : Reached cs s) (hs : s.pending = .sign c start) :
    ¬ HasTokens cs := by
  rintro ⟨ts, hts⟩
  obtain ⟨s', us, hrun, hcloses, -⟩ := tokens?_eq_ok.mp hts
  cases h.run.symm.trans hrun
  rw [hs] at hcloses
  cases hcloses

/-- A sign at the end of a text is stray if no `=` follows. -/
theorem Reached.isLocated_of_sign (h : Reached cs s) (hs : s.pending = .sign c start)
    (hds : ds.head? ≠ some '=') : IsLocated (cs ++ ds) (.unexpectedCharacter c start) := by
  have hpending : s.pending.Follows cs := h.pending
  rw [hs] at hpending
  cases hpending with
  | complete hp => cases hp
  | inside _ _ hp => cases hp
  | @sign _ _ before hc hstands =>
    have hcs : cs = before ++ [c] := hstands.text_eq
    refine ⟨before, ds, hstands.append ds, ?_, Or.inr ⟨hc, hds⟩⟩
    rw [← hcs]
    exact not_hasTokens_of_sign h hs

/-- Whether the result of a character after a text follows from the text: what is pending does, or
there is an error that is where it says, whatever comes next. -/
def Explains (cs : List Char) (c : Char) : Except QueryError LexerState → Prop
  | .ok s => s.pending.Follows (cs ++ [c])
  | .error e => ∀ ds, IsLocated (cs ++ c :: ds) e

/-- A character after a text with tokens goes on with the last of them, or is between tokens. -/
theorem Reached.explains_of_closes (h : Reached cs s) (hp : s.pending.Closes us) (c : Char) :
    Explains cs c (s.read c) := by
  by_cases hc : s.pending.GoesOn c
  · obtain ⟨s', hread, hs'⟩ := exists_read_of_goesOn hc
    rw [hread]
    rcases hs' with ⟨us, hcloses⟩ | ⟨-, digits, hnumber⟩
    · exact .complete hcloses
    · rw [Explains, hnumber]
      exact follows_number digits
  · have hread := read_of_closes hp hc
    rcases hbegin : LexerState.begin ⟨s.offset, us.reverse ++ s.complete, .nothing⟩ c with e | s'
    · have hnone : ¬ HasTokens (cs ++ [c]) := not_hasTokens_of_read h (hread.trans hbegin)
      have hbegins : Begins _ c (.error e) := hbegin ▸ begins_begin _ c
      rw [hread, hbegin]
      cases hbegins with
      | unknown hknown => exact fun ds => ⟨cs, ds, h.standsAt hp c ds, hnone, Or.inl hknown⟩
    · rw [hread, hbegin]
      refine follows_of_begin ?_ hbegin
      exact h.standsAt hp c []

/-- **One character** after a text. -/
theorem Reached.explains_read (h : Reached cs s) (c : Char) : Explains cs c (s.read c) := by
  obtain ⟨offset, complete, pending⟩ := s
  have hpending : pending.Follows cs := h.pending
  cases hpending with
  | complete hp => exact h.explains_of_closes hp c
  | @unfit digits hi =>
    by_cases hdigit : c.isDigit = true
    · simp only [LexerState.read, hdigit, if_true]
      exact follows_number (c :: digits)
    · simp only [LexerState.read, LexerState.close, hdigit, hi]
      exact fun ds => trivial
  | @sign sign start before hsign hstands =>
    by_cases hc : c = '='
    · subst hc
      exact follows_nothing
    · have hread : LexerState.read ⟨offset, complete, .sign sign start⟩ c =
          .error (.unexpectedCharacter sign start) := by
        simp [LexerState.read, hc]
      rw [hread]
      exact fun ds => h.isLocated_of_sign rfl (by simpa using hc)
  | @inside _ start before after hstands hquotes hinside =>
    by_cases hc : c = '"' → Odd (backslashes after)
    · obtain ⟨s', hread, hinside'⟩ := hinside.read (s := ⟨offset, complete, pending⟩) hc
      rw [hread]
      exact .inside (hstands.append [c]) (quotesEscaped_concat.mpr ⟨hquotes, hc⟩) hinside'
    -- a quote that is not escaped completes the text
    · obtain ⟨rfl, heven⟩ := Classical.not_imp.mp hc
      cases hinside with
      | text => exact follows_nothing
      | escape _ hodd => exact absurd hodd heven

theorem Reached.next (h : Reached cs s) (hread : s.read c = .ok s') :
    Reached (cs ++ [c]) { s' with offset := s'.offset + c.utf8Size } where
  run := by
    rw [List.foldlM_append]
    exact bind_eq_ok.mpr ⟨s, h.run, foldlM_cons_of_read hread⟩
  pending := by
    have hexplains : Explains cs c (s.read c) := h.explains_read c
    rwa [hread] at hexplains

theorem Reached.isLocated_of_finish (h : Reached cs s) (hfinish : s.finish = .error e) :
    IsLocated cs e := by
  obtain ⟨offset, complete, pending⟩ := s
  have hpending : pending.Follows cs := h.pending
  cases hpending with
  | complete hp =>
    rw [finish_of_closes (s := ⟨offset, complete, pending⟩) hp] at hfinish
    cases hfinish
  | unfit hi =>
    simp only [LexerState.finish, LexerState.close, hi, Except.map, Except.error.injEq] at hfinish
    subst hfinish
    trivial
  | sign hsign hstands =>
    cases hfinish
    rw [← List.append_nil cs]
    exact h.isLocated_of_sign rfl (by simp)
  | @inside _ start before after hstands hquotes hinside =>
    rw [finish_of_inside (s := ⟨offset, complete, pending⟩) hinside] at hfinish
    cases hfinish
    exact ⟨before, after, hstands, hquotes⟩

/-- **A run of the lexer** ends with tokens or with an error that is where it says. -/
theorem Reached.isLocated (h : Reached cs s)
    (hrun : (ds.foldlM LexerState.step s).bind LexerState.finish = .error e) :
    IsLocated (cs ++ ds) e := by
  induction ds generalizing cs s with
  | nil =>
    rw [List.append_nil]
    exact h.isLocated_of_finish hrun
  | cons d ds ih =>
    rcases hread : s.read d with e' | s'
    · have hlocated : Explains cs d (s.read d) := h.explains_read d
      rw [hread] at hlocated
      rw [foldlM_cons_of_error hread] at hrun
      cases hrun
      exact hlocated ds
    · rw [foldlM_cons_of_read hread] at hrun
      have hlocated : IsLocated (cs ++ [d] ++ ds) e := ih (h.next hread) hrun
      simpa using hlocated

theorem isLocated_of_tokens? (h : tokens? text = .error e) : IsLocated text e :=
  reached_nil.isLocated h

/-! ### Where there are errors -/

/-- The run over a text from a character that stands at an offset. -/
theorem StandsAt.exists_run (h : StandsAt text c offset before after) : ∃ s us,
    before.foldlM LexerState.step {} = .ok s ∧ s.pending.Closes us ∧ s.offset = offset ∧
      tokens? text = ((c :: after).foldlM LexerState.step s).bind LexerState.finish := by
  obtain ⟨ts, hts⟩ := h.hasTokens
  obtain ⟨s, us, hrun, hcloses, -⟩ := tokens?_eq_ok.mp hts
  refine ⟨s, us, hrun, hcloses, (offset_of_run hrun).trans h.offset_eq, ?_⟩
  rw [tokens?, h.text_eq, List.foldlM_append, hrun]
  rfl

theorem tokens?_of_isStray (h : StandsAt text c offset before after)
    (hnone : ¬ HasTokens (before ++ [c])) (hstray : IsStray c after) :
    tokens? text = .error (.unexpectedCharacter c offset) := by
  obtain ⟨s, us, hrun, hcloses, rfl, htokens⟩ := h.exists_run
  -- with a character that goes on with a word the text would still have tokens
  have hgoesOn : ¬ s.pending.GoesOn c := by
    intro hc
    obtain ⟨s', hread, ⟨us, hcloses⟩ | ⟨hdigit, -⟩⟩ := exists_read_of_goesOn hc
    · have hbefore : (before ++ [c]).foldlM LexerState.step {} =
          .ok { s' with offset := s'.offset + c.utf8Size } := by
        rw [List.foldlM_append, hrun]
        exact foldlM_cons_of_read hread
      exact hnone (hasTokens_of_closes hbefore hcloses)
    · exact hstray.not_isDigit hdigit
  have hread := read_of_closes hcloses hgoesOn
  rw [htokens]
  rcases hstray with hknown | ⟨hc, hafter⟩
  · rw [foldlM_cons_of_error (hread.trans (begin_of_unknown hknown _))]
    rfl
  · have hsign : s.read c = .ok ⟨s.offset, us.reverse ++ s.complete, .sign c s.offset⟩ := by
      rw [hread]
      rcases hc with rfl | rfl <;> simp [LexerState.begin, isBlank]
    rw [foldlM_cons_of_read hsign]
    rcases after with _ | ⟨d, after⟩
    · rfl
    · have hd : d ≠ '=' := by simpa using hafter
      have hnext : LexerState.read ⟨s.offset + c.utf8Size, us.reverse ++ s.complete,
          .sign c s.offset⟩ d = .error (.unexpectedCharacter c s.offset) := by
        simp [LexerState.read, hd]
      rw [foldlM_cons_of_error hnext]
      rfl

theorem tokens?_of_quotesEscaped (h : StandsAt text '"' offset before after)
    (hquotes : QuotesEscaped after) : tokens? text = .error (.unterminatedText offset) := by
  obtain ⟨s, us, hrun, hcloses, rfl, htokens⟩ := h.exists_run
  have hends : Ends '"' := by decide
  have hquote : s.read '"' = .ok ⟨s.offset, us.reverse ++ s.complete, .text s.offset []⟩ := by
    rw [read_of_closes hcloses hends.not_goesOn]
    simp [LexerState.begin, isBlank]
  have hopen : Pending.Inside s.offset [] (.text s.offset []) := .text [] Even.zero
  obtain ⟨s', hrun', hinside⟩ := exists_inside_of_quotesEscaped
    (s := ⟨s.offset + '"'.utf8Size, us.reverse ++ s.complete, .text s.offset []⟩) hopen hquotes
  rw [htokens, foldlM_cons_of_read hquote, hrun']
  exact finish_of_inside hinside

/-- **The offsets of errors.** A text is refused for a character at an offset if and only if the
character stands there, what is before it has tokens, but not together with it, and it is stray: it
is neither a blank nor the first character of a token, or it begins a sign that no `=` completes. A
text is refused for a quote that is not closed if and only if the quote stands at the offset, what is
before it has tokens, and every quote after it is escaped: the number of backslashes right before
that quote is odd. -/
theorem tokens?_errors_located (text : List Char) :
    (∀ c offset, tokens? text = .error (.unexpectedCharacter c offset) ↔
      ∃ before after, StandsAt text c offset before after ∧ ¬ HasTokens (before ++ [c]) ∧
        IsStray c after) ∧
    ∀ offset, tokens? text = .error (.unterminatedText offset) ↔
      ∃ before after, StandsAt text '"' offset before after ∧ QuotesEscaped after := by
  refine ⟨fun c offset => ⟨isLocated_of_tokens?, ?_⟩, fun offset => ⟨isLocated_of_tokens?, ?_⟩⟩
  · rintro ⟨before, after, hstands, hnone, hstray⟩
    exact tokens?_of_isStray hstands hnone hstray
  · rintro ⟨before, after, hstands, hquotes⟩
    exact tokens?_of_quotesEscaped hstands hquotes

/-- Offsets count bytes, and after an escaped backslash and an escaped quote the text is open. -/
example : tokens? "\u3000=1".toList = .error (.unexpectedCharacter '=' 3) ∧
    tokens? "\u3000\"\\\\\\\"".toList = .error (.unterminatedText 3) := by
  decide +kernel

end Vigil.Query
