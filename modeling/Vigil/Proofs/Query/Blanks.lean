import Mathlib.Data.List.Basic
import Vigil.Proofs.Query.Fields
import Vigil.Proofs.Query.Spelling
import Vigil.Proofs.Results
import Vigil.Proofs.Text.Blanks
import Vigil.Query.Basic

/-! # Blanks between tokens

A text that follows a blank is read as it is by itself. `LexerState.after` is the state of the lexer
when more has been read before: offsets count it, and its tokens are complete. Every step keeps the
two states together (`after_step`), errors included (`QueryError.shift`).

* `foldlM_after`: the run over a text, with more before it or by itself;
* `tokens?_append_reads`, `tokens?_append_blanks`: two texts with a text between them that is read
  whole, as blanks are;
* `tokens?_trim`: the blanks around a text that has tokens do not count;
* `blanks_separate_tokens`: so a query is read again from its source. -/

namespace Vigil

/-- The same error where a number of bytes stand before the text. -/
def QueryError.shift (n : Nat) : QueryError → QueryError
  | .unterminatedText offset => .unterminatedText (offset + n)
  | .unexpectedCharacter c offset => .unexpectedCharacter c (offset + n)
  | e => e

namespace Query

open Vigil.Text

variable {s s' : LexerState} {n : Nat} {before ts : List Token} {c : Char} {cs w : List Char}

/-! ### More text before -/

/-- A token that begins a number of bytes later. -/
def Pending.shift (n : Nat) : Pending → Pending
  | .sign c start => .sign c (start + n)
  | .text start before => .text (start + n) before
  | .escape start before => .escape (start + n) before
  | p => p

/-- What is given where more stands before the text: a value that `f` changes, or the error there. -/
def shifted {α β : Type} (n : Nat) (f : α → β) (x : Except QueryError α) : Except QueryError β :=
  (x.map f).mapError (QueryError.shift n)

theorem shifted_bind {α β : Type} {f : α → α} {g : β → β} {x : Except QueryError α}
    {k : α → Except QueryError β} (h : ∀ a, k (f a) = shifted n g (k a)) :
    (shifted n f x).bind k = shifted n g (x.bind k) := by
  rcases x with e | a
  · rfl
  · exact h a

namespace LexerState

/-- The state where `n` bytes with the tokens `before`, the last first, have been read already. -/
def after (n : Nat) (before : List Token) (s : LexerState) : LexerState :=
  ⟨s.offset + n, s.complete ++ before, s.pending.shift n⟩

theorem after_close : (s.after n before).close = shifted n (after n before) s.close := by
  obtain ⟨offset, complete, pending⟩ := s
  cases pending with
  | number digits =>
    unfold close
    simp only [after, Pending.shift]
    split <;> rfl
  | nothing | sign | text | escape | word => rfl

theorem after_begin : (s.after n before).begin c = shifted n (after n before) (s.begin c) := by
  unfold begin
  simp only [apply_ite (shifted n (after n before))]
  rfl

theorem after_close_begin : ((s.after n before).close.bind fun s => s.begin c) =
    shifted n (after n before) (s.close.bind fun s => s.begin c) := by
  rw [after_close]
  exact shifted_bind fun s => after_begin

theorem after_read : (s.after n before).read c = shifted n (after n before) (s.read c) := by
  obtain ⟨offset, complete, pending⟩ := s
  cases pending with
  | nothing => exact after_begin
  | sign sign start =>
    unfold read
    simp only [after, Pending.shift]
    split_ifs <;> rfl
  | text start chars =>
    unfold read
    simp only [after, Pending.shift]
    split_ifs <;> rfl
  | escape start chars => rfl
  | number digits =>
    have hclose : (((⟨offset, complete, .number digits⟩ : LexerState).after n before).close.bind
        fun s => s.begin c) = shifted n (after n before) _ := after_close_begin
    unfold read
    simp only [after, Pending.shift] at hclose ⊢
    split_ifs
    · rfl
    · exact hclose
  | word chars =>
    have hclose : (((⟨offset, complete, .word chars⟩ : LexerState).after n before).close.bind
        fun s => s.begin c) = shifted n (after n before) _ := after_close_begin
    unfold read
    simp only [after, Pending.shift] at hclose ⊢
    split_ifs
    · rfl
    · rfl
    · exact hclose

/-- **One character**, with more text before it. -/
theorem after_step : (s.after n before).step c = shifted n (after n before) (s.step c) := by
  unfold step
  rw [after_read]
  rcases s.read c with e | s'
  · rfl
  · simp only [shifted, Except.map, Except.mapError, after, Except.ok.injEq, LexerState.mk.injEq,
      and_true]
    omega

/-- **A run of the lexer**, with more text before it. -/
theorem foldlM_after (cs : List Char) : cs.foldlM step (s.after n before) =
    shifted n (after n before) (cs.foldlM step s) := by
  induction cs generalizing s with
  | nil => rfl
  | cons c cs ih =>
    rw [List.foldlM_cons, List.foldlM_cons, after_step]
    exact shifted_bind fun s => ih

theorem after_finish : (s.after n before).finish = shifted n (before.reverse ++ ·) s.finish := by
  have hclose : (s.after n before).close.map (fun s => s.complete.reverse) =
      shifted n (before.reverse ++ ·) (s.close.map fun s => s.complete.reverse) := by
    rw [after_close]
    rcases s.close with e | s'
    · rfl
    · exact congrArg Except.ok List.reverse_append
  obtain ⟨offset, complete, pending⟩ := s
  cases pending with
  | sign | text | escape => rfl
  | nothing | number | word => exact hclose

/-! ### Offsets -/

theorem offset_of_close (h : s.close = .ok s') : s'.offset = s.offset := by
  unfold close at h
  split at h
  case h_1 =>
    split at h <;> cases h
    rfl
  all_goals
    cases h
    rfl

theorem offset_of_begin (h : s.begin c = .ok s') : s'.offset = s.offset := by
  have hbegins : Begins s c (.ok s') := h ▸ begins_begin s c
  cases hbegins <;> rfl

theorem offset_of_read (h : s.read c = .ok s') : s'.offset = s.offset := by
  have hend (hclose : (s.close.bind fun s => s.begin c) = .ok s') : s'.offset = s.offset := by
    obtain ⟨s₁, hs₁, hbegin⟩ := bind_eq_ok.mp hclose
    rw [offset_of_begin hbegin, offset_of_close hs₁]
  unfold read at h
  split at h
  case h_1 => exact offset_of_begin h
  case h_4 =>
    cases h
    rfl
  case h_2 | h_3 =>
    split_ifs at h
    all_goals
      cases h
      rfl
  case h_5 | h_6 =>
    split_ifs at h
    case neg => exact hend h
    all_goals
      cases h
      rfl

/-- The offset counts the bytes that have been read. -/
theorem offset_of_foldlM (h : cs.foldlM step s = .ok s') :
    s'.offset = s.offset + (String.ofList cs).utf8ByteSize := by
  induction cs generalizing s with
  | nil =>
    cases h
    rfl
  | cons c cs ih =>
    obtain ⟨s₁, hstep, hrest⟩ := bind_eq_ok.mp h
    obtain ⟨s₂, hread, rfl⟩ := map_eq_ok.mp hstep
    rw [ih hrest, offset_of_read hread, String.ofList_cons, String.utf8ByteSize_append,
      String.utf8ByteSize_singleton]
    exact Nat.add_assoc _ _ _

end LexerState

/-! ### Blanks -/

theorem ends_of_isBlank (h : isBlank c = true) : Ends c := by
  have hne {d : Char} (hd : isBlank d = false) : c ≠ d := by
    rintro rfl
    cases h.symm.trans hd
  have hword : isAlphanumeric c = false := isAlphanumeric_of_isBlank h
  have hunderscore : c ≠ '_' := hne (by decide)
  have hdot : c ≠ '.' := hne (by decide)
  refine ⟨?_, by simp [continuesWord, hword, hunderscore, hdot], hne (by decide)⟩
  rw [← Bool.not_eq_true]
  intro hdigit
  have hn : 48 ≤ c.toNat ∧ c.toNat ≤ 57 := bounds_of_isDigit hdigit
  simp only [isBlank, Bool.or_eq_true, Bool.and_eq_true, decide_eq_true_eq, beq_iff_eq] at h
  omega

theorem reads_blanks (hw : ∀ c ∈ w, isBlank c = true) : Reads .nothing w [] .nothing :=
  reads_chars (P := fun _ => .nothing)
    (fun c hc s before hs => by simp [LexerState.read, hs, LexerState.begin, hw c hc]) []

/-- Between quotes a blank stands for itself. -/
theorem reads_blanks_text (hw : ∀ c ∈ w, isBlank c = true) (start : Nat) (before : List Char) :
    Reads (.text start before) w [] (.text start (w.reverse ++ before)) := by
  refine reads_chars (fun c hc s before hs => ?_) before
  have hquote : c ≠ '"' := by
    rintro rfl
    exact absurd (hw _ hc) (by decide)
  have hbackslash : c ≠ '\\' := by
    rintro rfl
    exact absurd (hw _ hc) (by decide)
  simp [LexerState.read, hs, hquote, hbackslash]

/-- What is pending at the end of a text that has tokens is a word, a number or nothing. -/
theorem exists_closes_of_finish (h : s.finish = .ok ts) : ∃ us, s.pending.Closes us := by
  obtain ⟨offset, complete, pending⟩ := s
  cases pending with
  | nothing => exact ⟨_, .nothing⟩
  | word before => exact ⟨_, .word before⟩
  | sign | text | escape => cases h
  | number before =>
    obtain ⟨s', hclose, -⟩ := map_eq_ok.mp h
    cases hi : integer? before.reverse with
    | none => simp [LexerState.close, hi] at hclose
    | some i => exact ⟨_, .number hi⟩

/-- A text has tokens where the lexer completes some and a blank would complete the others. -/
theorem tokens?_eq_ok : tokens? cs = .ok ts ↔ ∃ s us, cs.foldlM LexerState.step {} = .ok s ∧
    s.pending.Closes us ∧ ts = s.complete.reverse ++ us := by
  constructor
  · intro h
    obtain ⟨s, hrun, hfinish⟩ := bind_eq_ok.mp h
    obtain ⟨us, hus⟩ : ∃ us, s.pending.Closes us := exists_closes_of_finish hfinish
    rw [finish_of_closes hus] at hfinish
    exact ⟨s, us, hrun, hus, (Except.ok.inj hfinish).symm⟩
  · rintro ⟨s, us, hrun, hus, rfl⟩
    exact bind_eq_ok.mpr ⟨s, hrun, finish_of_closes hus⟩

/-- **Texts that are read whole.** Where a text has tokens and another one follows that ends it and
is read whole, a third is read as it is by itself. -/
theorem tokens?_append_reads {as bs : List Char} {us : List Token} (has : tokens? as = .ok ts)
    (hc : Ends c) (hread : Reads .nothing (c :: cs) us .nothing) : tokens? (as ++ c :: cs ++ bs) =
      shifted (String.ofList (as ++ c :: cs)).utf8ByteSize (ts ++ us ++ ·) (tokens? bs) := by
  obtain ⟨s, vs, hrun, hvs, rfl⟩ := tokens?_eq_ok.mp has
  obtain ⟨s', hrun', hpending, hcomplete⟩ := hvs.reads hc hread s rfl
  have hboth : (as ++ c :: cs).foldlM LexerState.step {} = .ok s' := by
    rw [List.foldlM_append, hrun]
    exact hrun'
  -- between the texts only the offset and the complete tokens tell what has been read
  have hs' : s' = LexerState.after (String.ofList (as ++ c :: cs)).utf8ByteSize
      (s.complete.reverse ++ vs ++ us).reverse {} := by
    have hoffset := LexerState.offset_of_foldlM hboth
    obtain ⟨offset, complete, pending⟩ := s'
    simp_all [LexerState.after, Pending.shift]
  rw [tokens?, List.foldlM_append, hboth]
  have hrest : (bs.foldlM LexerState.step s').bind LexerState.finish =
      shifted (String.ofList (as ++ c :: cs)).utf8ByteSize (s.complete.reverse ++ vs ++ us ++ ·)
        (tokens? bs) := by
    rw [hs', LexerState.foldlM_after]
    refine shifted_bind fun s => ?_
    rw [LexerState.after_finish, List.reverse_reverse]
  exact hrest

/-- **Blanks between texts.** A text after another one with tokens, and at least one blank, is read
as it is by itself. -/
theorem tokens?_append_blanks {as bs : List Char} (has : tokens? as = .ok ts) (hne : w ≠ [])
    (hw : ∀ c ∈ w, isBlank c = true) : tokens? (as ++ w ++ bs) =
      shifted (String.ofList (as ++ w)).utf8ByteSize (ts ++ ·) (tokens? bs) := by
  obtain ⟨c, w, rfl⟩ := List.exists_cons_of_ne_nil hne
  have hends : Ends c := ends_of_isBlank (hw c List.mem_cons_self)
  simpa using tokens?_append_reads has hends (reads_blanks hw)

/-! ### Blanks around a text -/

/-- Blanks complete no text between quotes, so that what they end is a word, a number or nothing. -/
theorem exists_closes_of_blanks (hne : w ≠ []) (hw : ∀ c ∈ w, isBlank c = true)
    (hrun : w.foldlM LexerState.step s = .ok s') (hfinish : s'.finish = .ok ts) :
    ∃ us, s.pending.Closes us := by
  obtain ⟨c, w, rfl⟩ := List.exists_cons_of_ne_nil hne
  have hopen {start : Nat} {before : List Char} (hs' : s'.pending = .text start before) : False := by
    simp [LexerState.finish, hs'] at hfinish
  obtain ⟨s₁, hstep, hrest⟩ := bind_eq_ok.mp hrun
  obtain ⟨s₂, hread, rfl⟩ := map_eq_ok.mp hstep
  have hends : Ends c := ends_of_isBlank (hw c List.mem_cons_self)
  cases hs : s.pending with
  | nothing => exact ⟨_, .nothing⟩
  | word before => exact ⟨_, .word before⟩
  | sign sign start =>
    have hequal : c ≠ '=' := by
      rintro rfl
      exact absurd (hw _ List.mem_cons_self) (by decide)
    simp [LexerState.read, hs, hequal] at hread
  | number before =>
    cases hi : integer? before.reverse with
    | none => simp [LexerState.read, hs, hends.1, LexerState.close, hi, Except.bind] at hread
    | some i => exact ⟨_, .number hi⟩
  | text start before =>
    obtain ⟨s'', hrun', hpending, -⟩ := reads_blanks_text hw start before s hs
    cases hrun'.symm.trans hrun
    exact (hopen hpending).elim
  | escape start before =>
    simp only [LexerState.read, hs, Except.ok.injEq] at hread
    subst hread
    have hw' : ∀ d ∈ w, isBlank d = true := fun d hd => hw d (List.mem_cons_of_mem c hd)
    obtain ⟨s'', hrun', hpending, -⟩ :=
      reads_blanks_text hw' start _ ⟨s.offset + c.utf8Size, s.complete, _⟩ rfl
    cases hrun'.symm.trans hrest
    exact (hopen hpending).elim

theorem tokens?_of_append_blanks (hw : ∀ c ∈ w, isBlank c = true)
    (h : tokens? (cs ++ w) = .ok ts) : tokens? cs = .ok ts := by
  by_cases hne : w = []
  · rwa [hne, List.append_nil] at h
  obtain ⟨s₂, hrun, hfinish⟩ := bind_eq_ok.mp h
  rw [List.foldlM_append] at hrun
  obtain ⟨s, hcs, hblanks⟩ := bind_eq_ok.mp hrun
  obtain ⟨us, hus⟩ := exists_closes_of_blanks hne hw hblanks hfinish
  have htokens : tokens? cs = .ok (s.complete.reverse ++ us) := tokens?_eq_ok.mpr ⟨s, us, hcs, hus, rfl⟩
  have happend : tokens? (cs ++ w ++ []) = _ := tokens?_append_blanks htokens hne hw
  rw [List.append_nil, h] at happend
  rw [htokens, Except.ok.inj happend]
  exact congrArg Except.ok (List.append_nil _).symm

theorem tokens?_of_blanks_append (hw : ∀ c ∈ w, isBlank c = true)
    (h : tokens? (w ++ cs) = .ok ts) : tokens? cs = .ok ts := by
  by_cases hne : w = []
  · rwa [hne] at h
  have happend : tokens? ([] ++ w ++ cs) = _ := tokens?_append_blanks rfl hne hw
  rw [List.nil_append, h] at happend
  obtain ⟨us, hus, hts⟩ := map_eq_ok.mp (mapError_eq_ok.mp happend.symm)
  exact hus.trans (congrArg Except.ok hts)

/-- The tokens of a text are those of what trimming leaves of it. -/
theorem tokens?_trim (h : tokens? cs = .ok ts) : tokens? (trim cs) = .ok ts := by
  obtain ⟨u, w, hcs, hu, hw⟩ := exists_trim_eq cs
  rw [hcs, List.append_assoc] at h
  exact tokens?_of_append_blanks hw (tokens?_of_blanks_append hu h)

/-! ### Sources -/

variable {text : String} {q : Query}

theorem toList_source (h : q.IsReadFrom text) : q.source.toList = trim text.toList := by
  have hsource : q.source = String.ofList (trim text.toList) := by
    rcases h with h | h
    · obtain ⟨ts, -, h⟩ := bind_eq_ok.mp h
      split at h
      case h_1 | h_3 => cases h
      case h_2 =>
        split at h
        · cases h
        · obtain ⟨c, -, h⟩ := bind_eq_ok.mp h
          cases h
          rfl
    · obtain ⟨ts, -, h⟩ := bind_eq_ok.mp h
      split at h
      case h_1 => cases h
      case h_2 =>
        obtain ⟨c, -, h⟩ := bind_eq_ok.mp h
        cases h
        rfl
  rw [hsource, String.toList_ofList]

/-- Reading a query looks at the tokens of its text, and at nothing else but the trimmed text. -/
theorem read?_source (h : read? text = .ok q) : read? q.source = .ok q := by
  have hsource : q.source.toList = trim text.toList := toList_source (Or.inl h)
  obtain ⟨ts, hts, hq⟩ := bind_eq_ok.mp h
  refine bind_eq_ok.mpr ⟨ts, ?_, ?_⟩
  · rw [hsource]
    exact tokens?_trim hts
  · rw [hsource, trim_trim]
    exact hq

theorem readCondition?_source (h : readCondition? text = .ok q) :
    readCondition? q.source = .ok q := by
  have hsource : q.source.toList = trim text.toList := toList_source (Or.inr h)
  obtain ⟨ts, hts, hq⟩ := bind_eq_ok.mp h
  refine bind_eq_ok.mpr ⟨ts, ?_, ?_⟩
  · rw [hsource]
    exact tokens?_trim hts
  · rw [hsource, trim_trim]
    exact hq

/-- **Blanks separate tokens.** Where a text has tokens and blanks follow it, a second text is read
as it is by itself: it has the same tokens after those of the first, or the same error, at an offset
that counts the bytes before it. So the source that a query keeps, its text without the blanks
around it, is read as the same query. -/
theorem blanks_separate_tokens :
    (∀ (a w b : String) (ts : List Token), tokens? a.toList = .ok ts → w ≠ "" →
      (∀ c ∈ w.toList, isBlank c = true) →
        tokens? (a ++ w ++ b).toList = match tokens? b.toList with
          | .ok us => .ok (ts ++ us)
          | .error e => .error (e.shift (a ++ w).utf8ByteSize)) ∧
    ∀ (text : String) (q : Query),
      (read? text = .ok q → q.source.toList = trim text.toList ∧ read? q.source = .ok q) ∧
      (readCondition? text = .ok q →
        q.source.toList = trim text.toList ∧ readCondition? q.source = .ok q) := by
  refine ⟨fun a w b ts ha hne hw => ?_, fun text q =>
    ⟨fun h => ⟨toList_source (Or.inl h), read?_source h⟩,
      fun h => ⟨toList_source (Or.inr h), readCondition?_source h⟩⟩⟩
  have hlist : w.toList ≠ [] := fun h => hne (String.toList_eq_nil_iff.mp h)
  have happend : tokens? (a.toList ++ w.toList ++ b.toList) = _ :=
    tokens?_append_blanks ha hlist hw
  rw [← String.toList_append, String.ofList_toList] at happend
  rw [String.toList_append, happend]
  rcases tokens? b.toList with e | us <;> rfl

/-- A sign that is not complete, after a name and two blanks of four bytes; and a query between
blanks. -/
theorem blanks_separate_tokens_sign :
    tokens? "x\u3000\n=".toList = .error (.unexpectedCharacter '=' 5) ∧
      ∃ q : Query, read? " any where true\n" = .ok q ∧ q.source.toList = "any where true".toList ∧
        read? q.source = .ok q := by
  have hname : tokens? "x".toList = .ok [.identifier "x"] := by
    rw [← toOption_eq_some]
    decide +kernel
  have hblank : ∀ c ∈ "\u3000\n".toList, isBlank c = true := List.all_eq_true.mp rfl
  have hsign := blanks_separate_tokens.1 "x" "\u3000\n" "=" _ hname (by decide) hblank
  obtain ⟨q, hq⟩ : ∃ q, read? " any where true\n" = .ok q := exists_of_isOk (by decide +kernel)
  obtain ⟨hsource, hread⟩ := (blanks_separate_tokens.2 _ q).1 hq
  exact ⟨hsign, q, hq, hsource.trans (by decide), hread⟩

end Query

end Vigil
