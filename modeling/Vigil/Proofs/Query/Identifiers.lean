import Vigil.Proofs.Query.Spelling

/-! # Identifiers

The identifiers among the tokens of a text are words (`IsIdentifier`), so that each is read again as
itself. This is kept by every step of the lexer (`LexerState.KeepsWords`).

* `LexerState.KeepsWords.step`: one character;
* `isIdentifier_of_mem_tokens`: a whole text. -/

namespace Vigil.Query

open Vigil.Text

variable {s s' : LexerState} {cs : List Char} {c : Char} {t : Token} {name : String}

/-- Names that are written as words and are no keywords. -/
def IsIdentifier (name : String) : Prop :=
  IsWord name.toList ∧ wordToken name.toList = .identifier name

theorem spells_identifier (h : IsIdentifier name) : Spells name.toList [.identifier name] := by
  rw [← h.2]
  exact spells_word h.1

theorem continuesWord_of_mem_stem (h : isStem cs = true) (hc : c ∈ cs) : continuesWord c = true := by
  rcases cs with _ | ⟨d, cs⟩
  · cases hc
  simp only [isStem, Bool.and_eq_true, List.all_eq_true] at h
  obtain ⟨⟨-, hfirst⟩, hothers⟩ := h
  rcases List.mem_cons.mp hc with rfl | hc
  · rw [beginsWord, Bool.or_eq_true] at hfirst
    rcases hfirst with hletter | hunderscore
    · simp [continuesWord, isAlphanumeric, hletter]
    · simp [continuesWord, hunderscore]
  · exact hothers c hc

/-- The characters of an identifier are those that words go on with, and a tilde. -/
theorem IsIdentifier.continuesWord (h : IsIdentifier name) (hc : c ∈ name.toList) :
    continuesWord c = true ∨ c = '~' := by
  rcases h.1 with hword | ⟨stem, hname, hword⟩
  · exact Or.inl (continuesWord_of_mem_stem hword hc)
  · rw [hname, List.mem_append, List.mem_singleton] at hc
    exact hc.imp_left (continuesWord_of_mem_stem hword)

theorem wordToken_eq_identifier (h : wordToken cs = .identifier name) :
    name = String.ofList cs := by
  unfold wordToken at h
  split at h <;> cases h
  rfl

theorem isIdentifier_of_wordToken (hcs : IsWord cs) (h : wordToken cs = .identifier name) :
    IsIdentifier name := by
  obtain rfl := wordToken_eq_identifier h
  exact ⟨by rwa [String.toList_ofList], by rwa [String.toList_ofList]⟩

theorem isStem_append_singleton (h : isStem cs = true) (hc : continuesWord c = true) :
    isStem (cs ++ [c]) = true := by
  rcases cs with _ | ⟨d, cs⟩
  · cases h
  · simp only [isStem, Bool.and_eq_true] at h
    simp [isStem, h, hc]

namespace LexerState

/-- Whether the identifiers that are complete are words, and a word that is not may become one. -/
structure KeepsWords (s : LexerState) : Prop where
  complete : ∀ name, .identifier name ∈ s.complete → IsIdentifier name
  pending : ∀ before, s.pending = .word before → isStem before.reverse = true

theorem KeepsWords.await {p : Pending} (h : s.KeepsWords)
    (hp : ∀ before, p = .word before → isStem before.reverse = true) :
    KeepsWords { s with pending := p } := ⟨h.complete, hp⟩

theorem KeepsWords.emit (h : s.KeepsWords) (ht : ∀ name, t = .identifier name → IsIdentifier name) :
    (s.emit t).KeepsWords where
  complete := by
    intro name hname
    rcases List.mem_cons.mp hname with hname | hname
    · exact ht name hname.symm
    · exact h.complete name hname
  pending := by
    rintro before ⟨⟩

theorem KeepsWords.emit_word (h : s.KeepsWords) (hcs : IsWord cs) :
    (s.emit (wordToken cs)).KeepsWords :=
  h.emit fun _ => isIdentifier_of_wordToken hcs

theorem KeepsWords.close (h : s.KeepsWords) (hclose : s.close = .ok s') : s'.KeepsWords := by
  unfold LexerState.close at hclose
  split at hclose
  case h_1 before hpending =>
    split at hclose
    · cases hclose
      exact h.emit (by rintro name ⟨⟩)
    · cases hclose
  case h_2 before hpending =>
    cases hclose
    exact h.emit_word (Or.inl (h.pending before hpending))
  case h_3 =>
    cases hclose
    exact h

theorem KeepsWords.begin (h : s.KeepsWords) (hbegin : s.begin c = .ok s') : s'.KeepsWords := by
  have hbegins : Begins s c (.ok s') := hbegin ▸ begins_begin s c
  cases hbegins with
  | blank | equality | quote | number => exact h.await (by rintro before ⟨⟩)
  | sign ht =>
    refine h.emit ?_
    rintro name rfl
    simp at ht
  | word hblank hdigit hword =>
    refine h.await ?_
    rintro before ⟨⟩
    simp [isStem, hblank, hdigit, hword]

theorem KeepsWords.read (h : s.KeepsWords) (hread : s.read c = .ok s') : s'.KeepsWords := by
  unfold LexerState.read at hread
  split at hread
  case h_1 => exact h.begin hread
  case h_2 sign start hpending =>
    split at hread
    · cases hread
      exact h.emit (by rintro name ⟨⟩)
    · cases hread
  case h_3 start before hpending =>
    split_ifs at hread <;> cases hread
    · exact h.emit (by rintro name ⟨⟩)
    · exact h.await (by rintro before ⟨⟩)
    · exact h.await (by rintro before ⟨⟩)
  case h_4 start before hpending =>
    cases hread
    exact h.await (by rintro before ⟨⟩)
  case h_5 before hpending =>
    split at hread
    · cases hread
      exact h.await (by rintro before ⟨⟩)
    · obtain ⟨s₁, hclose, hbegin⟩ := bind_eq_ok.mp hread
      exact (h.close hclose).begin hbegin
  case h_6 before hpending =>
    have hstem := h.pending before hpending
    split at hread
    case isTrue hword =>
      cases hread
      refine h.await ?_
      rintro _ ⟨⟩
      rw [List.reverse_cons]
      exact isStem_append_singleton hstem hword
    case isFalse hword =>
      split at hread
      case isTrue htilde =>
        cases hread
        obtain rfl := eq_of_beq htilde
        exact h.emit_word (Or.inr ⟨before.reverse, by simp, hstem⟩)
      case isFalse htilde =>
        obtain ⟨s₁, hclose, hbegin⟩ := bind_eq_ok.mp hread
        exact (h.close hclose).begin hbegin

/-- One character keeps identifiers words. -/
theorem KeepsWords.step (h : s.KeepsWords) (hstep : s.step c = .ok s') : s'.KeepsWords := by
  obtain ⟨s₁, hread, rfl⟩ := map_eq_ok.mp hstep
  have hs₁ := h.read hread
  exact ⟨hs₁.complete, hs₁.pending⟩

theorem KeepsWords.run (h : s.KeepsWords) (hrun : cs.foldlM LexerState.step s = .ok s') :
    s'.KeepsWords := by
  induction cs generalizing s with
  | nil =>
    cases hrun
    exact h
  | cons c cs ih =>
    obtain ⟨s₁, hstep, hrest⟩ := bind_eq_ok.mp hrun
    exact ih (h.step hstep) hrest

end LexerState

/-- **Identifiers.** The identifiers among the tokens of a text are words. -/
theorem isIdentifier_of_mem_tokens {text : List Char} {ts : List Token} (h : tokens? text = .ok ts)
    (hname : .identifier name ∈ ts) : IsIdentifier name := by
  obtain ⟨s, hrun, hfinish⟩ := bind_eq_ok.mp h
  have hs : s.KeepsWords := by
    refine LexerState.KeepsWords.run ⟨?_, ?_⟩ hrun
    · rintro name ⟨⟩
    · rintro before ⟨⟩
  have hend : ∃ s', s.close = .ok s' ∧ s'.complete.reverse = ts := by
    unfold LexerState.finish at hfinish
    split at hfinish
    case h_4 => exact map_eq_ok.mp hfinish
    all_goals cases hfinish
  obtain ⟨s', hclose, rfl⟩ := hend
  exact (hs.close hclose).complete name (List.mem_reverse.mp hname)

end Vigil.Query
