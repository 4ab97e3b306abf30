import Vigil.Proofs.Query.Spelling

/-! # Literals as they are read again

The rendering of a literal is read as one literal token, whatever characters a text holds. It is not
always the same literal: quoting has escapes that the lexer does not know, and where a character is
quoted by one of those, the characters of the escape themselves become part of the text.

* `quoteChar_of_not_isPlain`: what the escapes have in common that the lexer does not know;
* `isPlain_iff`: which characters are read as themselves;
* `tokens?_render`: as what a literal is read again, and when it is the same. -/

namespace Vigil.Query

open Vigil.Text

variable {c : Char} {cs : List Char}

/-! ### Characters -/

instance : DecidablePred IsPlain := fun _ => instDecidableOr

/-- The characters that a character is read as, as it is quoted. -/
def rereadChar (c : Char) : List Char := if IsPlain c then [c] else quoteChar c

theorem unescaped_of_mem_hexDigits {n : Nat} (h : c ∈ hexDigits n) : c ≠ '"' ∧ c ≠ '\\' := by
  have hdigit : ∀ k < 16, Nat.digitChar k ≠ '"' ∧ Nat.digitChar k ≠ '\\' := by decide
  induction n using Nat.strongRecOn with
  | ind n ih =>
    rw [hexDigits, Nat.toDigits_eq_if (by decide)] at h
    split at h
    next hn =>
      rw [List.mem_singleton.mp h]
      exact hdigit n hn
    next hn =>
      rcases List.mem_append.mp h with h | h
      · exact ih (n / 16) (by omega) h
      · rw [List.mem_singleton.mp h]
        exact hdigit (n % 16) (by omega)

/-- The lexer knows none of the other escapes; what follows them is not read as an escape either. -/
theorem quoteChar_of_not_isPlain (h : ¬ IsPlain c) :
    ∃ d ds, quoteChar c = '\\' :: d :: ds ∧ unescape d = ['\\', d] ∧
      ∀ e ∈ ds, e ≠ '"' ∧ e ≠ '\\' := by
  simp only [IsPlain, List.mem_cons, List.not_mem_nil, or_false, not_or] at h
  obtain ⟨hself, hquote, hbackslash, hnewline, htab⟩ := h
  simp only [quoteChar, hquote, hbackslash, hnewline, htab, if_false] at hself ⊢
  split_ifs at hself ⊢ with hreturn hzero hhex
  · exact ⟨'r', [], rfl, rfl, by simp⟩
  · exact ⟨'0', [], rfl, rfl, by simp⟩
  · refine ⟨'u', '\x7b' :: (hexDigits c.toNat ++ ['\x7d']), rfl, rfl, fun e he => ?_⟩
    simp only [List.mem_cons, List.mem_append, List.not_mem_nil, or_false] at he
    rcases he with rfl | he | rfl
    · decide
    · exact unescaped_of_mem_hexDigits he
    · decide
  · exact absurd rfl hself

/-- The characters that are read as themselves are the printable ones that do not combine with the
one before them, the newline and the tab. -/
theorem isPlain_iff :
    IsPlain c ↔ c = '\n' ∨ c = '\t' ∨ extendsGrapheme c = false ∧ isPrintable c = true := by
  unfold IsPlain quoteChar
  split_ifs with hquote hbackslash hnewline htab hreturn hzero hhex
  · subst hquote
    decide
  · subst hbackslash
    decide
  · simp [hnewline]
  · simp [htab]
  · subst hreturn
    decide
  · have hprintable : isPrintable c = false := by simp [isPrintable, hzero]
    simp [hquote, hbackslash, hnewline, htab, hprintable]
  · have hnot : ¬ (extendsGrapheme c = false ∧ isPrintable c = true) := by
      rintro ⟨hextends, hprintable⟩
      simp [hextends, hprintable] at hhex
    simp [hquote, hbackslash, hnewline, htab, hnot]
  · simpa [hnewline, htab] using hhex

theorem reads_rereadChar (c : Char) (start : Nat) (before : List Char) :
    Reads (.text start before) (quoteChar c) [] (.text start ((rereadChar c).reverse ++ before)) := by
  by_cases h : IsPlain c
  · rw [rereadChar, if_pos h]
    exact reads_quoteChar h start before
  · obtain ⟨d, ds, hquote, hescape, hds⟩ := quoteChar_of_not_isPlain h
    have hread := (reads_unescape d start before).append (reads_unescaped hds start _)
    rw [rereadChar, if_neg h, hquote]
    simpa [hescape] using hread

/-- A text is read as it is where all its characters are: an escape of another character begins with
a backslash, which is none of those. -/
theorem flatMap_rereadChar_eq_self : cs.flatMap rereadChar = cs ↔ ∀ c ∈ cs, IsPlain c := by
  induction cs with
  | nil => simp
  | cons c cs ih =>
    rw [List.flatMap_cons, List.forall_mem_cons]
    by_cases h : IsPlain c
    · simp [rereadChar, h, ih]
    · obtain ⟨d, ds, hquote, -, -⟩ := quoteChar_of_not_isPlain h
      have hne : c ≠ '\\' := by
        rintro rfl
        exact h (by decide)
      simp [rereadChar, h, hquote, hne.symm]

/-! ### Literals -/

/-- The literal that the rendering of a literal is read as. -/
def Literal.reread : Literal → Literal
  | .text s => .text (String.ofList (s.toList.flatMap rereadChar))
  | v => v

theorem spells_reread (v : Literal) : Spells v.render.toList [.literal v.reread] := by
  cases v with
  | text s => exact spells_quoted_reread fun c _ => reads_rereadChar c
  | integer => exact spells_literal _ (by simp)
  | boolean => exact spells_literal _ (by simp)
  | null => exact spells_literal _ (by simp)

theorem reread_eq_self (v : Literal) :
    v.reread = v ↔ ∀ s, v = .text s → ∀ c ∈ s.toList, IsPlain c := by
  cases v with
  | text s => 
    have hlist : String.ofList (s.toList.flatMap rereadChar) = s ↔
        s.toList.flatMap rereadChar = s.toList := by
      rw [← String.toList_inj, String.toList_ofList]
    simp [Literal.reread, hlist, flatMap_rereadChar_eq_self]
  | integer => simp [Literal.reread]
  | boolean => simp [Literal.reread]
  | null => simp [Literal.reread]

/-- **Reading a rendered literal.** The rendering of any literal is read, and as one literal token. It
is the same literal if and only if every character of a text is a newline, a tab or a printable character
that does not combine with the one before it. -/
theorem tokens?_render (v : Literal) :
    tokens? v.render.toList = .ok [.literal v.reread] ∧
      (v.reread = v ↔ ∀ s, v = .text s → ∀ c ∈ s.toList,
        c = '\n' ∨ c = '\t' ∨ extendsGrapheme c = false ∧ isPrintable c = true) := by
  refine ⟨tokens?_of_spells (spells_reread v), ?_⟩
  rw [reread_eq_self]
  simp only [isPlain_iff]

/-- A carriage return is read again as a backslash and a letter. -/
theorem tokens?_render_carriageReturn :
    tokens? (Literal.text "\r").render.toList = .ok [.literal (.text "\\r")] ∧
      tokens? (Literal.text "\r").render.toList ≠ .ok [.literal (.text "\r")] := by
  have hread : tokens? (Literal.text "\r").render.toList = .ok [.literal (.text "\\r")] := rfl
  refine ⟨hread, ?_⟩
  rw [hread]
  decide

end Vigil.Query
