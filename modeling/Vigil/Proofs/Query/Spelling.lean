import Mathlib.Data.List.Basic
import Vigil.Proofs.Int64
import Vigil.Proofs.Results
import Vigil.Proofs.Text.Digits
import Vigil.Query.Lexer
import Vigil.Text.Quoted

/-! # How tokens are spelled

`Reads p cs ts q` says what the lexer does with a text: where `p` is pending, reading `cs` completes
the tokens `ts` and leaves `q` pending. A text spells tokens (`Spells`) when it is read so between
tokens, and the last of them is complete or a word or number that the next character ends (`Ends`).

* `begins_begin`, `read_of_closes`: what comes of a character between tokens, and of one that ends a
  word or number;
* `tokens?_of_spells`: what a text spells are its tokens;
* `Spells.append`: texts can be joined where a blank or a sign keeps them apart;
* `spells_word`, `spells_integer`, `spells_quoted`: the spelling of words, numbers and quoted
  texts. -/

namespace Vigil.Query

open Vigil.Text

variable {p q r : Pending} {cs ds : List Char} {ts us : List Token} {c d : Char} {t : Token}

/-! ### Reading -/

/-- Whether reading a text takes what is pending from `p` to `q` and completes some tokens. -/
def Reads (p : Pending) (cs : List Char) (ts : List Token) (q : Pending) : Prop :=
  ∀ s : LexerState, s.pending = p → ∃ s', cs.foldlM LexerState.step s = .ok s' ∧
    s'.pending = q ∧ s'.complete = ts.reverse ++ s.complete

theorem Reads.nil : Reads p [] [] p := by
  intro s hs
  exact ⟨s, rfl, hs, rfl⟩

theorem Reads.append (h : Reads p cs ts q) (h' : Reads q ds us r) :
    Reads p (cs ++ ds) (ts ++ us) r := by
  intro s hs
  obtain ⟨s₁, hread₁, hs₁, hcomplete₁⟩ := h s hs
  obtain ⟨s₂, hread₂, hs₂, hcomplete₂⟩ := h' s₁ hs₁
  refine ⟨s₂, ?_, hs₂, by simp [hcomplete₂, hcomplete₁]⟩
  rw [List.foldlM_append, hread₁]
  exact hread₂

/-- A character that is read takes the lexer on to the others. -/
theorem foldlM_cons_of_read {s s' : LexerState} (h : s.read c = .ok s') :
    (c :: cs).foldlM LexerState.step s =
      cs.foldlM LexerState.step { s' with offset := s'.offset + c.utf8Size } := by
  rw [List.foldlM_cons, LexerState.step, h]
  rfl

theorem foldlM_cons_of_error {s : LexerState} {e : QueryError} (h : s.read c = .error e) :
    (c :: cs).foldlM LexerState.step s = .error e := by
  rw [List.foldlM_cons, LexerState.step, h]
  rfl

/-- A text is read as its first character leaves what is pending for the others. -/
theorem Reads.cons (ts : List Token) (h : ∀ s : LexerState, s.pending = p → ∃ q,
      s.read c = .ok { s with complete := ts.reverse ++ s.complete, pending := q } ∧
      Reads q cs us r) :
    Reads p (c :: cs) (ts ++ us) r := by
  intro s hs
  obtain ⟨q, hread, hcs⟩ := h s hs
  obtain ⟨s', hread', hs', hcomplete'⟩ :=
    hcs ⟨s.offset + c.utf8Size, ts.reverse ++ s.complete, q⟩ rfl
  refine ⟨s', ?_, hs', by simp [hcomplete']⟩
  rw [foldlM_cons_of_read hread]
  exact hread'

theorem reads_char (h : ∀ s : LexerState, s.pending = p →
      s.read c = .ok { s with complete := ts.reverse ++ s.complete, pending := q }) :
    Reads p [c] ts q := by
  rw [← List.append_nil ts]
  exact Reads.cons ts fun s hs => ⟨q, h s hs, Reads.nil⟩

theorem reads_of_begin (h : ∀ s : LexerState,
      s.begin c = .ok { s with complete := ts.reverse ++ s.complete, pending := q }) :
    Reads .nothing [c] ts q :=
  reads_char fun s hs => by rw [← h s, LexerState.read, hs]

/-- Pieces of a text that each add some characters to what is pending. -/
theorem Reads.flatMap {P : List Char → Pending} {w r : Char → List Char}
    (h : ∀ c ∈ cs, ∀ before, Reads (P before) (w c) [] (P ((r c).reverse ++ before)))
    (before : List Char) :
    Reads (P before) (cs.flatMap w) [] (P ((cs.flatMap r).reverse ++ before)) := by
  induction cs generalizing before with
  | nil => exact Reads.nil
  | cons c cs ih =>
    have hc := h c List.mem_cons_self before
    have hcs := ih (fun d hd => h d (List.mem_cons_of_mem c hd)) ((r c).reverse ++ before)
    simpa using hc.append hcs

/-- Characters that are each added to what is pending. -/
theorem reads_chars {P : List Char → Pending}
    (h : ∀ c ∈ cs, ∀ (s : LexerState) (before : List Char),
      s.pending = P before → s.read c = .ok { s with pending := P (c :: before) })
    (before : List Char) :
    Reads (P before) cs [] (P (cs.reverse ++ before)) := by
  have hflat := Reads.flatMap (w := fun c => [c]) (r := fun c => [c])
    (fun c hc before => reads_char fun s hs => h c hc s before hs) before
  simpa using hflat

/-! ### First characters -/

/-- Whether a character is a blank or one that tokens begin with. -/
def IsKnown (c : Char) : Prop :=
  isBlank c = true ∨ c ∈ ['(', ')', ',', ':', '=', '!', '"', '-'] ∨ c.isDigit = true ∨
    beginsWord c = true

/-- What comes of a character between tokens: a blank is skipped, a sign of one character is complete,
and every other known character leaves a token pending. -/
inductive Begins (s : LexerState) (c : Char) : Except QueryError LexerState → Prop
  | blank (h : isBlank c = true) : Begins s c (.ok { s with pending := .nothing })
  | sign {t : Token} (h : t ∈ [.opening, .closing, .comma, .comparison .similar]) :
    Begins s c (.ok (s.emit t))
  | equality (h : c = '=' ∨ c = '!') : Begins s c (.ok { s with pending := .sign c s.offset })
  | quote (h : c = '"') : Begins s c (.ok { s with pending := .text s.offset [] })
  | number (h : c.isDigit = true ∨ c = '-') : Begins s c (.ok { s with pending := .number [c] })
  | word (hblank : isBlank c = false) (hdigit : c.isDigit = false) (h : beginsWord c = true) :
    Begins s c (.ok { s with pending := .word [c] })
  | unknown (h : ¬ IsKnown c) : Begins s c (.error (.unexpectedCharacter c s.offset))

theorem begins_begin (s : LexerState) (c : Char) : Begins s c (s.begin c) := by
  unfold LexerState.begin
  split_ifs with hblank hopening hclosing hcomma hsimilar hequality hquote hnumber hword
  · exact .blank hblank
  iterate 4 exact .sign (by simp)
  · exact .equality (by simpa using hequality)
  · exact .quote (by simpa using hquote)
  · exact .number (by simpa using hnumber)
  · simp only [Bool.or_eq_true, not_or, Bool.not_eq_true] at hblank hnumber
    exact .word hblank hnumber.1 hword
  · refine .unknown ?_
    simp_all [IsKnown]

/-- The signs that are tokens or begin one, the minus excepted. -/
def signs : List Char := ['(', ')', ',', ':', '=', '!', '"']

/-- A character that is neither a blank nor a sign begins a number or a word, or is unknown. -/
theorem begin_of_not_mem_signs (hblank : isBlank c = false) (hsigns : c ∉ signs) (s : LexerState) :
    s.begin c = if c.isDigit || c == '-' then .ok { s with pending := .number [c] }
      else if beginsWord c then .ok { s with pending := .word [c] }
      else .error (.unexpectedCharacter c s.offset) := by
  simp only [signs, List.mem_cons, List.not_mem_nil, or_false, not_or] at hsigns
  simp [LexerState.begin, hblank, hsigns]

theorem begin_of_unknown (h : ¬ IsKnown c) (s : LexerState) :
    s.begin c = .error (.unexpectedCharacter c s.offset) := by
  simp only [IsKnown, List.mem_cons, List.not_mem_nil, or_false, not_or, Bool.not_eq_true] at h
  obtain ⟨hblank, hsigns, hdigit, hword⟩ := h
  rw [begin_of_not_mem_signs hblank (by simp [signs, hsigns])]
  simp [hsigns, hdigit, hword]

/-! ### Words and numbers that end -/

/-- The tokens that are completed when a word or number ends. -/
inductive Pending.Closes : Pending → List Token → Prop
  | nothing : Closes .nothing []
  | word (before : List Char) : Closes (.word before) [wordToken before.reverse]
  | number {before : List Char} {i : Int64} (h : integer? before.reverse = some i) :
    Closes (.number before) [.literal (.integer i)]

/-- Characters that neither words nor numbers go on with. -/
def Ends (c : Char) : Prop := c.isDigit = false ∧ continuesWord c = false ∧ c ≠ '~'

instance : DecidablePred Ends := fun _ => instDecidableAnd

theorem close_of_closes {s : LexerState} (h : s.pending.Closes ts) :
    s.close = .ok { s with complete := ts.reverse ++ s.complete, pending := .nothing } := by
  obtain ⟨offset, complete, pending⟩ := s
  cases h with
  | nothing => rfl
  | word before => rfl
  | number h =>
    simp only [LexerState.close, h]
    rfl

theorem finish_of_closes {s : LexerState} (h : s.pending.Closes ts) :
    s.finish = .ok (s.complete.reverse ++ ts) := by
  have hfinish : s.finish = s.close.map fun s => s.complete.reverse := by
    obtain ⟨offset, complete, pending⟩ := s
    cases h <;> rfl
  simp [hfinish, close_of_closes h, Except.map]

/-- Whether a character goes on with the word or number that is pending. -/
def Pending.GoesOn (c : Char) : Pending → Prop
  | .number _ => c.isDigit = true
  | .word _ => continuesWord c = true ∨ c = '~'
  | _ => False

theorem Ends.not_goesOn (hc : Ends c) : ¬ p.GoesOn c := by
  obtain ⟨hdigit, hword, htilde⟩ := hc
  cases p with
  | number => simp [Pending.GoesOn, hdigit]
  | word => simp [Pending.GoesOn, hword, htilde]
  | nothing | sign | text | escape => exact id

/-- A character that does not go on with what is pending is read as it is between tokens. -/
theorem read_of_closes {s : LexerState} (hp : s.pending.Closes ts) (hc : ¬ s.pending.GoesOn c) :
    s.read c = LexerState.begin ⟨s.offset, ts.reverse ++ s.complete, .nothing⟩ c := by
  have hread : s.read c = s.close.bind fun s => s.begin c := by
    obtain ⟨offset, complete, pending⟩ := s
    cases hp with
    | nothing => rfl
    | word before =>
      obtain ⟨hword, htilde⟩ := not_or.mp hc
      simp [LexerState.read, hword, htilde]
    | number =>
      have hdigit : ¬ c.isDigit = true := hc
      simp [LexerState.read, hdigit]
  rw [hread, close_of_closes hp]
  rfl

/-- A character that ends what is pending is read as it is between tokens. -/
theorem Pending.Closes.reads (hp : p.Closes ts) (hc : Ends c)
    (h : Reads .nothing (c :: cs) us q) : Reads p (c :: cs) (ts ++ us) q := by
  rintro s rfl
  obtain ⟨s', hread', hs', hcomplete'⟩ := h ⟨s.offset, ts.reverse ++ s.complete, .nothing⟩ rfl
  refine ⟨s', ?_, hs', by simp [hcomplete']⟩
  rw [← hread', List.foldlM_cons, List.foldlM_cons, LexerState.step,
    read_of_closes hp hc.not_goesOn]
  rfl

/-! ### Spelling -/

/-- **Spelling.** Whether a text, read between tokens, makes some tokens. -/
def Spells (cs : List Char) (ts : List Token) : Prop :=
  ∃ us vs q, ts = us ++ vs ∧ Reads .nothing cs us q ∧ q.Closes vs

theorem Reads.spells (h : Reads .nothing cs ts q) (hq : q.Closes us) : Spells cs (ts ++ us) :=
  ⟨ts, us, q, rfl, h, hq⟩

theorem spells_nil : Spells [] [] := Reads.nil.spells .nothing

/-- The tokens of a text are those that it spells. -/
theorem tokens?_of_spells (h : Spells cs ts) : tokens? cs = .ok ts := by
  obtain ⟨us, vs, q, rfl, hread, hq⟩ := h
  obtain ⟨s, hs, hpending, hcomplete⟩ := hread {} rfl
  have hfinish := finish_of_closes (hpending.symm ▸ hq)
  rw [tokens?, hs]
  simpa [hcomplete, Except.bind] using hfinish

theorem Reads.append_spells (h : Reads .nothing cs ts .nothing) (h' : Spells ds us) :
    Spells (cs ++ ds) (ts ++ us) := by
  obtain ⟨us, vs, q, rfl, hread, hq⟩ := h'
  rw [← List.append_assoc]
  exact (h.append hread).spells hq

/-- Texts are joined where the second begins with a character that ends the first. -/
theorem Spells.append (h : Spells cs ts) (hd : Ends d) (h' : Spells (d :: ds) us) :
    Spells (cs ++ d :: ds) (ts ++ us) := by
  obtain ⟨ts, ts', q, rfl, hread, hq⟩ := h
  obtain ⟨us, us', r, rfl, hread', hr⟩ := h'
  have hspells := (hread.append (hq.reads hd hread')).spells hr
  simpa using hspells

/-! ### Blanks and signs -/

theorem Spells.blank (h : Spells cs ts) : Spells (' ' :: cs) ts := by
  have hblank : Reads .nothing [' '] [] .nothing :=
    reads_of_begin fun s => by simp [LexerState.begin, isBlank]
  exact hblank.append_spells h

/-- A sign that is complete by itself. -/
theorem Spells.sign (hbegin : ∀ s : LexerState, s.begin c = .ok (s.emit t)) (h : Spells cs ts) :
    Spells (c :: cs) (t :: ts) := by
  have hsign : Reads .nothing [c] [t] .nothing := reads_of_begin hbegin
  exact hsign.append_spells h

theorem Spells.opening (h : Spells cs ts) : Spells ('(' :: cs) (.opening :: ts) :=
  h.sign fun s => by simp [LexerState.begin, isBlank]

theorem Spells.closing (h : Spells cs ts) : Spells (')' :: cs) (.closing :: ts) :=
  h.sign fun s => by simp [LexerState.begin, isBlank]

theorem Spells.comma (h : Spells cs ts) : Spells (',' :: cs) (.comma :: ts) :=
  h.sign fun s => by simp [LexerState.begin, isBlank]

/-- The signs that an equality sign completes. -/
theorem reads_equality (hc : c = '=' ∨ c = '!') :
    Reads .nothing [c, '='] [.comparison (if c == '=' then .equal else .unequal)] .nothing := by
  refine Reads.cons [] fun s hs => ⟨.sign c s.offset, ?_, reads_char fun s' hs' => ?_⟩
  · rcases hc with rfl | rfl <;> simp [LexerState.read, hs, LexerState.begin, isBlank]
  · simp [LexerState.read, hs', LexerState.emit]

theorem Spells.comparison (comparison : Comparison) (h : Spells cs ts) :
    Spells (comparison.sign.toList ++ cs) (.comparison comparison :: ts) := by
  cases comparison with
  | equal => exact (reads_equality (Or.inl rfl)).append_spells h
  | unequal => exact (reads_equality (Or.inr rfl)).append_spells h
  | similar =>
    have hsimilar : Spells (':' :: cs) (.comparison .similar :: ts) :=
      h.sign fun s => by simp [LexerState.begin, isBlank]
    exact hsimilar

/-! ### Words -/

/-- Words that no tilde ends. -/
def isStem : List Char → Bool
  | [] => false
  | c :: cs => !isBlank c && !c.isDigit && beginsWord c && cs.all continuesWord

/-- Words, with a tilde at the end or without. -/
def IsWord (cs : List Char) : Prop :=
  isStem cs = true ∨ ∃ stem, cs = stem ++ ['~'] ∧ isStem stem = true

theorem begin_of_beginsWord (hblank : isBlank c = false) (hdigit : c.isDigit = false)
    (h : beginsWord c = true) (s : LexerState) :
    s.begin c = .ok { s with pending := .word [c] } := by
  have hword : ('-' :: signs).all (fun d => !beginsWord d) = true := by decide
  have hsigns : c ∉ '-' :: signs := fun hc => by simpa [h] using List.all_eq_true.mp hword c hc
  obtain ⟨hminus, hsigns⟩ := List.ne_and_not_mem_of_not_mem_cons hsigns
  rw [begin_of_not_mem_signs hblank hsigns]
  simp [hdigit, hminus, h]

theorem reads_stem (h : isStem cs = true) : Reads .nothing cs [] (.word cs.reverse) := by
  rcases cs with _ | ⟨c, cs⟩
  · cases h
  simp only [isStem, Bool.and_eq_true, Bool.not_eq_true', List.all_eq_true] at h
  obtain ⟨⟨⟨hblank, hdigit⟩, hc⟩, hcs⟩ := h
  have hfirst : Reads .nothing [c] [] (.word [c]) :=
    reads_of_begin (begin_of_beginsWord hblank hdigit hc)
  have hrest : Reads (.word [c]) cs [] (.word (cs.reverse ++ [c])) :=
    reads_chars (fun d hd s before hs => by simp [LexerState.read, hs, hcs d hd]) [c]
  simpa using hfirst.append hrest

theorem spells_word (h : IsWord cs) : Spells cs [wordToken cs] := by
  rcases h with h | ⟨stem, rfl, h⟩
  · simpa using (reads_stem h).spells (.word cs.reverse)
  · have hword : continuesWord '~' = false := by decide
    have htilde : Reads (.word stem.reverse) ['~'] [wordToken (stem ++ ['~'])] .nothing :=
      reads_char fun s hs => by simp [LexerState.read, hs, hword, LexerState.emit]
    simpa using ((reads_stem h).append htilde).spells .nothing

/-! ### Numbers -/

theorem begin_of_isDigit (h : c.isDigit = true ∨ c = '-') (s : LexerState) :
    s.begin c = .ok { s with pending := .number [c] } := by
  rcases h with h | rfl
  · have hn : 48 ≤ c.toNat ∧ c.toNat ≤ 57 := bounds_of_isDigit h
    have hblank : isBlank c = false := by
      simp only [isBlank, Bool.or_eq_false_iff, Bool.and_eq_false_iff, decide_eq_false_iff_not,
        beq_eq_false_iff_ne]
      omega
    have hdigit : signs.all (fun d => !d.isDigit) = true := by decide
    have hsigns : c ∉ signs := fun hc => by simpa [h] using List.all_eq_true.mp hdigit c hc
    rw [begin_of_not_mem_signs hblank hsigns]
    simp [h]
  · simp [LexerState.begin, isBlank]

/-- Digits, after a minus or not, are read as one number. -/
theorem reads_number (hc : c.isDigit = true ∨ c = '-') (hcs : ∀ d ∈ cs, d.isDigit = true) :
    Reads .nothing (c :: cs) [] (.number (c :: cs).reverse) := by
  have hfirst : Reads .nothing [c] [] (.number [c]) := reads_of_begin (begin_of_isDigit hc)
  have hrest : Reads (.number [c]) cs [] (.number (cs.reverse ++ [c])) :=
    reads_chars (fun d hd s before hs => by simp [LexerState.read, hs, hcs d hd]) [c]
  simpa using hfirst.append hrest

theorem reads_toString (n : Int) :
    Reads .nothing (toString n).toList [] (.number (toString n).toList.reverse) := by
  obtain ⟨c, cs, hchars, hc, hcs⟩ := exists_toList_toString_int n
  rw [hchars]
  exact reads_number hc hcs

theorem integer?_of_isDigit (hcs : ∀ d ∈ cs, d.isDigit = true) (hne : cs ≠ []) :
    integer? cs = if decimalValue cs < Nat.pow 2 63 then some (Int64.ofInt (decimalValue cs))
      else none := by
  unfold integer?
  split
  case h_1 => exact absurd rfl hne
  case h_2 => exact absurd (hcs '-' (by simp)) (by decide)
  case h_3 => exact absurd (hcs '-' (by simp)) (by decide)
  case h_4 => rfl

theorem integer?_minus (hne : cs ≠ []) :
    integer? ('-' :: cs) = if decimalValue cs ≤ Nat.pow 2 63 then
      some (Int64.ofInt (-(decimalValue cs : Int))) else none := by
  obtain ⟨d, ds, rfl⟩ := List.exists_cons_of_ne_nil hne
  rfl

/-- An integer as it is written denotes itself, if it fits. -/
theorem integer?_toString (n : Int) : integer? (toString n).toList =
    if FitsInt64 n then some (Int64.ofInt n) else none := by
  have hlimit : Nat.pow 2 63 = 2 ^ 63 := rfl
  have hne : Nat.toDigits 10 n.natAbs ≠ [] := Nat.toDigits_ne_nil
  rw [toList_toString_int]
  by_cases hn : n < 0
  · have hsize : (n.natAbs : Int) = -n := Int.ofNat_natAbs_of_nonpos (Int.le_of_lt hn)
    rw [if_pos hn, List.singleton_append, integer?_minus hne, decimalValue_toDigits, hsize,
      Int.neg_neg]
    exact if_congr (by unfold FitsInt64; omega) rfl rfl
  · have hsize : (n.natAbs : Int) = n := Int.natAbs_of_nonneg (Int.not_lt.mp hn)
    rw [if_neg hn, List.nil_append, integer?_of_isDigit (fun d => isDigit_of_mem_toDigits) hne,
      decimalValue_toDigits, hsize]
    exact if_congr (by unfold FitsInt64; omega) rfl rfl

/-- A number as it is written. -/
theorem spells_integer (i : Int64) :
    Spells (Literal.integer i).render.toList [.literal (.integer i)] := by
  have hi : integer? (toString i.toInt).toList = some i := by
    rw [integer?_toString, if_pos (fitsInt64_toInt i), Int64.ofInt_toInt]
  have hcloses : Pending.Closes (.number (toString i.toInt).toList.reverse) [.literal (.integer i)] :=
    .number (by rwa [List.reverse_reverse])
  exact (reads_toString i.toInt).spells hcloses

/-! ### Quoted texts -/

/-- Characters that are quoted as themselves or by one of the escapes that the lexer knows. -/
def IsPlain (c : Char) : Prop := quoteChar c = [c] ∨ c ∈ ['"', '\\', '\n', '\t']

theorem reads_unescape (d : Char) (start : Nat) (before : List Char) :
    Reads (.text start before) ['\\', d] [] (.text start ((unescape d).reverse ++ before)) := by
  refine Reads.cons [] fun s hs => ⟨.escape start before, ?_, reads_char fun s' hs' => ?_⟩
  · simp [LexerState.read, hs]
  · simp [LexerState.read, hs']

theorem reads_escape {start : Nat} {before : List Char} (h : unescape d = [c]) :
    Reads (.text start before) ['\\', d] [] (.text start (c :: before)) := by
  simpa [h] using reads_unescape d start before

/-- Characters between quotes that are neither a quote nor a backslash. -/
theorem reads_unescaped (h : ∀ c ∈ cs, c ≠ '"' ∧ c ≠ '\\') (start : Nat) (before : List Char) :
    Reads (.text start before) cs [] (.text start (cs.reverse ++ before)) := by
  refine reads_chars (P := .text start) (fun c hc s before hs => ?_) before
  obtain ⟨hquote, hbackslash⟩ := h c hc
  simp [LexerState.read, hs, hquote, hbackslash]

theorem reads_quoteChar (h : IsPlain c) (start : Nat) (before : List Char) :
    Reads (.text start before) (quoteChar c) [] (.text start (c :: before)) := by
  rcases h with h | h
  · have hquote : c ≠ '"' := by
      rintro rfl
      exact absurd h (by decide)
    have hbackslash : c ≠ '\\' := by
      rintro rfl
      exact absurd h (by decide)
    have hchar : ∀ d ∈ [c], d ≠ '"' ∧ d ≠ '\\' := by simpa using ⟨hquote, hbackslash⟩
    rw [h]
    exact reads_unescaped hchar start before
  · simp only [List.mem_cons, List.not_mem_nil, or_false] at h
    rcases h with rfl | rfl | rfl | rfl
    · exact reads_escape (d := '"') rfl
    · exact reads_escape (d := '\\') rfl
    · exact reads_escape (d := 'n') rfl
    · exact reads_escape (d := 't') rfl

/-- Between quotes, a text is read as the characters that its own are read as. -/
theorem reads_quoted {w r : Char → List Char}
    (h : ∀ c ∈ cs, ∀ start before,
      Reads (.text start before) (w c) [] (.text start ((r c).reverse ++ before))) :
    Reads .nothing ('"' :: (cs.flatMap w ++ ['"']))
      [.literal (.text (String.ofList (cs.flatMap r)))] .nothing := by
  have hopen (start : Nat) : Reads (.text start []) (cs.flatMap w ++ ['"'])
      [.literal (.text (String.ofList (cs.flatMap r)))] .nothing := by
    have hchars := Reads.flatMap (fun c hc => h c hc start) []
    have hclose : Reads (.text start ((cs.flatMap r).reverse ++ [])) ['"']
        [.literal (.text (String.ofList (cs.flatMap r)))] .nothing :=
      reads_char fun state hstate => by simp [LexerState.read, hstate, LexerState.emit]
    exact hchars.append hclose
  refine Reads.cons [] fun state hstate => ⟨.text state.offset [], ?_, hopen _⟩
  simp [LexerState.read, hstate, LexerState.begin, isBlank]

/-- A quoted text spells the one that its characters, as they are quoted, are read as. -/
theorem spells_quoted_reread {s : String} {r : Char → List Char}
    (h : ∀ c ∈ s.toList, ∀ start before,
      Reads (.text start before) (quoteChar c) [] (.text start ((r c).reverse ++ before))) :
    Spells (quoted s).toList [.literal (.text (String.ofList (s.toList.flatMap r)))] := by
  rw [quoted, String.toList_ofList, ← List.append_nil [_]]
  exact (reads_quoted h).spells .nothing

theorem spells_quoted {s : String} (h : ∀ c ∈ s.toList, IsPlain c) :
    Spells (quoted s).toList [.literal (.text s)] := by
  have hquoted := spells_quoted_reread (r := fun c => [c]) fun c hc => reads_quoteChar (h c hc)
  simpa using hquoted

/-- A literal as it is written. -/
theorem spells_literal (v : Literal) (h : ∀ s, v = .text s → ∀ c ∈ s.toList, IsPlain c) :
    Spells v.render.toList [.literal v] := by
  cases v with
  | text s => exact spells_quoted (h s rfl)
  | integer i => exact spells_integer i
  | boolean b =>
    cases b with
    | true =>
      have htrue : IsWord "true".toList := Or.inl (by decide)
      exact spells_word htrue
    | false =>
      have hfalse : IsWord "false".toList := Or.inl (by decide)
      exact spells_word hfalse
  | null =>
    have hnull : IsWord "null".toList := Or.inl (by decide)
    exact spells_word hnull

end Vigil.Query
