import Vigil.Json.Reader
import Vigil.Proofs.Results

/-! # Where texts and numbers end

The readers of texts and numbers stop at a place that does not depend on what they make of them, so
that those that pass over them stop there as well.

* `textFrom_rest`, `skipText_rest`: what is left after a text (`afterText`);
* `number?_rest`, `skipNumber_rest`: what is left after a number (`afterNumber`). -/

namespace Vigil.Json

open Vigil.Decimal Vigil.Text

variable {cs rest : List Char} {n fuel : Nat}

/-! ### Where texts end -/

/-- What is left after a text whose opening quote has been read. -/
def afterText : List Char → List Char
  | [] => []
  | '"' :: rest => rest
  | '\\' :: _ :: rest => afterText rest
  | _ :: rest => afterText rest

theorem afterText_cons {c : Char} (hquote : c ≠ '"') (hbackslash : c ≠ '\\') (cs : List Char) :
    afterText (c :: cs) = afterText cs := by
  rw [afterText]
  · exact hquote
  · intro _ _ h
    exact absurd h hbackslash

theorem afterText_escaped (c : Char) (cs : List Char) :
    afterText ('\\' :: c :: cs) = afterText cs := rfl

theorem afterText_append {ds : List Char} (h : ∀ c ∈ ds, c ≠ '"' ∧ c ≠ '\\') (cs : List Char) :
    afterText (ds ++ cs) = afterText cs := by
  induction ds with
  | nil => rfl
  | cons d ds ih =>
    obtain ⟨hquote, hbackslash⟩ := h d List.mem_cons_self
    rw [List.cons_append, afterText_cons hquote hbackslash]
    exact ih fun c hc => h c (List.mem_cons_of_mem d hc)

/-- A text does not end within four hexadecimal digits. -/
theorem afterText_of_hexUnit? (h : hexUnit? cs = .ok (n, rest)) : afterText rest = afterText cs := by
  have hplain : ∀ c ∈ cs.take 4, isHexDigit c = true → c ≠ '"' ∧ c ≠ '\\' := by
    rintro c - hc
    constructor <;> rintro rfl <;> revert hc <;> decide
  unfold hexUnit? at h
  simp only at h
  split_ifs at h with hhex
  cases h
  rw [Bool.and_eq_true, List.all_eq_true] at hhex
  have happend := afterText_append (fun c hc => hplain c hc (hhex.2 c hc)) (cs.drop 4)
  rw [← happend, List.take_append_drop]

theorem afterText_of_lowHalf? {c : Char} (h : lowHalf? n cs = .ok (c, rest)) :
    afterText rest = afterText cs := by
  unfold lowHalf? at h
  split at h
  case h_3 digits =>
    obtain ⟨⟨low, rest'⟩, hlow, h⟩ := bind_eq_ok.mp h
    simp only at h
    split at h
    · obtain ⟨-, rfl⟩ := Prod.mk.inj (Except.ok.inj h)
      rw [afterText_escaped]
      exact afterText_of_hexUnit? hlow
    · cases h
  all_goals cases h

theorem afterText_of_escape? {c : Char} (h : escape? cs = .ok (c, rest)) :
    afterText rest = afterText ('\\' :: cs) := by
  unfold escape? at h
  split at h
  case h_1 => cases h
  case h_2 digits =>
    obtain ⟨⟨unit, rest'⟩, hunit, h⟩ := bind_eq_ok.mp h
    have hrest' : afterText rest' = afterText digits := afterText_of_hexUnit? hunit
    rw [afterText_escaped]
    simp only at h
    split_ifs at h
    · exact (afterText_of_lowHalf? h).trans hrest'
    · cases h
      exact hrest'
  case h_3 letter letters _ =>
    split at h
    · cases h
      rfl
    · cases h

theorem textFrom_rest {before : List Char} {s : String}
    (h : textFrom fuel before cs = .ok (s, rest)) : rest = afterText cs := by
  induction fuel generalizing before cs with
  | zero => cases h
  | succ fuel ih =>
    unfold textFrom at h
    split at h
    case h_1 => cases h
    case h_2 => cases h; rfl
    case h_3 =>
      obtain ⟨⟨c, rest'⟩, hc, h⟩ := bind_eq_ok.mp h
      exact (ih h).trans (afterText_of_escape? hc)
    case h_4 c cs' hquote hbackslash =>
      split_ifs at h
      rw [afterText_cons hquote hbackslash]
      exact ih h

theorem skipText_rest (h : skipText fuel cs = .ok rest) : rest = afterText cs := by
  induction fuel generalizing cs with
  | zero => cases h
  | succ fuel ih =>
    unfold skipText at h
    split at h
    case h_1 | h_3 => cases h
    case h_2 => cases h; rfl
    case h_4 =>
      obtain ⟨⟨unit, rest'⟩, hunit, h⟩ := bind_eq_ok.mp h
      rw [afterText_escaped]
      exact (ih h).trans (afterText_of_hexUnit? hunit)
    case h_5 =>
      split_ifs at h
      rw [afterText_escaped]
      exact ih h
    case h_6 c cs' hquote hend hunit hletter =>
      split_ifs at h
      have hbackslash : c ≠ '\\' := by
        rintro rfl
        rcases cs' with _ | ⟨d, cs'⟩
        · exact hend rfl rfl
        · exact hletter d cs' rfl rfl
      rw [afterText_cons hquote hbackslash]
      exact ih h

/-! ### Where numbers end -/

/-- What is left after a sign, if there is one. -/
def afterSign (cs : List Char) : List Char :=
  match cs with
  | '+' :: rest => rest
  | '-' :: rest => rest
  | _ => cs

/-- What is left after an exponent whose letter has been read. -/
def afterExponent (cs : List Char) : List Char := (afterSign cs).dropWhile Char.isDigit

/-- What is left after an exponent, if there is one. -/
def afterExponentOrEnd : List Char → List Char
  | 'e' :: rest => afterExponent rest
  | 'E' :: rest => afterExponent rest
  | cs => cs

/-- What is left after the fraction and the exponent of a number, as far as it has these. -/
def afterWhole : List Char → List Char
  | '.' :: rest => afterExponentOrEnd (rest.dropWhile Char.isDigit)
  | cs => afterExponentOrEnd cs

/-- What is left after a number whose sign has been read. -/
def afterNumber (cs : List Char) : List Char := afterWhole (cs.dropWhile Char.isDigit)

theorem dropWhile_digitsFrom (n count : Nat) (cs : List Char) :
    (digitsFrom n count cs).2.2.dropWhile Char.isDigit = cs.dropWhile Char.isDigit := by
  induction cs generalizing n count with
  | nil => rfl
  | cons c cs ih =>
    unfold digitsFrom
    split_ifs with hc
    · rw [ih, List.dropWhile_cons_of_pos (Bool.and_eq_true_iff.mp hc).1]
    · rfl

theorem dropWhile_of_skipDigits {ds : List Char} (h : skipDigits cs = (n, ds)) :
    cs.dropWhile Char.isDigit = ds := congrArg Prod.snd h

theorem exponentDigits_snd (n : Nat) (cs : List Char) :
    (exponentDigits n cs).2 = cs.dropWhile Char.isDigit := by
  induction cs generalizing n with
  | nil => rfl
  | cons c cs ih =>
    unfold exponentDigits
    split_ifs with hc
    · rw [ih, List.dropWhile_cons_of_pos hc]
    · rfl
    · rw [List.dropWhile_cons_of_neg hc]

variable {negative : Bool} {digits : Nat} {exponent : Int} {x : JsonNumber}

theorem afterSign_eq {down : Bool} {ds : List Char}
    (h : (match cs with
      | '+' :: rest => (false, rest)
      | '-' :: rest => (true, rest)
      | _ => (false, cs)) = (down, ds)) : afterSign cs = ds := by
  split at h <;> cases h
  · rfl
  · rfl
  · rw [afterSign] <;> assumption

theorem exponent?_rest (h : exponent? negative digits exponent cs = .ok (x, rest)) :
    rest = afterExponent cs := by
  unfold exponent? at h
  split at h
  case h_1 down ds hds =>
    rw [afterExponent, afterSign_eq hds]
    have hrest : (exponentDigits 0 ds).2 = ds.dropWhile Char.isDigit := exponentDigits_snd 0 ds
    split at h
    · cases h
    · split at h
      · cases h
      · split at h
        case h_1 hdigits =>
          obtain ⟨y, -, heq⟩ := map_eq_ok.mp h
          cases heq
          rw [← hrest, hdigits]
        case h_2 hdigits =>
          split at h
          · cases h
          · cases h
            rw [← hrest, hdigits]

theorem exponentOrEnd?_rest (h : exponentOrEnd? negative digits exponent cs = .ok (x, rest)) :
    rest = afterExponentOrEnd cs := by
  unfold exponentOrEnd? at h
  split at h
  case h_1 => exact exponent?_rest h
  case h_2 => exact exponent?_rest h
  case h_3 he hE =>
    obtain ⟨y, -, heq⟩ := map_eq_ok.mp h
    cases heq
    rw [afterExponentOrEnd]
    · exact he
    · exact hE

theorem fraction?_rest (h : fraction? negative digits exponent cs = .ok (x, rest)) :
    rest = afterExponentOrEnd (cs.dropWhile Char.isDigit) := by
  unfold fraction? at h
  simp only at h
  split_ifs at h
  have hend := exponentOrEnd?_rest h
  rwa [skipDigits, dropWhile_digitsFrom] at hend

theorem wholeEnd?_rest {whole : Nat} (h : wholeEnd? negative whole cs = .ok (x, rest)) :
    rest = afterWhole cs := by
  unfold wholeEnd? at h
  split at h
  case h_1 => exact fraction?_rest h
  case h_2 => exact exponent?_rest h
  case h_3 => exact exponent?_rest h
  case h_4 hpoint he hE =>
    cases h
    rw [afterWhole, afterExponentOrEnd]
    · exact he
    · exact hE
    · exact hpoint

theorem number?_rest (h : number? negative cs = .ok (x, rest)) : rest = afterNumber cs := by
  unfold number? at h
  split at h
  case h_1 => cases h
  case h_2 zeros =>
    split at h
    case h_1 c cs' =>
      split_ifs at h with hc
      have hzero : afterNumber ('0' :: c :: cs') = afterWhole (c :: cs') := by
        rw [afterNumber, List.dropWhile_cons_of_pos (by decide), List.dropWhile_cons_of_neg hc]
      rw [hzero]
      exact wholeEnd?_rest h
    case h_2 => exact wholeEnd?_rest h
  case h_3 c cs' _ =>
    split_ifs at h
    have hdrop := dropWhile_digitsFrom 0 0 (c :: cs')
    rcases hread : digitsFrom 0 0 (c :: cs') with ⟨whole, count, ds⟩
    rcases hskip : skipDigits ds with ⟨surplus, tail⟩
    have htail : (c :: cs').dropWhile Char.isDigit = tail := by
      rw [← hdrop, hread]
      exact dropWhile_of_skipDigits hskip
    rw [afterNumber, htail]
    simp only [hread, hskip] at h
    split at h
    · exact wholeEnd?_rest h
    · split at h
      case h_1 fraction =>
        exact fraction?_rest h
      case h_2 hpoint =>
        rw [afterWhole]
        · exact exponentOrEnd?_rest h
        · exact hpoint

theorem dropWhile_of_no_digits {ds : List Char} (h : skipDigits cs = (0, ds)) :
    cs.dropWhile Char.isDigit = cs := by
  have hnil : cs.takeWhile Char.isDigit = [] := List.length_eq_zero_iff.mp (congrArg Prod.fst h)
  have hsplit := cs.takeWhile_append_dropWhile (p := Char.isDigit)
  rwa [hnil, List.nil_append] at hsplit

theorem skipExponent_rest (h : skipExponent cs = .ok rest) : rest = afterExponent cs := by
  unfold skipExponent at h
  simp only at h
  split at h
  case h_1 => cases h
  case h_2 heq =>
    cases h
    exact (dropWhile_of_skipDigits heq).symm

theorem skipExponentOrEnd_rest (h : skipExponentOrEnd cs = .ok rest) :
    rest = afterExponentOrEnd cs := by
  unfold skipExponentOrEnd at h
  split at h
  case h_1 => exact skipExponent_rest h
  case h_2 => exact skipExponent_rest h
  case h_3 he hE =>
    cases h
    rw [afterExponentOrEnd]
    · exact he
    · exact hE

/-- Passes over the fraction and the exponent of a number, as far as it has these. -/
def skipEnd : List Char → Except JsonError (List Char)
  | '.' :: rest =>
    match skipDigits rest with
    | (0, _) => .error .malformed
    | (_, rest) => skipExponentOrEnd rest
  | cs => skipExponentOrEnd cs

theorem skipEnd_rest (h : skipEnd cs = .ok rest) : rest = afterWhole cs := by
  unfold skipEnd at h
  split at h
  case h_1 ds =>
    split at h
    case h_1 => cases h
    case h_2 heq =>
      rw [afterWhole, dropWhile_of_skipDigits heq]
      exact skipExponentOrEnd_rest h
  case h_2 hpoint =>
    rw [afterWhole]
    · exact skipExponentOrEnd_rest h
    · exact hpoint

theorem skipNumber_rest (h : skipNumber cs = .ok rest) : rest = afterNumber cs := by
  unfold skipNumber at h
  simp only at h
  split at h
  case h_1 ds =>
    split at h
    case h_1 heq =>
      have hend : skipEnd ds = .ok rest := h
      rw [afterNumber, List.dropWhile_cons_of_pos (by decide), dropWhile_of_no_digits heq]
      exact skipEnd_rest hend
    case h_2 => cases h
  case h_2 =>
    split at h
    case h_1 => cases h
    case h_2 tail _ heq =>
      have hend : skipEnd tail = .ok rest := h
      rw [afterNumber, dropWhile_of_skipDigits heq]
      exact skipEnd_rest hend

end Vigil.Json
