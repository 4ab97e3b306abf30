import Vigil.Proofs.Pattern.Continuing

/-! # Parts of expressions before a closing bracket

The readers of the parts of an expression agree on a text in a group and by itself. A quantifier
that is not one by itself is none in the group either (`Alike`), so that its characters stand for
themselves in both.

* `agree_numberedReference`, `agree_namedReference`: references to groups;
* `agree_escape`, `agree_bracket`: escapes and classes;
* `agree_quantified`: quantifiers, which `braces?_eq` and `quantified_eq` take apart;
* `agree_flagLetters`: the letters that switch flags. -/

namespace Vigil.Pattern

open Vigil.Text

variable {cs cs' ds ds' : List Char} {x : Char}

namespace Reader

variable {α β : Type} {size size' : Nat} {close : Char} {groups : Nat}

/-! ### Numbers and names -/

/-- Whether two results of reading a text are alike: none, or the same before continuing texts. -/
inductive Alike : Option (α × List Char) → Option (α × List Char) → Prop
  | both {a : α} {cs cs' : List Char} (h : Continues cs cs') : Alike (some (a, cs)) (some (a, cs'))
  | neither : Alike none none

theorem alike_number? (hcs : Continues cs cs') : Alike (number? cs) (number? cs') := by
  cases hcs with
  | swallowed => exact .neither
  | append cs =>
    have hdigit : Char.isDigit ')' = false := by decide
    unfold number?
    rw [takeWhile_append_closing hdigit, dropWhile_append_closing hdigit]
    dsimp only
    split
    case isTrue => exact .neither
    case isFalse => exact .both (.append _)

theorem isNameCharacter_closing : isNameCharacter ')' = false := by decide

/-- A name and what closes it are read as by themselves, if the name is closed. -/
theorem name?_continues {name after : List Char} (hcs : Continues cs cs')
    (h : name? close cs = some (name, after)) :
    ∃ after', name? close cs' = some (name, after') ∧ Continues after after' := by
  cases hcs with
  | swallowed => cases h
  | append cs =>
    unfold name? at h ⊢
    rw [takeWhile_append_closing isNameCharacter_closing,
      dropWhile_append_closing isNameCharacter_closing]
    dsimp only at h ⊢
    split at h
    case h_1 => cases h
    case h_2 c rest hrest hname =>
      obtain ⟨d, ds, hds⟩ := List.exists_cons_of_ne_nil hname
      rw [hrest, hds, List.cons_append]
      rw [hds] at h
      split at h
      case isTrue hc =>
        cases h
        exact ⟨after ++ closing, if_pos hc, .append after⟩
      case isFalse => cases h
    case h_3 => cases h

/-- Without the bracket itself to close it, a name that is not closed stays so. -/
theorem name?_eq_none (hcs : Continues cs cs') (hclose : close ≠ ')') (h : name? close cs = none) :
    name? close cs' = none := by
  cases hcs with
  | swallowed => exact h
  | append cs =>
    unfold name? at h ⊢
    rw [takeWhile_append_closing isNameCharacter_closing,
      dropWhile_append_closing isNameCharacter_closing]
    dsimp only at h ⊢
    split at h
    case h_1 hname =>
      rw [hname]
    case h_2 c rest hrest hname =>
      obtain ⟨d, ds, hds⟩ := List.exists_cons_of_ne_nil hname
      rw [hrest, hds, List.cons_append]
      split at h
      case isTrue => cases h
      case isFalse hc => exact if_neg hc
    case h_3 hrest hname =>
      obtain ⟨d, ds, hds⟩ := List.exists_cons_of_ne_nil hname
      rw [hrest, hds, List.nil_append, closing]
      exact if_neg (by simpa using hclose.symm)

theorem relativeGroup?_continues {group : Nat} {after : List Char} (hcs : Continues cs cs')
    (h : relativeGroup? groups cs close = some (group, after)) :
    ∃ after', relativeGroup? groups cs' close = some (group, after') ∧ Continues after after' := by
  rcases cs with _ | ⟨sign, digits⟩
  · cases h
  obtain ⟨digits', rfl, hdigits⟩ := hcs.cons_inv
  unfold relativeGroup? at h ⊢
  dsimp only at h ⊢
  have hnumber := alike_number? hdigits
  generalize number? digits = number at h hnumber
  generalize number? digits' = number' at hnumber ⊢
  cases hnumber with
  | neither => cases h
  | @both n cs cs' hcs =>
    rcases cs with _ | ⟨c, after⟩
    · cases h
    obtain ⟨after', rfl, hafter⟩ := hcs.cons_inv
    dsimp only at h ⊢
    split at h
    case isTrue => cases h
    case isFalse hn =>
      rw [if_neg hn]
      split at h
      case isTrue hplus =>
        cases h
        exact ⟨after', if_pos hplus, hafter⟩
      case isFalse hplus =>
        rw [if_neg hplus]
        split at h
        case isTrue hminus =>
          cases h
          exact ⟨after', if_pos hminus, hafter⟩
        case isFalse => cases h

/-! ### References -/

theorem agree_refer {group : Nat} : Agree (refer group) (refer group) :=
  (Agree.modify fun _ _ => rfl).bind fun _ => Agree.pure _

theorem agree_numberedReference : Agree (numberedReference size) (numberedReference size') := by
  refine Agree.rest fun cs cs' hcs => Agree.lift fun p p' hp hp' => ?_
  have hnumber := alike_number? hcs
  rw [hp, hp'] at hnumber
  cases hnumber with
  | both hafter =>
    dsimp only
    split
    case isFalse => exact Agree.failure
    case isTrue =>
      split
      case isFalse => exact Agree.failure_right
      case isTrue =>
        exact (Agree.goTo hafter).bind fun _ => (Agree.modify fun _ _ => rfl).bind fun _ =>
          agree_refer

theorem agree_namedReference {relative : Bool} (hclose : relative = true → close ≠ ')') :
    Agree (namedReference close relative) (namedReference close relative) := by
  refine Agree.get fun c c' hc => ?_
  obtain ⟨cs', hcs, rfl⟩ := hc
  rcases hname : name? close c.rest with _ | ⟨name, after⟩
  · dsimp only
    cases relative with
    | false => exact Agree.failure
    | true =>
      rw [name?_eq_none hcs (hclose rfl) hname]
      refine Agree.lift fun p p' hp hp' => ?_
      obtain ⟨after', hafter', hafter⟩ := relativeGroup?_continues hcs hp
      rw [hafter'] at hp'
      cases hp'
      exact (Agree.goTo hafter).bind fun _ => agree_refer
  · obtain ⟨after', hname', hafter⟩ := name?_continues hcs hname
    dsimp only
    rw [hname']
    refine (Agree.goTo hafter).bind fun _ => ?_
    split
    case h_1 => exact agree_refer
    case h_2 =>
      split
      case h_1 => exact agree_refer
      case h_2 => exact Agree.failure

/-- A run of characters that ends before the end is the same in a longer text. -/
theorem dropWhile_append_of_cons {p : Char → Bool} (h : cs.dropWhile p = x :: ds)
    (tail : List Char) :
    (cs ++ tail).takeWhile p = cs.takeWhile p ∧ (cs ++ tail).dropWhile p = x :: (ds ++ tail) := by
  have hlength := congrArg List.length (List.takeWhile_append_dropWhile (p := p) (l := cs))
  rw [h, List.length_append, List.length_cons] at hlength
  rw [List.takeWhile_append, List.dropWhile_append, if_neg (by omega), h]
  exact ⟨rfl, rfl⟩

/-! ### Escapes -/

theorem agree_literal : Agree (literal x) (literal x) := by
  refine Agree.get fun c c' hc => ?_
  obtain ⟨cs', -, rfl⟩ := hc
  exact Agree.pure _

theorem hexDigits_append_closing {width : Nat} :
    ((cs ++ closing).take width).length = width ∧ ((cs ++ closing).take width).all isHexDigit ↔
      (cs.take width).length = width ∧ (cs.take width).all isHexDigit := by
  rcases Nat.lt_or_ge cs.length width with hlt | hle
  · constructor
    · rintro ⟨-, hall⟩
      have hmem : ')' ∈ (cs ++ closing).take width := by
        obtain ⟨k, rfl⟩ := Nat.exists_eq_add_of_lt hlt
        rw [List.take_append]
        simp [closing, Nat.add_assoc]
      cases List.all_eq_true.mp hall _ hmem
    · rintro ⟨hlength, -⟩
      rw [List.length_take] at hlength
      omega
  · rw [List.take_append_of_le_length hle]

/-- The character of a number. -/
theorem agree_ofHex? {digits : List Char} :
    Agree (do literal (← ofHex? digits)) (do literal (← ofHex? digits)) := by
  refine Agree.lift fun c c' hc hc' => ?_
  cases hc.symm.trans hc'
  exact agree_literal

theorem agree_hexEscape {width : Nat} : Agree (hexEscape width) (hexEscape width) := by
  refine Agree.rest fun cs cs' hcs => ?_
  cases hcs with
  | swallowed =>
    refine Agree.ite Iff.rfl (fun _ => ?_) fun _ => Agree.failure
    exact (Agree.goTo (by rw [List.drop_nil]; exact .swallowed)).bind fun _ => agree_ofHex?
  | append cs =>
    refine Agree.ite ?_ (fun hdigits => ?_) fun _ => ?_
    · simp only [Bool.and_eq_true, beq_iff_eq]
      exact hexDigits_append_closing.symm
    · simp only [Bool.and_eq_true, beq_iff_eq, List.length_take] at hdigits
      have hle : width ≤ cs.length := by omega
      rw [List.take_append_of_le_length hle, List.drop_append_of_le_length hle]
      exact (Agree.goTo (.append _)).bind fun _ => agree_ofHex?
    · intro c c' hc a d a' d' h h'
      split at h
      case h_2 => cases h
      case h_1 inner _ =>
        rw [List.cons_append] at h'
        split at h'
        case h_2 hbrace => exact absurd rfl (hbrace _)
        case h_1 inner' hinner =>
          cases hinner
          have hhex : isHexDigit ')' = false := by decide
          dsimp only at h h'
          rw [takeWhile_append_closing hhex, dropWhile_append_closing hhex] at h'
          split at h
          case h_2 => cases h
          case h_1 after hafter =>
            rw [hafter, List.cons_append] at h'
            refine Agree.ite Iff.rfl (fun _ => Agree.failure) (fun _ => ?_) hc h h'
            exact (Agree.goTo (.append after)).bind fun _ => agree_ofHex?

/-- The class of a property whose name has been read. -/
theorem agree_propertyClass? {content after after' : List Char} {negated : Bool}
    (hafter : Continues after after') :
    Agree (do
      goTo after
      let (s, other) ← propertyClass? content
      return .set (.complementIf (negated != other) (.foldedIf (← get).flags.fold s)))
    (do
      goTo after'
      let (s, other) ← propertyClass? content
      return Expr.set (.complementIf (negated != other) (.foldedIf (← get).flags.fold s))) := by
  refine (Agree.goTo hafter).bind fun _ => Agree.lift fun p p' hp hp' => ?_
  cases hp.symm.trans hp'
  refine Agree.get fun c c' hc => ?_
  obtain ⟨cs', -, rfl⟩ := hc
  exact Agree.pure _

theorem agree_propertyEscape {negated : Bool} :
    Agree (propertyEscape negated) (propertyEscape negated) := by
  refine Agree.rest fun cs cs' hcs c c' hc a d a' d' h h' => ?_
  dsimp only at h h'
  split at h
  case h_1 inner =>
    obtain ⟨inner', rfl, hinner⟩ := hcs.cons_inv
    split at h'
    case h_2 hbrace heq =>
      cases heq
      exact (hbrace rfl).elim
    case h_3 heq => cases heq
    case h_1 inner'' hinner'' =>
      cases hinner''
      cases hinner with
      | swallowed => cases h
      | append inner =>
        split at h
        case h_2 => cases h
        case h_1 e after hend =>
          obtain ⟨htake, hdrop⟩ := dropWhile_append_of_cons hend closing
          rw [htake, hdrop] at h'
          exact agree_propertyClass? (.append after) hc h h'
  case h_2 c after hbrace =>
    obtain ⟨after', rfl, hafter⟩ := hcs.cons_inv
    split at h'
    case h_1 heq =>
      cases heq
      exact (hbrace rfl).elim
    case h_3 heq => cases heq
    case h_2 heq =>
      cases heq
      exact agree_propertyClass? hafter hc h h'
  case h_3 => cases h

theorem agree_escape {inClass : Bool} : Agree (escape size inClass) (escape size' inClass) := by
  refine Agree.rest fun cs cs' hcs => ?_
  rcases cs with _ | ⟨c, after⟩
  · exact Agree.failure
  obtain ⟨after', rfl, hafter⟩ := hcs.cons_inv
  dsimp only
  refine Agree.ite Iff.rfl (fun _ => agree_numberedReference) fun _ =>
    Agree.ite Iff.rfl (fun _ => ?name) fun _ => (Agree.goTo hafter).bind fun _ => ?_
  case name =>
    intro c c' hc a d a' d' h h'
    split at h
    case h_1 name =>
      obtain ⟨name', rfl, hname⟩ := hafter.cons_inv
      exact ((Agree.goTo hname).bind fun _ => agree_namedReference fun _ => by decide) hc h h'
    case h_2 name =>
      obtain ⟨name', rfl, hname⟩ := hafter.cons_inv
      exact ((Agree.goTo hname).bind fun _ => agree_namedReference fun _ => by decide) hc h h'
    case h_3 => cases h
  split
  case h_1 =>
    refine Agree.ite ?_ (fun _ => Agree.failure) fun _ => Agree.pure _
    simp only [Bool.and_eq_true, beq_iff_eq, hafter.head?_eq (x := '\x7b') (by decide)]
  case h_2 => exact Agree.pure _
  case h_3 => exact Agree.pure _
  case h_4 =>
    refine Agree.ite Iff.rfl (fun _ => agree_hexEscape) fun _ =>
      Agree.ite Iff.rfl (fun _ => agree_hexEscape) fun _ =>
      Agree.ite Iff.rfl (fun _ => agree_hexEscape) fun _ => ?_
    rcases after with _ | ⟨e, after⟩
    · by_cases hp : (c == 'p' || c == 'P') = true
      · have halpha : (c.isAlpha && !lettersOfClass.contains c) = true := by
          simp only [Bool.or_eq_true, beq_iff_eq] at hp
          rcases hp with rfl | rfl
          · decide
          · decide
        rw [List.isEmpty_nil, Bool.not_true, Bool.and_false, if_neg Bool.false_ne_true,
          if_pos halpha]
        exact Agree.failure
      · rw [Bool.not_eq_true] at hp
        rw [hp, Bool.false_and, if_neg Bool.false_ne_true, Bool.false_and,
          if_neg Bool.false_ne_true]
        exact Agree.ite Iff.rfl (fun _ => Agree.failure) fun _ => Agree.pure _
    · obtain ⟨after', rfl, -⟩ := hafter.cons_inv
      exact Agree.ite Iff.rfl (fun _ => agree_propertyEscape) fun _ =>
        Agree.ite Iff.rfl (fun _ => Agree.failure) fun _ => Agree.pure _

/-! ### Classes -/

theorem agree_signs {fuel fuel' nesting : Nat} :
    Agree (signs size fuel nesting) (signs size' fuel' nesting) := by
  induction fuel generalizing fuel' nesting with
  | zero => exact Agree.failure
  | succ fuel ih =>
    rcases fuel' with _ | fuel'
    · exact Agree.failure_right
    rw [signs, signs]
    refine Agree.rest fun cs cs' hcs c c' hc a d a' d' h h' => ?_
    split at h
    case h_1 => cases h
    case h_2 after =>
      obtain ⟨after', rfl, hafter⟩ := hcs.cons_inv
      refine ((Agree.goTo hafter).bind fun _ => agree_escape.bind fun _ => ?_) hc h h'
      split
      case h_1 => exact ih.bind fun _ => Agree.pure _
      case h_2 => exact ih.bind fun _ => Agree.pure _
      case h_3 => exact Agree.failure_bind
    case h_3 after =>
      obtain ⟨after', rfl, hafter⟩ := hcs.cons_inv
      exact ((Agree.goTo hafter).bind fun _ => ih.bind fun _ => Agree.pure _) hc h h'
    case h_4 after =>
      obtain ⟨after', rfl, hafter⟩ := hcs.cons_inv
      exact ((Agree.goTo hafter).bind fun _ => Agree.ite Iff.rfl (fun _ => Agree.pure _) fun _ =>
        ih.bind fun _ => Agree.pure _) hc h h'
    case h_5 c after hescape hopening hclosing =>
      obtain ⟨after', rfl, hafter⟩ := hcs.cons_inv
      split at h'
      case h_1 heq => cases heq
      case h_2 heq =>
        cases heq
        exact (hescape rfl).elim
      case h_3 heq =>
        cases heq
        exact (hopening rfl).elim
      case h_4 heq =>
        cases heq
        exact (hclosing rfl).elim
      case h_5 heq =>
        cases heq
        exact ((Agree.goTo hafter).bind fun _ => ih.bind fun _ => Agree.pure _) hc h h'

theorem agree_takeSign (hx : x ≠ ')') : Agree (takeSign x) (takeSign x) := by
  refine Agree.rest fun cs cs' hcs => ?_
  cases hcs with
  | swallowed => exact Agree.pure []
  | append cs =>
    rcases cs with _ | ⟨c, cs⟩
    · have hclosing : ¬ (')' == x) = true := by simpa using hx.symm
      rw [List.nil_append, closing]
      dsimp only
      rw [if_neg hclosing]
      exact Agree.pure []
    · exact Agree.ite Iff.rfl (fun _ => (Agree.goTo (.append cs)).bind fun _ => Agree.pure _)
        fun _ => Agree.pure _

theorem agree_bracket : Agree (bracket size) (bracket size') := by
  refine (agree_takeSign (by decide)).bind fun _ => (agree_takeSign (by decide)).bind fun _ =>
    Agree.rest fun cs cs' hcs => agree_signs.bind fun _ => Agree.get fun c c' hc => ?_
  obtain ⟨cs', -, rfl⟩ := hc
  refine Agree.lift fun s s' hs hs' => ?_
  cases hs.symm.trans hs'
  exact Agree.pure _

/-! ### Quantifiers -/

theorem Skipped.alike_bind {x y : Option (List Char)} {f f' : List Char → Option (α × List Char)}
    (h : Skipped x y) (hf : ∀ ds ds', Continues ds ds' → Alike (f ds) (f' ds'))
    (hdollar : f' ['$'] = none) : Alike (x.bind f) (y.bind f') := by
  cases h with
  | both hds => exact hf _ _ hds
  | neither => exact .neither
  | comment =>
    rw [Option.bind_some, hdollar]
    exact .neither

theorem Alike.bind {x y : Option (α × List Char)} {f f' : α × List Char → Option (β × List Char)}
    (h : Alike x y) (hf : ∀ a ds ds', Continues ds ds' → Alike (f (a, ds)) (f' (a, ds'))) :
    Alike (x.bind f) (y.bind f') := by
  cases h with
  | both hds => exact hf _ _ _ hds
  | neither => exact .neither

/-- The brace after two bounds. -/
def closeBraces? (bounds : Nat × Option Nat) : List Char → Option ((Nat × Option Nat) × List Char)
  | '\x7d' :: after => some (bounds, after)
  | _ => none

/-- What comes after the comma between two bounds. -/
def upperBound? (skip : List Char → Option (List Char)) (least : Nat) (cs : List Char) :
    Option ((Nat × Option Nat) × List Char) :=
  (skip cs).bind fun cs =>
    match number? cs with
    | some (n, after) =>
      (skip after).bind (closeBraces? (least, if n + 1 == wordLimit then none else some n))
    | none => (skip cs).bind (closeBraces? (least, none))

/-- The brace or the comma after the lower bound. -/
def afterLowerBound? (skip : List Char → Option (List Char)) (least : Nat) :
    List Char → Option ((Nat × Option Nat) × List Char)
  | '\x7d' :: after => some ((least, some least), after)
  | ',' :: after => upperBound? skip least after
  | _ => none

/-- What comes after the lower bound. -/
def bounds? (skip : List Char → Option (List Char)) :
    Nat × List Char → Option ((Nat × Option Nat) × List Char)
  | (least, cs) => (skip cs).bind (afterLowerBound? skip least)

/-- The lower bound, zero if there is none. -/
def lowerBound? : List Char → Option (Nat × List Char)
  | ',' :: after => some (0, ',' :: after)
  | cs => number? cs

/-- A brace quantifier is its lower bound and what comes after it. -/
theorem braces?_eq {skip : List Char → Option (List Char)} : braces? skip cs =
    (skip cs).bind fun cs => (lowerBound? cs).bind (bounds? skip) := by
  unfold braces?
  congr 1
  funext cs
  dsimp only
  split
  case' h_1 => refine congrArg (Option.bind _) (funext fun p => ?_)
  case' h_2 hcomma =>
    rw [lowerBound?.eq_2 _ hcomma]
    refine congrArg (Option.bind _) (funext fun p => ?_)
  -- either way, the same comes after the lower bound
  all_goals
    obtain ⟨least, cs⟩ := p
    unfold bounds?
    dsimp only
    congr 1
    funext cs
    split
    case h_1 => rfl
    case h_2 after =>
      rw [afterLowerBound?, upperBound?]
      congr 1
      funext cs
      cases number? cs with
      | none => rfl
      | some p => rfl
    case h_3 hbrace hcomma => exact (afterLowerBound?.eq_3 _ _ _ hbrace hcomma).symm

theorem alike_closeBraces? {bounds : Nat × Option Nat} (hcs : Continues cs cs') :
    Alike (closeBraces? bounds cs) (closeBraces? bounds cs') := by
  cases hcs with
  | swallowed => exact .neither
  | append cs =>
    fun_cases closeBraces? bounds cs
    case case1 after => exact .both (.append after)
    case case2 hbrace =>
      rw [closeBraces?]
      · exact .neither
      · exact (Continues.append cs).ne_append (l := ['\x7d']) (by decide) hbrace

theorem alike_upperBound? {flags : Flags} {least : Nat} (hcs : Continues cs cs') :
    Alike (upperBound? (skipped flags) least cs) (upperBound? (skipped flags) least cs') := by
  refine (skipped_skipped hcs).alike_bind (fun cs cs' hcs => ?_) ?_
  · have hnumber := alike_number? hcs
    generalize number? cs = number at hnumber ⊢
    generalize number? cs' = number' at hnumber ⊢
    cases hnumber with
    | both hafter => exact (skipped_skipped hafter).alike_bind (fun _ _ => alike_closeBraces?) rfl
    | neither => exact (skipped_skipped hcs).alike_bind (fun _ _ => alike_closeBraces?) rfl
  · rw [skipped, show number? ['$'] = none from rfl]
    dsimp only
    rw [skipBlanksFrom_dollar]
    rfl

theorem alike_lowerBound? (hcs : Continues cs cs') : Alike (lowerBound? cs) (lowerBound? cs') := by
  cases hcs with
  | swallowed => exact .neither
  | append cs =>
    fun_cases lowerBound? cs
    case case1 after => exact .both (.append (',' :: after))
    case case2 hcomma =>
      rw [lowerBound?]
      · exact alike_number? (.append cs)
      · exact (Continues.append cs).ne_append (l := [',']) (by decide) hcomma

theorem alike_afterLowerBound? {flags : Flags} {least : Nat} (hcs : Continues cs cs') :
    Alike (afterLowerBound? (skipped flags) least cs)
      (afterLowerBound? (skipped flags) least cs') := by
  cases hcs with
  | swallowed => exact .neither
  | append cs =>
    fun_cases afterLowerBound? (skipped flags) least cs
    case case1 after => exact .both (.append after)
    case case2 after => exact alike_upperBound? (.append after)
    case case3 hbrace hcomma =>
      rw [afterLowerBound?]
      · exact .neither
      · exact (Continues.append cs).ne_append (l := ['\x7d']) (by decide) hbrace
      · exact (Continues.append cs).ne_append (l := [',']) (by decide) hcomma

theorem alike_bounds? {flags : Flags} {least : Nat} (hcs : Continues cs cs') :
    Alike (bounds? (skipped flags) (least, cs)) (bounds? (skipped flags) (least, cs')) :=
  (skipped_skipped hcs).alike_bind (fun _ _ => alike_afterLowerBound?) rfl

theorem alike_braces? {flags : Flags} (hcs : Continues cs cs') :
    Alike (braces? (skipped flags) cs) (braces? (skipped flags) cs') := by
  rw [braces?_eq, braces?_eq]
  refine (skipped_skipped hcs).alike_bind (fun cs cs' hcs => ?_) rfl
  exact (alike_lowerBound? hcs).bind fun _ _ _ => alike_bounds?

theorem alike_quantifier? {flags : Flags} (hcs : Continues cs cs') :
    Alike (quantifier? flags cs) (quantifier? flags cs') := by
  cases hcs with
  | swallowed => exact .neither
  | append cs =>
    fun_cases quantifier? flags cs
    case case1 after => exact .both (.append after)
    case case2 after => exact .both (.append after)
    case case3 after => exact .both (.append after)
    case case4 after => exact alike_braces? (.append after)
    case case5 hmark hstar hplus hbrace =>
      have hcs := Continues.append cs
      rw [quantifier?]
      · exact .neither
      · exact hcs.ne_append (l := ['?']) (by decide) hmark
      · exact hcs.ne_append (l := ['*']) (by decide) hstar
      · exact hcs.ne_append (l := ['+']) (by decide) hplus
      · exact hcs.ne_append (l := ['\x7b']) (by decide) hbrace

/-- Whether a question mark follows a quantifier, and the text after it. -/
def lazyMark : List Char → Bool × List Char
  | '?' :: after => (true, after)
  | after => (false, after)

/-- Reads the plus after a quantifier that makes the repetition atomic. -/
def possessive (e : Expr) (cs : List Char) : Reader Expr := do
  match cs with
  | '+' :: after => goTo after; return .atomic e
  | _ => goTo cs; return e

theorem quantified_eq {e : Expr} : quantified e = (do
    skipBlanks
    let cursor ← get
    match quantifier? cursor.flags cursor.rest with
    | none => return e
    | some ((least, most), after) =>
      if !isRepeatable e then failure
      goTo after
      skipBlanks
      let cs ← rest
      possessive (.repetition e least most ((lazyMark cs).1 == cursor.flags.swapGreed))
        (lazyMark cs).2) := rfl

theorem continues_lazyMark (hcs : Continues cs cs') :
    (lazyMark cs').1 = (lazyMark cs).1 ∧ Continues (lazyMark cs).2 (lazyMark cs').2 := by
  cases hcs with
  | swallowed => exact ⟨rfl, .swallowed⟩
  | append cs =>
    fun_cases lazyMark cs
    case case1 after => exact ⟨rfl, .append after⟩
    case case2 hmark =>
      rw [lazyMark]
      · exact ⟨rfl, .append cs⟩
      · exact (Continues.append cs).ne_append (l := ['?']) (by decide) hmark

theorem agree_possessive {e : Expr} (hcs : Continues cs cs') :
    Agree (possessive e cs) (possessive e cs') := by
  have hplain := (Agree.goTo hcs).bind fun _ => Agree.pure e
  rcases cs with _ | ⟨c, cs⟩
  · rcases hcs.nil_inv with rfl | rfl
    · exact hplain
    · exact hplain
  obtain ⟨cs', rfl, hcs'⟩ := hcs.cons_inv
  unfold possessive
  split
  case h_1 heq =>
    cases heq
    exact (Agree.goTo hcs').bind fun _ => Agree.pure _
  case h_2 hplus =>
    split
    case h_1 heq =>
      cases heq
      exact (hplus _ rfl).elim
    case h_2 => exact hplain

theorem agree_quantified {e : Expr} : Agree (quantified e) (quantified e) := by
  rw [quantified_eq]
  refine agree_skipBlanks.bind fun _ => Agree.get fun c c' hc => ?_
  obtain ⟨cs', hcs, rfl⟩ := hc
  dsimp only
  have hquantifier : Alike (quantifier? c.flags c.rest) (quantifier? c.flags cs') :=
    alike_quantifier? hcs
  generalize quantifier? c.flags c.rest = q at hquantifier ⊢
  generalize quantifier? c.flags cs' = q' at hquantifier ⊢
  cases hquantifier with
  | neither => exact Agree.pure e
  | @both bounds after after' hafter =>
    refine Agree.ite Iff.rfl (fun _ => Agree.failure_bind) fun _ => ?_
    refine (Agree.goTo hafter).bind fun _ => agree_skipBlanks.bind fun _ =>
      Agree.rest fun cs cs' hcs => ?_
    obtain ⟨hlazy, hafter⟩ := continues_lazyMark hcs
    rw [hlazy]
    exact agree_possessive hafter

/-! ### Flags -/

theorem agree_flagLetters {fuel fuel' : Nat} {off : Bool} :
    Agree (flagLetters fuel off x) (flagLetters fuel' off x) := by
  induction fuel generalizing fuel' off x with
  | zero => exact Agree.failure
  | succ fuel ih =>
    rcases fuel' with _ | fuel'
    · exact Agree.failure_right
    rw [flagLetters, flagLetters]
    refine Agree.rest fun before before' hbefore => agree_skipBlanks.bind fun _ =>
      Agree.rest fun after after' hafter => ?_
    rcases after with _ | ⟨c, after⟩
    · exact Agree.failure
    have hlength := hbefore.length_eq_iff hafter (Or.inr (List.cons_ne_nil c after))
    obtain ⟨after', rfl, hafter'⟩ := hafter.cons_inv
    simp only [beq_iff_eq, hlength]
    generalize (if (c :: after').length = before'.length then x else ' ') = last
    refine (Agree.goTo hafter').bind fun _ => ?_
    refine Agree.ite Iff.rfl (fun _ => ?_) fun _ => Agree.ite Iff.rfl (fun _ => ?_) fun _ =>
      Agree.ite Iff.rfl (fun _ => ?_) fun _ => ?_
    · exact Agree.ite Iff.rfl (fun _ => Agree.failure) fun _ => Agree.pure _
    · exact Agree.ite Iff.rfl (fun _ => Agree.failure) fun _ => Agree.pure _
    · exact Agree.ite Iff.rfl (fun _ => Agree.failure) fun _ => ih
    · refine Agree.get fun cursor cursor' hcursor => ?_
      obtain ⟨cs', hcs, rfl⟩ := hcursor
      refine Agree.lift fun flags flags' hflags hflags' => ?_
      cases hflags.symm.trans hflags'
      have hset : Cursor.Continues { cursor with flags } { cursor with rest := cs', flags } :=
        ⟨cs', hcs, rfl⟩
      exact (Agree.set hset).bind fun _ => ih

end Reader
end Vigil.Pattern
