import Vigil.Proofs.Json.Skipping
import Vigil.Proofs.Json.WellFormed

/-! # Passing over what can be read

A text, a number or a value that can be read can be passed over, and fuel for two steps a character is
enough for both, whatever fuel it has been read with.

* `length_afterText`, `length_afterNumber`: reading takes characters away;
* `skipText_of_textFrom`, `skipNumber_of_number?`: texts and numbers;
* `value?_of_enough`, `skip?_of_enough`: values. -/

namespace Vigil.Json

open Vigil.Text

variable {cs ds rest : List Char} {n fuel fuel' : Nat}

/-! ### Lengths -/

theorem length_skipBlanks (cs : List Char) : (skipBlanks cs).length ≤ cs.length :=
  (List.dropWhile_suffix isBlank).length_le

theorem length_afterText (cs : List Char) : (afterText cs).length ≤ cs.length := by
  fun_induction afterText cs with
  | case1 => exact Nat.le_refl _
  | case2 rest => exact Nat.le_succ _
  | case3 c rest ih => exact Nat.le_trans ih (Nat.le_add_right _ 2)
  | case4 c rest _ _ ih => exact Nat.le_trans ih (Nat.le_succ _)

theorem length_of_hexUnit? (h : hexUnit? cs = .ok (n, rest)) : rest.length ≤ cs.length := by
  unfold hexUnit? at h
  simp only at h
  split_ifs at h
  cases h
  exact (List.drop_suffix 4 cs).length_le

theorem length_afterSign (cs : List Char) : (afterSign cs).length ≤ cs.length := by
  unfold afterSign
  split <;> simp

theorem length_afterExponent (cs : List Char) : (afterExponent cs).length ≤ cs.length :=
  Nat.le_trans (List.dropWhile_suffix Char.isDigit).length_le (length_afterSign cs)

theorem length_afterExponentOrEnd (cs : List Char) :
    (afterExponentOrEnd cs).length ≤ cs.length := by
  unfold afterExponentOrEnd
  split
  · exact Nat.le_succ_of_le (length_afterExponent _)
  · exact Nat.le_succ_of_le (length_afterExponent _)
  · exact Nat.le_refl _

theorem length_afterWhole (cs : List Char) : (afterWhole cs).length ≤ cs.length := by
  unfold afterWhole
  split
  case h_1 rest =>
    have hdigits : (rest.dropWhile Char.isDigit).length ≤ rest.length :=
      (List.dropWhile_suffix Char.isDigit).length_le
    exact Nat.le_succ_of_le (Nat.le_trans (length_afterExponentOrEnd _) hdigits)
  case h_2 => exact length_afterExponentOrEnd cs

theorem length_afterNumber (cs : List Char) : (afterNumber cs).length ≤ cs.length :=
  Nat.le_trans (length_afterWhole _) (List.dropWhile_suffix Char.isDigit).length_le

/-- A number takes its first digit away. -/
theorem length_afterNumber_cons {c : Char} (hc : c.isDigit = true) (cs : List Char) :
    (afterNumber (c :: cs)).length ≤ cs.length := by
  rw [afterNumber, List.dropWhile_cons_of_pos hc]
  exact length_afterNumber cs

theorem length_of_word? {word : List Char} (h : word? word cs = .ok rest) :
    rest.length ≤ cs.length := by
  induction word generalizing cs with
  | nil =>
    cases h
    exact Nat.le_refl _
  | cons d word ih =>
    rcases cs with _ | ⟨c, cs⟩
    · cases h
    · rw [word?] at h
      split_ifs at h
      exact Nat.le_succ_of_le (ih h)

theorem length_of_colon? (h : colon? cs = .ok rest) : rest.length < cs.length := by
  have hblanks := length_skipBlanks cs
  unfold colon? at h
  split at h
  case h_1 | h_3 => cases h
  case h_2 heq =>
    cases h
    rw [heq] at hblanks
    exact hblanks

/-- The end of an array takes a bracket away, and going to an item takes nothing back. -/
theorem length_of_nextItem? {first more : Bool} (h : nextItem? first cs = .ok (more, rest)) :
    rest.length ≤ cs.length ∧ (more = false → rest.length < cs.length) := by
  have hblanks := length_skipBlanks cs
  unfold nextItem? at h
  split at h
  case h_1 => cases h
  case h_2 heq =>
    cases h
    rw [heq, List.length_cons] at hblanks
    exact ⟨by omega, fun _ => by omega⟩
  case h_3 ds heq =>
    rw [heq, List.length_cons] at hblanks
    split_ifs at h
    · cases h
      exact ⟨by simpa using hblanks, by rintro ⟨⟩⟩
    · have hblanks' := length_skipBlanks ds
      split at h
      · cases h
      · cases h
      · cases h
        exact ⟨by omega, by rintro ⟨⟩⟩
  case h_4 ds _ _ _ =>
    split_ifs at h
    cases h
    exact ⟨hblanks, by rintro ⟨⟩⟩

theorem length_of_nextName? {first more : Bool} (h : nextName? first cs = .ok (more, rest)) :
    rest.length < cs.length := by
  have hblanks := length_skipBlanks cs
  unfold nextName? at h
  split at h
  case h_1 | h_5 => cases h
  case h_2 heq =>
    cases h
    rw [heq] at hblanks
    exact hblanks
  case h_3 heq =>
    split_ifs at h
    cases h
    rw [heq] at hblanks
    exact hblanks
  case h_4 ds heq =>
    rw [heq, List.length_cons] at hblanks
    split_ifs at h
    have hblanks' := length_skipBlanks ds
    split at h
    case h_1 | h_3 => cases h
    case h_2 heq' =>
      cases h
      rw [heq', List.length_cons] at hblanks'
      omega

/-! ### Texts -/

/-- What follows a backslash can be passed over, if the rest of the text can. -/
theorem skipText_of_escape? {c : Char} (h : escape? cs = .ok (c, ds))
    (hskip : ∀ fuel, ds.length < fuel → skipText fuel ds = .ok rest) (hfuel : cs.length + 1 < fuel) :
    skipText fuel ('\\' :: cs) = .ok rest := by
  obtain _ | fuel := fuel
  · omega
  · unfold escape? at h
    split at h
    case h_1 => cases h
    case h_2 digits =>
      obtain ⟨⟨n, ds'⟩, hunit, h⟩ := bind_eq_ok.mp h
      have hlength := length_of_hexUnit? hunit
      rw [List.length_cons] at hfuel
      refine bind_eq_ok.mpr ⟨(n, ds'), hunit, ?_⟩
      simp only at h ⊢
      split_ifs at h
      · -- the second half of a pair is passed over as a unit of its own
        unfold lowHalf? at h
        split at h
        case h_3 digits' =>
          obtain ⟨⟨low, ds''⟩, hlow, h⟩ := bind_eq_ok.mp h
          have hlength' := length_of_hexUnit? hlow
          simp only [List.length_cons] at hlength
          simp only at h
          split_ifs at h
          obtain ⟨-, rfl⟩ := Prod.mk.inj (Except.ok.inj h)
          obtain _ | fuel := fuel
          · omega
          · exact bind_eq_ok.mpr ⟨(low, ds''), hlow, hskip fuel (by omega)⟩
        all_goals cases h
      · cases h
        exact hskip fuel (by omega)
    case h_3 letter letters hletter =>
      split at h
      · cases h
        rename_i hsome
        rw [List.length_cons] at hfuel
        rw [skipText, hsome]
        · exact hskip fuel (by omega)
        · exact hletter
      · cases h

/-- A text that can be read can be passed over. -/
theorem skipText_of_textFrom {before : List Char} {s : String}
    (h : textFrom fuel before cs = .ok (s, rest)) (hfuel : cs.length < fuel') :
    skipText fuel' cs = .ok rest := by
  induction fuel generalizing before cs fuel' with
  | zero => cases h
  | succ fuel ih =>
    unfold textFrom at h
    split at h
    case h_1 => cases h
    case h_2 =>
      cases h
      obtain _ | fuel' := fuel'
      · omega
      · rfl
    case h_3 =>
      obtain ⟨⟨c, ds⟩, hc, h⟩ := bind_eq_ok.mp h
      exact skipText_of_escape? hc (fun fuel' hfuel' => ih h hfuel') hfuel
    case h_4 c ds hquote hbackslash =>
      split_ifs at h with hcontrol
      obtain _ | fuel' := fuel'
      · omega
      · rw [skipText, if_neg hcontrol]
        · exact ih h (by simpa using hfuel)
        · exact hquote
        · rintro rfl
          exact absurd rfl hbackslash
        · rintro rest rfl
          exact absurd rfl hbackslash
        · rintro c rest rfl
          exact absurd rfl hbackslash

/-! ### Numbers -/

section Numbers

variable {negative : Bool} {digits : Nat} {exponent : Int} {x : JsonNumber}

theorem skipDigits_ne_zero {c : Char} (hc : c.isDigit = true) (cs : List Char) :
    (skipDigits (c :: cs)).1 ≠ 0 := by
  rw [skipDigits, List.takeWhile_cons_of_pos hc]
  exact Nat.succ_ne_zero _

/-- An exponent has a digit. -/
theorem exists_skipExponent (h : exponent? negative digits exponent cs = .ok (x, rest)) :
    ∃ r, skipExponent cs = .ok r := by
  have hdigit : (skipDigits (afterSign cs)).1 ≠ 0 := by
    unfold exponent? at h
    split at h
    case h_1 down ds hds =>
      rw [afterSign_eq hds]
      split at h
      · cases h
      · split at h
        case isTrue => cases h
        case isFalse hc => exact skipDigits_ne_zero (by simpa using hc) _
  unfold skipExponent
  simp only
  split
  case h_1 heq => exact absurd (congrArg Prod.fst heq) hdigit
  case h_2 => exact ⟨_, rfl⟩

theorem exists_skipExponentOrEnd (h : exponentOrEnd? negative digits exponent cs = .ok (x, rest)) :
    ∃ r, skipExponentOrEnd cs = .ok r := by
  unfold exponentOrEnd? at h
  split at h
  case h_1 | h_2 => exact exists_skipExponent h
  case h_3 he hE =>
    refine ⟨cs, ?_⟩
    rw [skipExponentOrEnd]
    · exact he
    · exact hE

/-- A fraction has a digit. -/
theorem exists_skipEnd_of_fraction? (h : fraction? negative digits exponent cs = .ok (x, rest)) :
    ∃ r, skipEnd ('.' :: cs) = .ok r := by
  unfold fraction? at h
  simp only at h
  split_ifs at h with hnone
  rw [skipDigits, dropWhile_digitsFrom] at h
  obtain ⟨r, hr⟩ := exists_skipExponentOrEnd h
  rw [skipEnd]
  split
  case h_1 heq =>
    refine absurd ?_ hnone
    rcases cs with _ | ⟨c, cs⟩
    · rfl
    · have hc : ¬ c.isDigit = true := fun hc =>
        skipDigits_ne_zero hc cs (congrArg Prod.fst heq)
      simp [digitsFrom, hc, skipDigits]
  case h_2 heq =>
    rw [← dropWhile_of_skipDigits heq]
    exact ⟨r, hr⟩

theorem exists_skipEnd_of_exponentOrEnd? (hpoint : ∀ ds, cs ≠ '.' :: ds)
    (h : exponentOrEnd? negative digits exponent cs = .ok (x, rest)) :
    ∃ r, skipEnd cs = .ok r := by
  rw [skipEnd]
  · exact exists_skipExponentOrEnd h
  · exact hpoint

theorem exists_skipEnd {whole : Nat} (h : wholeEnd? negative whole cs = .ok (x, rest)) :
    ∃ r, skipEnd cs = .ok r := by
  unfold wholeEnd? at h
  split at h
  case h_1 => exact exists_skipEnd_of_fraction? h
  case h_2 | h_3 => exact exists_skipExponent h
  case h_4 hpoint he hE =>
    refine ⟨cs, ?_⟩
    rw [skipEnd, skipExponentOrEnd]
    · exact he
    · exact hE
    · exact hpoint

theorem skipNumber_zero (h : (skipDigits cs).1 = 0) : skipNumber ('0' :: cs) = skipEnd cs := by
  have hskip : skipDigits cs = (0, (skipDigits cs).2) := Prod.ext h rfl
  unfold skipNumber
  simp only
  rw [hskip]
  rfl

theorem skipNumber_digits (hzero : ∀ ds, cs ≠ '0' :: ds) (h : (skipDigits cs).1 ≠ 0) :
    skipNumber cs = skipEnd (cs.dropWhile Char.isDigit) := by
  unfold skipNumber
  simp only
  rfl

theorem exists_skipNumber (h : number? negative cs = .ok (x, rest)) :
    ∃ r, skipNumber cs = .ok r := by
  unfold number? at h
  split at h
  case h_1 => cases h
  case h_2 zeros =>
    split at h
    case h_1 c cs' =>
      split_ifs at h with hc
      rw [skipNumber_zero (by rw [skipDigits, List.takeWhile_cons_of_neg hc, List.length_nil])]
      exact exists_skipEnd h
    case h_2 =>
      rw [skipNumber_zero rfl]
      exact exists_skipEnd h
  case h_3 c cs' hzero =>
    split_ifs at h with hc
    have hdigit : c.isDigit = true := by simpa using hc
    have hdrop := dropWhile_digitsFrom 0 0 (c :: cs')
    rcases hread : digitsFrom 0 0 (c :: cs') with ⟨whole, count, ds⟩
    rcases hskip : skipDigits ds with ⟨surplus, tail⟩
    rw [hread, dropWhile_of_skipDigits hskip] at hdrop
    rw [skipNumber_digits (fun ds heq => hzero (List.cons.inj heq).1) (skipDigits_ne_zero hdigit cs'),
      ← hdrop]
    simp only [hread, hskip] at h
    split at h
    · exact exists_skipEnd h
    · split at h
      case h_1 => exact exists_skipEnd_of_fraction? h
      case h_2 hpoint => exact exists_skipEnd_of_exponentOrEnd? hpoint h

/-- A number that can be read can be passed over. -/
theorem skipNumber_of_number? (h : number? negative cs = .ok (x, rest)) :
    skipNumber cs = .ok rest := by
  obtain ⟨r, hr⟩ := exists_skipNumber h
  rw [hr, skipNumber_rest hr, number?_rest h]

end Numbers

/-! ### Values -/

/-- Whether a reader gives something, and what passes over it leaves the same, with fuel for two steps for
every character that is taken. There has to be one. -/
def Suffices {α : Type} (cs : List Char) (r : Read α) (read : Nat → Except JsonError (Read α))
    (skip : Nat → Except JsonError (List Char)) : Prop :=
  r.2.length < cs.length ∧
    ∀ fuel, 2 * cs.length ≤ fuel + 2 * r.2.length → read fuel = .ok r ∧ skip fuel = .ok r.2

section Suffices

variable {α β γ : Type} {r : Read α} {s : Read β} {read : Nat → Except JsonError (Read α)}
  {read' : Nat → Except JsonError (Read β)} {readBoth : Nat → Except JsonError (Read γ)}
  {skip skip' skipBoth : Nat → Except JsonError (List Char)}

/-- Where some character is taken, there is fuel for a step. -/
theorem Suffices.of_succ (hlength : r.2.length < cs.length)
    (h : ∀ fuel, 2 * cs.length ≤ fuel + 1 + 2 * r.2.length →
      read (fuel + 1) = .ok r ∧ skip (fuel + 1) = .ok r.2) : Suffices cs r read skip := by
  refine ⟨hlength, fun fuel hfuel => ?_⟩
  obtain _ | fuel := fuel
  · omega
  · exact h fuel hfuel

/-- What a reader that takes the first character away needs, by what it does then. -/
theorem Suffices.of_skipBlanks {c : Char} (hcs : skipBlanks cs = c :: ds)
    (hlength : r.2.length ≤ ds.length)
    (h : ∀ fuel, 2 * ds.length ≤ fuel + 2 * r.2.length →
      read (fuel + 1) = .ok r ∧ skip (fuel + 1) = .ok r.2) : Suffices cs r read skip := by
  have hblanks := length_skipBlanks cs
  rw [hcs, List.length_cons] at hblanks
  exact .of_succ (by omega) fun fuel hfuel => h fuel (by omega)

/-- What two readers one after the other need, each with the fuel that one step leaves. -/
theorem Suffices.andThen {v : γ} (h : Suffices ds r read skip) (h' : Suffices r.2 s read' skip')
    (hds : ds.length ≤ cs.length)
    (hboth : ∀ fuel, read fuel = .ok r → skip fuel = .ok r.2 → read' fuel = .ok s →
      skip' fuel = .ok s.2 → readBoth (fuel + 1) = .ok (v, s.2) ∧ skipBoth (fuel + 1) = .ok s.2) :
    Suffices cs (v, s.2) readBoth skipBoth := by
  obtain ⟨hlength, henough⟩ := h
  obtain ⟨hlength', henough'⟩ := h'
  refine .of_succ (by simp only; omega) fun fuel hfuel => ?_
  simp only at hfuel
  obtain ⟨hread, hskip⟩ := henough fuel (by omega)
  obtain ⟨hread', hskip'⟩ := henough' fuel (by omega)
  exact hboth fuel hread hskip hread' hskip'

end Suffices

/-- What readers with some fuel keep to: what they give they also give with fuel that suffices. -/
structure SufficesUpTo (fuel : Nat) : Prop where
  value : ∀ depth cs r, value? fuel depth cs = .ok r →
    Suffices cs r (value? · depth cs) (skip? · cs)
  items : ∀ depth first cs r, items? fuel depth first cs = .ok r →
    Suffices cs r (items? · depth first cs) (skipItems · first cs)
  members : ∀ depth first cs r, members? fuel depth first cs = .ok r →
    Suffices cs r (members? · depth first cs) (skipMembers · first cs)

theorem SufficesUpTo.value_succ (h : SufficesUpTo fuel) (depth : Nat) (cs : List Char)
    (r : Read Json) (hread : value? (fuel + 1) depth cs = .ok r) :
    Suffices cs r (value? · depth cs) (skip? · cs) := by
  simp only [value?] at hread
  split at hread
  case h_1 => cases hread
  case h_2 ds hcs | h_3 ds hcs | h_4 ds hcs =>
    obtain ⟨rest, hword, rfl⟩ := map_eq_ok.mp hread
    refine .of_skipBlanks hcs (length_of_word? hword) fun fuel' _ => ?_
    simp only [value?, skip?, hcs]
    exact ⟨hread, hword⟩
  case h_5 ds hcs =>
    obtain ⟨⟨n, rest⟩, hn, rfl⟩ := map_eq_ok.mp hread
    have hlength : rest.length ≤ ds.length := number?_rest hn ▸ length_afterNumber ds
    refine .of_skipBlanks hcs hlength fun fuel' _ => ?_
    simp only [value?, skip?, hcs]
    exact ⟨hread, skipNumber_of_number? hn⟩
  case h_6 ds hcs =>
    obtain ⟨⟨s, rest⟩, hs, rfl⟩ := map_eq_ok.mp hread
    have hlength : rest.length ≤ ds.length := textFrom_rest hs ▸ length_afterText ds
    refine .of_skipBlanks hcs hlength fun fuel' _ => ?_
    simp only [value?, skip?, hcs]
    exact ⟨hread, skipText_of_textFrom hs (Nat.lt_succ_self _)⟩
  case h_7 ds hcs =>
    split_ifs at hread with hdepth
    obtain ⟨⟨items, rest⟩, hitems, rfl⟩ := map_eq_ok.mp hread
    obtain ⟨hlength, henough⟩ := h.items _ _ _ _ hitems
    refine .of_skipBlanks hcs (Nat.le_of_lt hlength) fun fuel' hfuel' => ?_
    obtain ⟨hitems', hskip⟩ := henough fuel' hfuel'
    simp only [value?, skip?, hcs, if_neg hdepth]
    exact ⟨map_eq_ok.mpr ⟨_, hitems', rfl⟩, hskip⟩
  case h_8 ds hcs =>
    split_ifs at hread with hdepth
    obtain ⟨⟨members, rest⟩, hmembers, rfl⟩ := map_eq_ok.mp hread
    obtain ⟨hlength, henough⟩ := h.members _ _ _ _ hmembers
    refine .of_skipBlanks hcs (Nat.le_of_lt hlength) fun fuel' hfuel' => ?_
    obtain ⟨hmembers', hskip⟩ := henough fuel' hfuel'
    simp only [value?, skip?, hcs, if_neg hdepth]
    exact ⟨map_eq_ok.mpr ⟨_, hmembers', rfl⟩, hskip⟩
  case h_9 c ds _ _ _ _ _ _ _ hcs =>
    split_ifs at hread with hc
    obtain ⟨⟨n, rest⟩, hn, rfl⟩ := map_eq_ok.mp hread
    have hlength : rest.length ≤ ds.length := number?_rest hn ▸ length_afterNumber_cons hc ds
    refine .of_skipBlanks hcs hlength fun fuel' _ => ?_
    simp only [value?, skip?, hcs, if_pos hc]
    exact ⟨hread, skipNumber_of_number? hn⟩

theorem SufficesUpTo.items_succ (h : SufficesUpTo fuel) (depth : Nat) (first : Bool)
    (cs : List Char) (r : Read (List Json)) (hread : items? (fuel + 1) depth first cs = .ok r) :
    Suffices cs r (items? · depth first cs) (skipItems · first cs) := by
  obtain ⟨⟨more, ds⟩, hnext, hread⟩ := bind_eq_ok.mp hread
  obtain ⟨hle, hlt⟩ := length_of_nextItem? hnext
  rcases more with _ | _
  · cases hread
    exact .of_succ (hlt rfl) fun fuel' _ =>
      ⟨bind_eq_ok.mpr ⟨_, hnext, rfl⟩, bind_eq_ok.mpr ⟨_, hnext, rfl⟩⟩
  · obtain ⟨⟨v, ds'⟩, hv, hread⟩ := bind_eq_ok.mp hread
    obtain ⟨⟨vs, rest⟩, hvs, hread⟩ := bind_eq_ok.mp hread
    cases hread
    refine (h.value _ _ _ hv).andThen (h.items _ _ _ _ hvs) hle
      fun fuel' hread hskip hread' hskip' => ⟨?_, ?_⟩
    · exact bind_eq_ok.mpr ⟨_, hnext, bind_eq_ok.mpr ⟨_, hread, bind_eq_ok.mpr ⟨_, hread', rfl⟩⟩⟩
    · exact bind_eq_ok.mpr ⟨_, hnext, bind_eq_ok.mpr ⟨_, hskip, hskip'⟩⟩

theorem SufficesUpTo.members_succ (h : SufficesUpTo fuel) (depth : Nat) (first : Bool)
    (cs : List Char) (r : Read (List (String × Json)))
    (hread : members? (fuel + 1) depth first cs = .ok r) :
    Suffices cs r (members? · depth first cs) (skipMembers · first cs) := by
  obtain ⟨⟨more, ds⟩, hnext, hread⟩ := bind_eq_ok.mp hread
  have hlt := length_of_nextName? hnext
  rcases more with _ | _
  · cases hread
    exact .of_succ hlt fun fuel' _ =>
      ⟨bind_eq_ok.mpr ⟨_, hnext, rfl⟩, bind_eq_ok.mpr ⟨_, hnext, rfl⟩⟩
  · obtain ⟨⟨name, ds₁⟩, hname, hread⟩ := bind_eq_ok.mp hread
    obtain ⟨ds₂, hcolon, hread⟩ := bind_eq_ok.mp hread
    obtain ⟨⟨v, ds₃⟩, hv, hread⟩ := bind_eq_ok.mp hread
    obtain ⟨⟨vs, rest⟩, hvs, hread⟩ := bind_eq_ok.mp hread
    cases hread
    have hlt₁ : ds₁.length ≤ ds.length := textFrom_rest hname ▸ length_afterText ds
    have hlt₂ := length_of_colon? hcolon
    have hskipName := skipText_of_textFrom hname (Nat.lt_succ_self _)
    refine (h.value _ _ _ hv).andThen (h.members _ _ _ _ hvs) (by omega)
      fun fuel' hread hskip hread' hskip' => ⟨?_, ?_⟩
    · exact bind_eq_ok.mpr ⟨_, hnext, bind_eq_ok.mpr ⟨_, hname, bind_eq_ok.mpr ⟨_, hcolon,
        bind_eq_ok.mpr ⟨_, hread, bind_eq_ok.mpr ⟨_, hread', rfl⟩⟩⟩⟩⟩
    · exact bind_eq_ok.mpr ⟨_, hnext, bind_eq_ok.mpr ⟨_, hskipName, bind_eq_ok.mpr ⟨_, hcolon,
        bind_eq_ok.mpr ⟨_, hskip, hskip'⟩⟩⟩⟩

theorem sufficesUpTo (fuel : Nat) : SufficesUpTo fuel := by
  induction fuel with
  | zero =>
    refine ⟨?_, ?_, ?_⟩
    · rintro depth cs r ⟨⟩
    · rintro depth first cs r ⟨⟩
    · rintro depth first cs r ⟨⟩
  | succ fuel ih => exact ⟨ih.value_succ, ih.items_succ, ih.members_succ⟩

variable {depth : Nat} {v : Json}

theorem length_of_value? (h : value? fuel depth cs = .ok (v, rest)) : rest.length < cs.length :=
  ((sufficesUpTo fuel).value depth cs _ h).1

/-- **Fuel for two steps a character** is enough to read a value. -/
theorem value?_of_enough (h : value? fuel depth cs = .ok (v, rest))
    (hfuel : 2 * cs.length ≤ fuel' + 2 * rest.length) : value? fuel' depth cs = .ok (v, rest) :=
  (((sufficesUpTo fuel).value depth cs _ h).2 fuel' hfuel).1

/-- **A value that can be read** can be passed over. -/
theorem skip?_of_enough (h : value? fuel depth cs = .ok (v, rest))
    (hfuel : 2 * cs.length ≤ fuel' + 2 * rest.length) : skip? fuel' cs = .ok rest :=
  (((sufficesUpTo fuel).value depth cs _ h).2 fuel' hfuel).2

end Vigil.Json
