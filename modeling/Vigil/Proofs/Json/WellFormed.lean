import Mathlib.Data.List.DropRight
import Vigil.Json.Reader
import Vigil.Proofs.Json.Members
import Vigil.Proofs.Results

/-! # Well-formed JSON values

In a value that is read the members of each object are in the order of their names, each name once, and a
number has a sign only if it is negative.

* `isProper_of_number?`: numbers that are read;
* `wellFormed_value?`, `wellFormed_of_read?`: values that are read;
* `value?_object`, `exists_brace`: a value is an object if its text begins as one. -/

namespace Vigil

/-- Whether a number has a sign only if it is negative. -/
def JsonNumber.IsProper : JsonNumber → Prop
  | .negative i => i.toInt < 0
  | _ => True

namespace Json

open Vigil.Decimal

/-! ### Numbers -/

section Numbers

variable {negative : Bool} {digits : Nat} {exponent : Int} {cs rest : List Char} {n : JsonNumber}

theorem isProper_of_float? (h : float? negative digits exponent = .ok n) : n.IsProper := by
  unfold float? at h
  split at h
  · cases h
    trivial
  · cases h

theorem isProper_of_exponent? (h : exponent? negative digits exponent cs = .ok (n, rest)) :
    n.IsProper := by
  unfold exponent? at h
  split at h
  split at h
  · cases h
  · split at h
    · cases h
    · split at h
      · obtain ⟨x, hx, heq⟩ := map_eq_ok.mp h
        cases heq
        exact isProper_of_float? hx
      · split at h
        · cases h
        · cases h
          trivial

theorem isProper_of_exponentOrEnd? (h : exponentOrEnd? negative digits exponent cs = .ok (n, rest)) :
    n.IsProper := by
  unfold exponentOrEnd? at h
  split at h
  case h_1 | h_2 => exact isProper_of_exponent? h
  case h_3 =>
    obtain ⟨x, hx, heq⟩ := map_eq_ok.mp h
    cases heq
    exact isProper_of_float? hx

theorem isProper_of_fraction? (h : fraction? negative digits exponent cs = .ok (n, rest)) :
    n.IsProper := by
  unfold fraction? at h
  simp only at h
  split_ifs at h
  exact isProper_of_exponentOrEnd? h

theorem isProper_ofWhole (negative : Bool) (whole : Nat) : (ofWhole negative whole).IsProper := by
  unfold ofWhole
  split_ifs with hsign hwhole
  · trivial
  · trivial
  · obtain ⟨hzero, hlimit⟩ := not_or.mp hwhole
    have hint : (Int64.ofInt (-(whole : Int))).toInt = -(whole : Int) := by
      refine Int64.toInt_ofInt_of_le ?_ ?_
      · simp only [Nat.pow_eq] at hlimit
        omega
      · omega
    show (Int64.ofInt (-(whole : Int))).toInt < 0
    omega

theorem isProper_of_wholeEnd? {whole : Nat} (h : wholeEnd? negative whole cs = .ok (n, rest)) :
    n.IsProper := by
  unfold wholeEnd? at h
  split at h
  case h_1 => exact isProper_of_fraction? h
  case h_2 | h_3 => exact isProper_of_exponent? h
  case h_4 =>
    cases h
    exact isProper_ofWhole negative whole

/-- A number that is read has a sign only if it is negative. -/
theorem isProper_of_number? {r : Read JsonNumber} (h : number? negative cs = .ok r) :
    r.1.IsProper := by
  unfold number? at h
  split at h
  case h_1 => cases h
  case h_2 =>
    split at h
    · split_ifs at h
      exact isProper_of_wholeEnd? h
    · exact isProper_of_wholeEnd? h
  case h_3 =>
    split_ifs at h
    simp only at h
    split at h
    · exact isProper_of_wholeEnd? h
    · split at h
      · exact isProper_of_fraction? h
      · exact isProper_of_exponentOrEnd? h

end Numbers

/-! ### Values -/

/-- Whether a value is well-formed: the members of each object in it are in the order of their names, and
each number with a sign is negative. -/
inductive WellFormed : Json → Prop
  | null : WellFormed .null
  | boolean (b : Bool) : WellFormed (.boolean b)
  | number {n : JsonNumber} (h : n.IsProper) : WellFormed (.number n)
  | text (s : String) : WellFormed (.text s)
  | array {items : List Json} (h : ∀ v ∈ items, WellFormed v) : WellFormed (.array items)
  | object {members : List (String × Json)} (names : NamesIncrease members)
    (h : ∀ m ∈ members, WellFormed m.2) : WellFormed (.object members)

theorem wellFormed_ofMembers {members : List (String × Json)} (h : ∀ m ∈ members, m.2.WellFormed) :
    (ofMembers members).WellFormed :=
  .object (namesIncrease_foldl_insert members) fun m hm => h m (mem_of_mem_foldl_insert hm)

/-- What the readers keep to with some fuel: what they read is well-formed. -/
structure WellFormedUpTo (fuel : Nat) : Prop where
  value : ∀ depth cs r, value? fuel depth cs = .ok r → r.1.WellFormed
  items : ∀ depth first cs r, items? fuel depth first cs = .ok r → ∀ v ∈ r.1, v.WellFormed
  members : ∀ depth first cs r, members? fuel depth first cs = .ok r → ∀ m ∈ r.1, m.2.WellFormed

variable {fuel : Nat}

theorem WellFormedUpTo.value_succ (h : WellFormedUpTo fuel) (depth : Nat) (cs : List Char)
    (r : Read Json) (hread : value? (fuel + 1) depth cs = .ok r) : r.1.WellFormed := by
  simp only [value?] at hread
  split at hread
  case h_1 => cases hread
  case h_2 =>
    obtain ⟨rest, -, rfl⟩ := map_eq_ok.mp hread
    exact .null
  case h_3 =>
    obtain ⟨rest, -, rfl⟩ := map_eq_ok.mp hread
    exact .boolean true
  case h_4 =>
    obtain ⟨rest, -, rfl⟩ := map_eq_ok.mp hread
    exact .boolean false
  case h_5 =>
    obtain ⟨n, hn, rfl⟩ := map_eq_ok.mp hread
    exact .number (isProper_of_number? hn)
  case h_6 =>
    obtain ⟨s, -, rfl⟩ := map_eq_ok.mp hread
    exact .text s.1
  case h_7 =>
    split_ifs at hread
    obtain ⟨items, hitems, rfl⟩ := map_eq_ok.mp hread
    exact .array (h.items _ _ _ items hitems)
  case h_8 =>
    split_ifs at hread
    obtain ⟨members, hmembers, rfl⟩ := map_eq_ok.mp hread
    exact wellFormed_ofMembers (h.members _ _ _ members hmembers)
  case h_9 =>
    split_ifs at hread
    obtain ⟨n, hn, rfl⟩ := map_eq_ok.mp hread
    exact .number (isProper_of_number? hn)

theorem WellFormedUpTo.items_succ (h : WellFormedUpTo fuel) (depth : Nat) (first : Bool)
    (cs : List Char) (r : Read (List Json)) (hread : items? (fuel + 1) depth first cs = .ok r) :
    ∀ v ∈ r.1, v.WellFormed := by
  obtain ⟨⟨more, rest⟩, -, hread⟩ := bind_eq_ok.mp hread
  rcases more with _ | _
  · cases hread
    simp
  · obtain ⟨⟨v, rest⟩, hv, hread⟩ := bind_eq_ok.mp hread
    obtain ⟨⟨vs, rest⟩, hvs, hread⟩ := bind_eq_ok.mp hread
    cases hread
    exact List.forall_mem_cons.mpr ⟨h.value _ _ _ hv, h.items _ _ _ _ hvs⟩

theorem WellFormedUpTo.members_succ (h : WellFormedUpTo fuel) (depth : Nat) (first : Bool)
    (cs : List Char) (r : Read (List (String × Json)))
    (hread : members? (fuel + 1) depth first cs = .ok r) : ∀ m ∈ r.1, m.2.WellFormed := by
  obtain ⟨⟨more, rest⟩, -, hread⟩ := bind_eq_ok.mp hread
  rcases more with _ | _
  · cases hread
    simp
  · obtain ⟨⟨name, rest⟩, -, hread⟩ := bind_eq_ok.mp hread
    obtain ⟨rest, -, hread⟩ := bind_eq_ok.mp hread
    obtain ⟨⟨v, rest⟩, hv, hread⟩ := bind_eq_ok.mp hread
    obtain ⟨⟨others, rest⟩, hothers, hread⟩ := bind_eq_ok.mp hread
    cases hread
    exact List.forall_mem_cons.mpr ⟨h.value _ _ _ hv, h.members _ _ _ _ hothers⟩

theorem wellFormedUpTo (fuel : Nat) : WellFormedUpTo fuel := by
  induction fuel with
  | zero =>
    refine ⟨?_, ?_, ?_⟩
    · rintro depth cs r ⟨⟩
    · rintro depth first cs r ⟨⟩
    · rintro depth first cs r ⟨⟩
  | succ fuel ih => exact ⟨ih.value_succ, ih.items_succ, ih.members_succ⟩

/-- A value that is read is well-formed. -/
theorem wellFormed_value? {depth : Nat} {cs rest : List Char} {v : Json}
    (h : value? fuel depth cs = .ok (v, rest)) : v.WellFormed :=
  (wellFormedUpTo fuel).value depth cs (v, rest) h

/-! ### Objects -/

section Objects

variable {depth : Nat} {cs ds rest : List Char} {v : Json}

theorem skipBlanks_skipBlanks (cs : List Char) : skipBlanks (skipBlanks cs) = skipBlanks cs :=
  List.dropWhile_idempotent isBlank cs

theorem value?_skipBlanks (fuel depth : Nat) (cs : List Char) :
    value? fuel depth (skipBlanks cs) = value? fuel depth cs := by
  rcases fuel with _ | fuel
  · rfl
  · rw [value?, value?, skipBlanks_skipBlanks]

/-- What a brace begins is the object of the members behind it. -/
theorem value?_object (h : value? fuel depth cs = .ok (v, rest)) (hcs : skipBlanks cs = '\x7b' :: ds) :
    ∃ fuel' members, members? fuel' (depth + 1) true ds = .ok (members, rest) ∧
      v = ofMembers members := by
  rcases fuel with _ | fuel
  · cases h
  · simp only [value?, hcs] at h
    split_ifs at h
    obtain ⟨⟨members, rest'⟩, hmembers, heq⟩ := map_eq_ok.mp h
    cases heq
    exact ⟨fuel, members, hmembers, rfl⟩

/-- Whether a text is that of an object with given members, in their order and with repeated names. -/
def IsObjectText (text : String) (members : List (String × Json)) : Prop :=
  ∃ ds fuel rest, skipBlanks text.toList = '\x7b' :: ds ∧
    members? fuel 1 true ds = .ok (members, rest) ∧ atEnd rest = .ok ()

/-- A brace begins an object. -/
theorem exists_brace {sorted : List (String × Json)}
    (h : value? fuel depth cs = .ok (.object sorted, rest)) :
    ∃ ds, skipBlanks cs = '\x7b' :: ds := by
  rcases fuel with _ | fuel
  · cases h
  · simp only [value?] at h
    split at h
    case h_1 => cases h
    case h_8 ds hds => exact ⟨ds, hds⟩
    case h_7 | h_9 =>
      split_ifs at h
      obtain ⟨_, _, heq⟩ := map_eq_ok.mp h
      cases heq
    all_goals
      obtain ⟨_, _, heq⟩ := map_eq_ok.mp h
      cases heq

end Objects

/-- A value that is a whole text is well-formed. -/
theorem wellFormed_of_read? {text : String} {v : Json} (h : read? text = .ok v) : v.WellFormed := by
  obtain ⟨⟨v', rest⟩, hv, h⟩ := bind_eq_ok.mp h
  obtain ⟨-, -, heq⟩ := bind_eq_ok.mp h
  cases heq
  exact wellFormed_value? hv

end Json

end Vigil
