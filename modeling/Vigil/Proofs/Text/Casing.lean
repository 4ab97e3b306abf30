import Vigil.Proofs.Text.Tables

/-! # Lower case and ASCII

Two texts of which one is plain ASCII agree in lower case if and only if they agree up to the case
of ASCII letters, unless there is a `k` in them: the Kelvin sign is the one character outside ASCII
with a lower-case form inside.

* `isForeign_lowerChar`: the lower-case forms of the characters outside ASCII;
* `lowerChar_of_mem_lowerChar`: the characters of a lower-case form are their own;
* `lower_eq_iff`: which texts have a given lower-case form. -/

namespace Vigil.Text

open Vigil.Unicode

/-! ### Characters of ASCII -/

/-- A property of the ASCII characters, checked one by one. -/
theorem forall_ascii {P : Char → Prop} {c : Char} (h : ∀ n < 128, P (Char.ofNat n))
    (hc : c.toNat < 128) : P c := by
  have hn := h c.toNat hc
  rwa [Char.ofNat_toNat] at hn

theorem asciiLower_of_small {c : Char} (hc : c.toNat < 128) :
    (asciiLower c).toNat < 128 ∧ asciiLower (asciiLower c) = asciiLower c :=
  forall_ascii
    (P := fun c => (asciiLower c).toNat < 128 ∧ asciiLower (asciiLower c) = asciiLower c)
    (by decide) hc

theorem asciiLower_of_large {c : Char} (h : ¬ c.toNat < 128) : asciiLower c = c := by
  unfold asciiLower
  rw [if_neg]
  rintro ⟨-, hle⟩
  have hval : c.toNat ≤ 'Z'.toNat := hle
  have : 'Z'.toNat = 90 := rfl
  omega

theorem toUpper_eq_asciiUpper (c : Char) : c.toUpper = asciiUpper c := by
  by_cases hc : c.toNat < 128
  · exact forall_ascii (P := fun c => c.toUpper = asciiUpper c) (by decide) hc
  · have hz : 'z'.toNat = 122 := rfl
    have hle : ¬('a' ≤ c ∧ c ≤ 'z') := by
      rintro ⟨-, hle⟩
      have hval : c.toNat ≤ 'z'.toNat := hle
      omega
    rw [asciiUpper, if_neg hle]
    exact dif_neg hle

/-- A function of characters does not tell capitals from small letters if it does not in ASCII. -/
theorem apply_asciiLower {α : Type} {f : Char → α}
    (h : ∀ n < 128, f (asciiLower (Char.ofNat n)) = f (Char.ofNat n)) (c : Char) :
    f (asciiLower c) = f c := by
  by_cases hc : c.toNat < 128
  · exact forall_ascii (P := fun c => f (asciiLower c) = f c) h hc
  · rw [asciiLower_of_large hc]

theorem isAlpha_asciiLower (c : Char) : (asciiLower c).isAlpha = c.isAlpha :=
  apply_asciiLower (by decide) c

theorem asciiLower_of_not_isAlpha {c : Char} (h : c.isAlpha = false) : asciiLower c = c := by
  by_cases hc : c.toNat < 128
  · exact forall_ascii (P := fun c => c.isAlpha = false → asciiLower c = c) (by decide) hc h
  · exact asciiLower_of_large hc

/-- A character that is no ASCII letter is the small form of itself only. -/
theorem asciiLower_eq_iff {c d : Char} (h : d.isAlpha = false) : asciiLower c = d ↔ c = d := by
  constructor
  · rintro rfl
    rw [isAlpha_asciiLower] at h
    exact (asciiLower_of_not_isAlpha h).symm
  · rintro rfl
    exact asciiLower_of_not_isAlpha h

/-! ### The table of lower-case forms -/

/-- Whether a lower-case form is not one of a text of ASCII characters without a `k`. -/
def IsForeign (cs : List Char) : Prop := cs = ['k'] ∨ ∃ d ∈ cs, 128 ≤ d.toNat

instance (cs : List Char) : Decidable (IsForeign cs) :=
  have : Decidable (∃ d ∈ cs, 128 ≤ d.toNat) := List.decidableBEx _ cs
  instDecidableOr

set_option maxRecDepth 1000000 in
-- the table is taken as a list of characters: the kernel is slow to read a text one by one
theorem exists_lowercasePairs_eq : ∃ cs, lowercasePairs = Mapping.parse (String.ofList cs) ∧
    (∀ entry ∈ entriesOf cs, IsForeign (entry.2.map Char.ofNat)) ∧ FixesImages (entriesOf cs) ∧
    (tableOf cs).find? 'İ'.toNat = some [0x69, 0x307] ∧
    (tableOf cs).find? 'Σ'.toNat = some [0x3C3] := by
  unfold lowercasePairs
  with_reducible refine ⟨_, rfl, ?_⟩
  decide +kernel

theorem isForeign_of_find? {n : Nat} {images : List Nat}
    (h : lowercasePairs.find? n = some images) : IsForeign (images.map Char.ofNat) := by
  obtain ⟨cs, htable, hforeign, -⟩ := exists_lowercasePairs_eq
  have hmem := mem_entries_of_find? h
  rw [htable, parse_ofList, entries_tableOf] at hmem
  exact hforeign _ hmem

theorem fixesImages_lowercasePairs : FixesImages lowercasePairs.entries.toList := by
  obtain ⟨cs, htable, -, hfixed, -⟩ := exists_lowercasePairs_eq
  rwa [htable, parse_ofList, entries_tableOf]

/-! ### Lower-case forms -/

theorem lowerChar_of_small {c : Char} (h : c.toNat < 128) : lowerChar c = [asciiLower c] := if_pos h

theorem lowerChar_of_find? {c : Char} {images : List Nat} (h : ¬ c.toNat < 128)
    (hfind : lowercasePairs.find? c.toNat = some images) :
    lowerChar c = images.map Char.ofNat := by
  rw [lowerChar, if_neg h, hfind]

theorem isForeign_lowerChar {c : Char} (h : ¬ c.toNat < 128) : IsForeign (lowerChar c) := by
  unfold lowerChar
  rw [if_neg h]
  split
  case h_1 images himages => exact isForeign_of_find? himages
  case h_2 => exact Or.inr ⟨c, List.mem_singleton_self c, by omega⟩

/-- Characters that the table leaves as they are, as are those that it sends others to. -/
theorem lowerChar_of_isFixed {c : Char} (h : IsFixed lowercasePairs.entries.toList c) :
    lowerChar c = [c] := by
  by_cases hc : c.toNat < 128
  · rw [IsFixed, if_pos hc] at h
    rw [lowerChar_of_small hc, h]
  · rw [lowerChar, if_neg hc, h.find?_eq_none hc]

/-- The capital I with a dot above becomes a small one and a combining dot. -/
theorem lowerChar_dotted : lowerChar 'İ' = ['i', '\u0307'] := by
  obtain ⟨cs, htable, -, -, hfind, -⟩ := exists_lowercasePairs_eq
  rw [← parse_ofList, ← htable] at hfind
  exact lowerChar_of_find? (by decide) hfind

/-- By itself a capital sigma becomes a small one that is not final. -/
theorem lowerChar_sigma : lowerChar 'Σ' = ['σ'] := by
  obtain ⟨cs, htable, -, -, -, hfind⟩ := exists_lowercasePairs_eq
  rw [← parse_ofList, ← htable] at hfind
  exact lowerChar_of_find? (by decide) hfind

/-- The characters of a lower-case form are their own. -/
theorem lowerChar_of_mem_lowerChar {c d : Char} (h : d ∈ lowerChar c) : lowerChar d = [d] := by
  by_cases hc : c.toNat < 128
  · obtain ⟨hsmall, hlower⟩ := asciiLower_of_small hc
    rw [lowerChar_of_small hc] at h
    obtain rfl := List.mem_singleton.mp h
    rw [lowerChar_of_small hsmall, hlower]
  · cases hfind : lowercasePairs.find? c.toNat with
    | none =>
      have hform : lowerChar c = [c] := by rw [lowerChar, if_neg hc, hfind]
      obtain rfl : d = c := by simpa [hform] using h
      exact hform
    | some images =>
      rw [lowerChar_of_find? hc hfind] at h
      exact lowerChar_of_isFixed (fixesImages_lowercasePairs.isFixed hfind h)

/-- Whether a text is one of ASCII characters without a `k`. -/
def IsDomestic (cs : List Char) : Prop := ∀ c ∈ cs, c.toNat < 128 ∧ c ≠ 'k'

instance (cs : List Char) : Decidable (IsDomestic cs) := List.decidableBAll _ cs

theorem IsForeign.append_ne {cs ds expected : List Char} (hcs : IsForeign cs)
    (h : IsDomestic expected) : cs ++ ds ≠ expected := by
  rintro rfl
  rcases hcs with rfl | ⟨d, hd, hlarge⟩
  · exact (h 'k' (by simp)).2 rfl
  · have := (h d (List.mem_append_left ds hd)).1
    omega

theorem lowerAfter_eq_iff {cs expected before : List Char} (h : IsDomestic expected) :
    lowerAfter before cs = expected ↔ cs.map asciiLower = expected := by
  induction cs generalizing expected before with
  | nil => rfl
  | cons c cs ih =>
    rw [lowerAfter, List.map_cons]
    by_cases hc : c.toNat < 128
    · have hsigma : c ≠ 'Σ' := by
        rintro rfl
        exact absurd hc (by decide)
      rw [if_neg hsigma, lowerChar_of_small hc, List.singleton_append]
      rcases expected with _ | ⟨e, expected⟩
      · simp
      · have htail : IsDomestic expected := fun d hd => h d (List.mem_cons_of_mem e hd)
        rw [List.cons.injEq, List.cons.injEq, ih htail]
    · have hfirst : IsForeign (if c = 'Σ' then
          [if meetsCased before && !meetsCased cs then 'ς' else 'σ'] else lowerChar c) := by
        split
        · refine Or.inr ⟨_, List.mem_singleton_self _, ?_⟩
          split <;> decide
        · exact isForeign_lowerChar hc
      constructor
      · intro heq
        exact absurd heq (hfirst.append_ne h)
      · intro heq
        have hlarge : IsForeign [asciiLower c] := by
          rw [asciiLower_of_large hc]
          exact Or.inr ⟨c, List.mem_singleton_self c, by omega⟩
        exact absurd heq (hlarge.append_ne h)

/-- **Lower case and ASCII.** A text has a lower-case form in ASCII, without a `k`, if and only if
this is what it becomes when its ASCII capitals are made small. -/
theorem lower_eq_iff {cs expected : List Char} (h : IsDomestic expected) :
    lower cs = expected ↔ cs.map asciiLower = expected :=
  lowerAfter_eq_iff h

end Vigil.Text
