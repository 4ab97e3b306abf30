import Vigil.Text.Casing

/-! # Tables of characters

A table of characters is kept as text. What is checked of it is checked of the entries that the
words of the text denote (`entriesOf`); among the things to check is that no character it leads to
has an entry itself (`FixesImages`).

* `mem_entries_of_find?`: what is found is an entry;
* `IsFixed.find?_eq_none`: what has no entry is not found. -/

namespace Vigil.Text

open Vigil.Unicode

variable {m : Mapping} {entries : List (Nat × List Nat)} {images : List Nat} {n : Nat} {c : Char}

/-! ### Entries -/

theorem mem_entries_of_find? (h : m.find? n = some images) : (n, images) ∈ m.entries.toList := by
  unfold Mapping.find? at h
  simp only at h
  split at h
  case h_1 source _ heq =>
    split at h
    case isTrue hn =>
      cases h
      exact hn ▸ Array.mem_toList_iff.mpr (Array.mem_of_getElem? heq)
    case isFalse => cases h
  case h_2 => cases h

/-- The entry that a word of a table denotes. -/
def entryOf (item : List Char) : Nat × List Nat :=
  match parts ':' item with
  | [source, images] => (hexValue source, (parts ',' images).map hexValue)
  | _ => (0, [])

/-- The entries that the words of a text denote. -/
def entriesOf (cs : List Char) : List (Nat × List Nat) := (wordsFrom [] cs).map entryOf

/-- The table of the entries that the words of a text denote. -/
def tableOf (cs : List Char) : Mapping := ⟨(entriesOf cs).toArray⟩

theorem parse_ofList (cs : List Char) : Mapping.parse (String.ofList cs) = tableOf cs := by
  rw [Mapping.parse, words, String.toList_ofList]
  rfl

theorem entries_tableOf (cs : List Char) : (tableOf cs).entries.toList = entriesOf cs :=
  List.toList_toArray

/-! ### Characters without an entry -/

/-- A number with ones at the places of the sources of entries: the kernel is quick to look a place
up in it. -/
def sourceMask : List (Nat × List Nat) → Nat
  | [] => 0
  | entry :: entries => sourceMask entries ||| 1 <<< entry.1

theorem testBit_sourceMask (h : (n, images) ∈ entries) : (sourceMask entries).testBit n = true := by
  induction entries with
  | nil => cases h
  | cons entry entries ih =>
    rw [sourceMask, Nat.testBit_or, Bool.or_eq_true]
    rcases List.mem_cons.mp h with rfl | h
    · exact Or.inr (by simp)
    · exact Or.inl (ih h)

/-- Whether a character is no capital in ASCII and has, outside ASCII, no entry. -/
def IsFixed (entries : List (Nat × List Nat)) (c : Char) : Prop :=
  if c.toNat < 128 then asciiLower c = c else (sourceMask entries).testBit c.toNat = false

instance (entries : List (Nat × List Nat)) (c : Char) : Decidable (IsFixed entries c) :=
  inferInstanceAs (Decidable (ite _ _ _))

theorem IsFixed.find?_eq_none (h : IsFixed m.entries.toList c) (hc : ¬ c.toNat < 128) :
    m.find? c.toNat = none := by
  rw [IsFixed, if_neg hc] at h
  cases hfind : m.find? c.toNat with
  | none => rfl
  | some images => cases h.symm.trans (testBit_sourceMask (mem_entries_of_find? hfind))

/-- Whether the characters that entries lead to have none themselves. -/
def FixesImages (entries : List (Nat × List Nat)) : Prop :=
  ∀ entry ∈ entries, ∀ n ∈ entry.2, IsFixed entries (Char.ofNat n)

instance (entries : List (Nat × List Nat)) : Decidable (FixesImages entries) :=
  have (entry : Nat × List Nat) : Decidable (∀ n ∈ entry.2, IsFixed entries (Char.ofNat n)) :=
    List.decidableBAll _ entry.2
  List.decidableBAll _ entries

theorem FixesImages.isFixed (h : FixesImages m.entries.toList) (hfind : m.find? n = some images)
    (hc : c ∈ images.map Char.ofNat) : IsFixed m.entries.toList c := by
  obtain ⟨k, hk, rfl⟩ := List.mem_map.mp hc
  exact h _ (mem_entries_of_find? hfind) k hk

end Vigil.Text
