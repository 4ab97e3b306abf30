import Mathlib.Data.List.Basic
import Vigil.Normalizer.Description
import Vigil.Proofs.Text.Blanks

/-! # How mappings are written

A mapping is written as the name of a field (`IsName`), or as a function with the name in brackets
(`IsCall`); `Writes` is this grammar. A name has neither brackets nor blanks, so that the first
opening bracket ends the function and trimming what is in the brackets finds the name.

* `isFieldName_iff`: the names of fields;
* `call?_append`, `eq_of_call?`: how a text with brackets is split;
* `ofTrimmed?_eq_some_iff`: what is read is what the grammar says;
* `read?_iff_writes`: also with blanks around it, and the error for any other text. -/

namespace Vigil.Mapping

open Vigil.Text

variable {cs function argument : List Char} {c : Char} {name : String} {m : Mapping}

/-! ### Grammar -/

/-- Whether a text is the name of a field: alphabetic characters, numbers, underscores and dots, of
which none is a dot at the start or the end. -/
structure IsName (name : String) : Prop where
  characters : ∀ c ∈ name.toList, isAlphanumeric c = true ∨ c = '_' ∨ c = '.'
  ne_empty : name ≠ ""
  head : name.toList.head? ≠ some '.'
  last : name.toList.getLast? ≠ some '.'

/-- Whether a text is a function with a name in brackets. Blanks may stand around the name, but not
before the brackets. -/
def IsCall (function name : String) (cs : List Char) : Prop :=
  ∃ u w : String, cs = (function ++ "(" ++ u ++ name ++ w ++ ")").toList ∧
    (∀ c ∈ u.toList, isBlank c = true) ∧ ∀ c ∈ w.toList, isBlank c = true

/-- **The grammar of mappings.** Whether a mapping is written as a text. -/
inductive Writes : List Char → Mapping → Prop
  | field {name : String} (h : IsName name) : Writes name.toList (.field name)
  | baseName {cs : List Char} {name : String} (h : IsName name) (hcall : IsCall "baseName" name cs) :
    Writes cs (.baseName name)
  | dirName {cs : List Char} {name : String} (h : IsName name) (hcall : IsCall "dirName" name cs) :
    Writes cs (.dirName name)

/-! ### Names -/

theorem isFieldName_iff : isFieldName name.toList = true ↔ IsName name := by
  have hempty : name.toList.isEmpty = false ↔ name ≠ "" := by
    rw [List.isEmpty_eq_false_iff, ne_eq, String.toList_eq_nil_iff]
  simp only [isFieldName, Bool.and_eq_true, Bool.not_eq_true', hempty, bne_iff_ne, List.all_eq_true,
    isNameCharacter, Bool.or_eq_true, beq_iff_eq, or_assoc]
  constructor
  · rintro ⟨⟨⟨hne, hhead⟩, hlast⟩, hcharacters⟩
    exact ⟨hcharacters, hne, hhead, hlast⟩
  · intro h
    exact ⟨⟨⟨h.ne_empty, h.head⟩, h.last⟩, h.characters⟩

theorem IsName.isBlank (h : IsName name) (hc : c ∈ name.toList) : isBlank c = false := by
  rw [← Bool.not_eq_true]
  intro hblank
  rcases h.characters c hc with hword | rfl | rfl
  · cases hword.symm.trans (isAlphanumeric_of_isBlank hblank)
  · exact absurd hblank (by decide)
  · exact absurd hblank (by decide)

theorem IsName.closing_not_mem (h : IsName name) : ')' ∉ name.toList := by
  intro hc
  rcases h.characters ')' hc with hword | hunderscore | hdot
  · exact absurd hword (by decide)
  · cases hunderscore
  · cases hdot

/-! ### Brackets -/

theorem call?_append (h : '(' ∉ function) (argument : List Char) :
    call? (function ++ '(' :: argument ++ [')']) = some (function, argument) := by
  have hne : ∀ c ∈ function, (c != '(') = true := by
    intro c hc
    rw [bne_iff_ne]
    rintro rfl
    exact h hc
  rw [call?, List.getLast?_concat, List.dropLast_concat, if_pos ⟨rfl, by simp⟩]
  simp [List.takeWhile_append_of_pos hne, List.dropWhile_append_of_pos hne]

/-- Only a text with a bracket that closes at the end is split, and this at the first opening one. -/
theorem eq_of_call? (h : call? cs = some (function, argument)) :
    cs = function ++ '(' :: argument ++ [')'] := by
  have hcall : cs.getLast? = some ')' ∧ '(' ∈ cs.dropLast := by
    by_contra hcall
    rw [call?, if_neg hcall] at h
    cases h
  obtain ⟨inner, rfl⟩ := List.getLast?_eq_some_iff.mp hcall.1
  rw [List.dropLast_concat] at hcall
  obtain ⟨before, after, rfl, hbefore⟩ := List.eq_append_cons_of_mem hcall.2
  rw [call?_append hbefore] at h
  cases h
  rfl

theorem call?_of_not_mem (h : ')' ∉ cs) : call? cs = none := by
  have hlast : cs.getLast? ≠ some ')' := fun hlast => h (List.mem_of_getLast? hlast)
  rw [call?, if_neg fun hcall => hlast hcall.1]

/-- What trimming leaves of the text in the brackets stands between blanks. -/
theorem isCall_of_call? (h : call? cs = some (function, argument)) :
    IsCall (String.ofList function) (String.ofList (trim argument)) cs := by
  obtain ⟨u, w, hargument, hu, hw⟩ := exists_trim_eq argument
  have hcs : cs = function ++ '(' :: (u ++ trim argument ++ w) ++ [')'] := by
    rw [← hargument]
    exact eq_of_call? h
  refine ⟨String.ofList u, String.ofList w, ?_, by simpa using hu, by simpa using hw⟩
  simpa using hcs

/-! ### Reading -/

theorem ofTrimmed?_of_isCall {f : String} (hf : '(' ∉ f.toList) (hname : IsName name)
    (hcall : IsCall f name cs) : ofTrimmed? cs = ofFunction? f name := by
  obtain ⟨u, w, rfl, hu, hw⟩ := hcall
  have hcs : (f ++ "(" ++ u ++ name ++ w ++ ")").toList =
      f.toList ++ '(' :: (u.toList ++ name.toList ++ w.toList) ++ [')'] := by simp
  have htrim : trim (u.toList ++ name.toList ++ w.toList) = name.toList :=
    trim_of_blanks_around hu (fun c => hname.isBlank) hw
  rw [hcs, ofTrimmed?, call?_append hf]
  simp only [htrim, isFieldName_iff.mpr hname, if_true, String.ofList_toList]

theorem writes_of_ofFunction? {f : String} (hname : IsName name) (hcall : IsCall f name cs)
    (h : ofFunction? f name = some m) : Writes cs m := by
  unfold ofFunction? at h
  split at h
  case h_1 =>
    cases h
    exact .baseName hname hcall
  case h_2 =>
    cases h
    exact .dirName hname hcall
  case h_3 => cases h

/-- **The reader and the grammar**, for a text without blanks around it. -/
theorem ofTrimmed?_eq_some_iff : ofTrimmed? cs = some m ↔ Writes cs m := by
  constructor
  · intro h
    unfold ofTrimmed? at h
    split at h
    case h_1 =>
      obtain ⟨name, rfl⟩ : ∃ name : String, cs = name.toList :=
        ⟨String.ofList cs, String.toList_ofList.symm⟩
      split_ifs at h with hname
      rw [String.ofList_toList] at h
      cases h
      exact .field (isFieldName_iff.mp hname)
    case h_2 function argument hcall =>
      split_ifs at h with hname
      rw [← String.toList_ofList (l := trim argument), isFieldName_iff] at hname
      exact writes_of_ofFunction? hname (isCall_of_call? hcall) h
  · intro h
    cases h with
    | field hname =>
      rw [ofTrimmed?, call?_of_not_mem hname.closing_not_mem]
      simp [isFieldName_iff.mpr hname]
    | baseName hname hcall => exact ofTrimmed?_of_isCall (by decide) hname hcall
    | dirName hname hcall => exact ofTrimmed?_of_isCall (by decide) hname hcall

theorem ofTrimmed?_eq_none_iff : ofTrimmed? cs = none ↔ ∀ m, ¬ Writes cs m := by
  simp only [Option.eq_none_iff_forall_ne_some, ne_eq, ofTrimmed?_eq_some_iff]

/-- **Reading mappings.** A text is read as a mapping if and only if the mapping is written as the
text without the blanks around it: as the name of its field, or as its function with the name in
brackets. Every other text is refused, and the error shows it without the blanks around it. -/
theorem read?_iff_writes (text : String) :
    (∀ m, read? text = some m ↔ Writes (trim text.toList) m) ∧
      ∀ target : String,
        (∀ entry, ofEntry? (target, text) = .ok entry ↔
          ∃ m, Writes (trim text.toList) m ∧ entry = (target, m)) ∧
        ∀ e, ofEntry? (target, text) = .error e ↔
          (∀ m, ¬ Writes (trim text.toList) m) ∧
            e = .mapping (String.ofList (trim text.toList)) := by
  refine ⟨fun m => ofTrimmed?_eq_some_iff, fun target => ⟨fun entry => ?_, fun e => ?_⟩⟩
  · simp only [← ofTrimmed?_eq_some_iff, read?, ofEntry?]
    cases ofTrimmed? (trim text.toList) <;> simp [eq_comm]
  · rw [← ofTrimmed?_eq_none_iff]
    simp only [read?, ofEntry?]
    cases ofTrimmed? (trim text.toList) <;> simp [eq_comm]

/-- Calls in calls, two names, brackets without a partner, blanks before a bracket and functions
that there are not. -/
example : ∀ text ∈ ["baseName(dirName(p))", "baseName(p, q)", "baseName(p", "baseName(p))", "p)",
    "baseName (p)", "basename(p)", "lower(p)", "baseName()", ".p"], read? text = none := by
  decide +kernel

end Vigil.Mapping
