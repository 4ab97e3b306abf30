import Mathlib.Data.List.DropRight
import Vigil.Normalizer.Mapping
import Vigil.Proofs.Event.Fields

/-! # The parts of a path

A path is split at its last separator (`SplitsAt`): what follows has none, and what precedes it is any
text.

* `splitPath_eq_none`, `splitPath_eq_some`: when a path has separators, and what the parts are;
* `splitPath_of_no_separator`, `splitPath_append`: the parts that given texts are;
* `baseName_eq`: the last part is the longest end of the path without a separator;
* `mappings_split_path`: the two mappings that give the parts. -/

namespace Vigil

variable {c : Char} {cs dir base : List Char}

theorem splitPath_cons (c : Char) (cs : List Char) : splitPath (c :: cs) =
    match splitPath cs with
    | (some dir, base) => (some (c :: dir), base)
    | (none, base) => if isPathSeparator c then (some [], base) else (none, c :: base) := rfl

theorem splitPath_eq_none (h : splitPath cs = (none, base)) :
    base = cs ∧ ∀ c ∈ cs, isPathSeparator c = false := by
  induction cs generalizing base with
  | nil =>
    cases h
    exact ⟨rfl, fun _ hc => absurd hc List.not_mem_nil⟩
  | cons c cs ih =>
    rw [splitPath_cons] at h
    rcases hsplit : splitPath cs with ⟨_ | dir, base'⟩
    · obtain ⟨rfl, hcs⟩ := ih hsplit
      simp only [hsplit] at h
      split at h
      case isTrue => cases h
      case isFalse hc =>
        cases h
        exact ⟨rfl, List.forall_mem_cons.mpr ⟨by simpa using hc, hcs⟩⟩
    · simp [hsplit] at h

theorem splitPath_eq_some (h : splitPath cs = (some dir, base)) :
    ∃ c, isPathSeparator c = true ∧ cs = dir ++ c :: base ∧
      ∀ d ∈ base, isPathSeparator d = false := by
  induction cs generalizing dir base with
  | nil => cases h
  | cons c cs ih =>
    rw [splitPath_cons] at h
    rcases hsplit : splitPath cs with ⟨_ | dir', base'⟩
    · obtain ⟨rfl, hcs⟩ := splitPath_eq_none hsplit
      simp only [hsplit] at h
      split at h
      case isTrue hc =>
        cases h
        exact ⟨c, hc, rfl, hcs⟩
      case isFalse => cases h
    · simp only [hsplit, Prod.mk.injEq, Option.some.injEq] at h
      obtain ⟨rfl, rfl⟩ := h
      obtain ⟨s, hs, rfl, hbase⟩ := ih hsplit
      exact ⟨s, hs, rfl, hbase⟩

/-- What follows the last separator is the longest end without one. -/
theorem splitPath_snd : (splitPath cs).2 = cs.rtakeWhile fun c => !isPathSeparator c := by
  rcases hsplit : splitPath cs with ⟨_ | dir, base⟩
  · obtain ⟨rfl, hcs⟩ := splitPath_eq_none hsplit
    exact (List.rtakeWhile_eq_self_iff.mpr (by simpa using hcs)).symm
  · obtain ⟨c, hc, rfl, hbase⟩ := splitPath_eq_some hsplit
    have hreverse : ∀ d ∈ base.reverse, (!isPathSeparator d) = true := by simpa using hbase
    simp [List.rtakeWhile, List.takeWhile_append_of_pos hreverse, hc]

theorem baseName_eq (path : String) :
    baseName path = String.ofList (path.toList.rtakeWhile fun c => !isPathSeparator c) := by
  rw [baseName, splitPath_snd]

/-! ### Texts that are the parts -/

theorem splitPath_of_no_separator (h : ∀ c ∈ cs, isPathSeparator c = false) :
    splitPath cs = (none, cs) := by
  rcases hsplit : splitPath cs with ⟨_ | dir, base⟩
  · obtain ⟨rfl, -⟩ := splitPath_eq_none hsplit
    rfl
  · obtain ⟨c, hc, rfl, -⟩ := splitPath_eq_some hsplit
    cases hc.symm.trans (h c (by simp))

/-- A path is split at a separator that no other follows. -/
theorem splitPath_append (hc : isPathSeparator c = true)
    (hbase : ∀ d ∈ base, isPathSeparator d = false) (dir : List Char) :
    splitPath (dir ++ c :: base) = (some dir, base) := by
  induction dir with
  | nil => simp [splitPath_cons, splitPath_of_no_separator hbase, hc]
  | cons d dir ih => rw [List.cons_append, splitPath_cons, ih]

/-- Whether a path is a text, a separator, and a text without separators. -/
def SplitsAt (path dir : String) (c : Char) (base : String) : Prop :=
  path = dir ++ c.toString ++ base ∧ (c = '\\' ∨ c = '/') ∧
    ∀ d ∈ base.toList, d ≠ '\\' ∧ d ≠ '/'

theorem isPathSeparator_iff : isPathSeparator c = true ↔ c = '\\' ∨ c = '/' := by
  simp [isPathSeparator]

theorem isPathSeparator_eq_false : isPathSeparator c = false ↔ c ≠ '\\' ∧ c ≠ '/' := by
  simp [isPathSeparator]

variable {path first last : String}

theorem SplitsAt.splitPath_eq (h : SplitsAt path first c last) :
    path.toList = first.toList ++ c :: last.toList ∧
      splitPath path.toList = (some first.toList, last.toList) := by
  obtain ⟨rfl, hc, hlast⟩ := h
  have hpath : (first ++ c.toString ++ last).toList = first.toList ++ c :: last.toList := by
    simp [Char.toString]
  refine ⟨hpath, ?_⟩
  rw [hpath]
  exact splitPath_append (isPathSeparator_iff.mpr hc)
    (fun d hd => isPathSeparator_eq_false.mpr (hlast d hd)) first.toList

theorem SplitsAt.baseName_eq (h : SplitsAt path first c last) : baseName path = last := by
  rw [baseName, h.splitPath_eq.2, String.ofList_toList]

theorem SplitsAt.dirName?_eq (h : SplitsAt path first c last) : dirName? path = some first := by
  simp [dirName?, h.splitPath_eq.2]

/-- A path is split in one way only. -/
theorem SplitsAt.unique {first' last' : String} {c' : Char} (h : SplitsAt path first c last)
    (h' : SplitsAt path first' c' last') : first' = first ∧ c' = c ∧ last' = last := by
  obtain rfl : last' = last := h'.baseName_eq.symm.trans h.baseName_eq
  obtain rfl : first' = first := Option.some.inj (h'.dirName?_eq.symm.trans h.dirName?_eq)
  have hlist := h'.splitPath_eq.1.symm.trans h.splitPath_eq.1
  simpa using hlist

/-- A path with a separator has one that no other follows. -/
theorem exists_splitsAt (h : ∃ c ∈ path.toList, c = '\\' ∨ c = '/') :
    ∃ first c last, SplitsAt path first c last := by
  rcases hsplit : splitPath path.toList with ⟨_ | dir, base⟩
  · obtain ⟨c, hc, hseparator⟩ := h
    have hfalse := (splitPath_eq_none hsplit).2 c hc
    cases hfalse.symm.trans (isPathSeparator_iff.mpr hseparator)
  · obtain ⟨c, hc, hpath, hbase⟩ := splitPath_eq_some hsplit
    refine ⟨String.ofList dir, c, String.ofList base, ?_, isPathSeparator_iff.mp hc, fun d hd => ?_⟩
    · rw [← String.toList_inj, hpath]
      simp [Char.toString]
    · rw [String.toList_ofList] at hd
      exact isPathSeparator_eq_false.mp (hbase d hd)

/-! ### Mappings -/

variable {e : Event} {field : String}

theorem Mapping.value?_of_text (h : e.find? field = some (.text path)) :
    (Mapping.baseName field).value? e = some (.text (Vigil.baseName path)) ∧
      (Mapping.dirName field).value? e = (dirName? path).map .text := by
  have htext : e.findText? field = some path := by
    rw [Event.findText?, h]
    rfl
  constructor
  · rw [value?, htext]
    rfl
  · rw [value?, htext]
    rfl

theorem Mapping.value?_of_no_text (h : ∀ path, e.find? field ≠ some (.text path)) :
    (Mapping.baseName field).value? e = none ∧ (Mapping.dirName field).value? e = none := by
  have htext : e.findText? field = none := by
    rw [Event.findText?, Option.bind_eq_none_iff]
    intro v hv
    rw [Option.eq_none_iff_forall_ne_some]
    intro path hpath
    exact h path (hv.trans (congrArg some (Value.eq_text_of_text? hpath)))
  constructor
  · rw [value?, htext]
    rfl
  · rw [value?, htext]
    rfl

/-- **The parts of a path.** Where a field is a text with separators in it, `dirName` and `baseName`
give what precedes and what follows the last of these, so that the text is made of the two and the
separator, in this one way. Where there are no separators, `baseName` gives the text and `dirName`
nothing. Where the field is missing or no text, neither gives anything. -/
theorem mappings_split_path (e : Event) (field : String) :
    (∀ path, e.find? field = some (.text path) →
      ((∃ c ∈ path.toList, c = '\\' ∨ c = '/') → ∃ dir c base,
        (Mapping.dirName field).value? e = some (.text dir) ∧
        (Mapping.baseName field).value? e = some (.text base) ∧
        SplitsAt path dir c base ∧
        ∀ dir' c' base', SplitsAt path dir' c' base' → dir' = dir ∧ c' = c ∧ base' = base) ∧
      ((∀ c ∈ path.toList, c ≠ '\\' ∧ c ≠ '/') →
        (Mapping.baseName field).value? e = some (.text path) ∧
        (Mapping.dirName field).value? e = none)) ∧
    ((∀ path, e.find? field ≠ some (.text path)) →
      (Mapping.baseName field).value? e = none ∧ (Mapping.dirName field).value? e = none) := by
  refine ⟨fun path hpath => ?_, Mapping.value?_of_no_text⟩
  obtain ⟨hbase, hdir⟩ := Mapping.value?_of_text hpath
  rw [hbase, hdir]
  constructor
  · intro h
    obtain ⟨first, c, last, hsplits⟩ := exists_splitsAt h
    refine ⟨first, c, last, ?_, ?_, hsplits, fun _ _ _ => hsplits.unique⟩
    · rw [hsplits.dirName?_eq, Option.map_some]
    · rw [hsplits.baseName_eq]
  · intro h
    have hsplit : splitPath path.toList = (none, path.toList) :=
      splitPath_of_no_separator fun c hc => isPathSeparator_eq_false.mpr (h c hc)
    constructor
    · rw [baseName, hsplit, String.ofList_toList]
    · rw [dirName?, hsplit]
      rfl

/-- A path with both separators and one at its end, a name alone, and a number. -/
theorem mappings_split_path_trailing :
    (Mapping.dirName "p").value? ⟨[("p", .text "C:\\é//")]⟩ = some (.text "C:\\é/") ∧
      (Mapping.baseName "p").value? ⟨[("p", .text "C:\\é//")]⟩ = some (.text "") ∧
      (Mapping.baseName "p").value? ⟨[("p", .text "é.exe")]⟩ = some (.text "é.exe") ∧
      (Mapping.dirName "p").value? ⟨[("p", .text "é.exe")]⟩ = none ∧
      (Mapping.baseName "p").value? ⟨[("p", .scalar (.int 7))]⟩ = none := by
  have hpath : SplitsAt "C:\\é//" "C:\\é/" '/' "" := by
    refine ⟨by decide, Or.inr rfl, ?_⟩
    simp
  obtain ⟨hwith, -⟩ := (mappings_split_path ⟨[("p", .text "C:\\é//")]⟩ "p").1 _ rfl
  obtain ⟨dir, c, base, hdir, hbase, -, hunique⟩ := hwith ⟨'/', by decide, Or.inr rfl⟩
  obtain ⟨rfl, -, rfl⟩ := hunique _ _ _ hpath
  obtain ⟨-, hwithout⟩ := (mappings_split_path ⟨[("p", .text "é.exe")]⟩ "p").1 _ rfl
  obtain ⟨hname, hnone⟩ := hwithout (by simp)
  obtain ⟨hnumber, -⟩ := (mappings_split_path ⟨[("p", .scalar (.int 7))]⟩ "p").2 (by rintro path ⟨⟩)
  exact ⟨hdir, hbase, hname, hnone, hnumber⟩

end Vigil
