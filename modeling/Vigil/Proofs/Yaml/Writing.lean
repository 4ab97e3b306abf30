import Vigil.Proofs.Yaml.Numbers

/-! # Data written back

* `isNormal_of_atom?`, `exists_isNormal_of_ofInteger?`: the numbers that reading gives are as
  `JsonNumber.IsNormal` says;
* `read_toYaml`: what has been read is written so that reading gives it again. -/

namespace Vigil

open Vigil.Yaml Vigil.Text Vigil.Decimal

namespace Yaml

variable {style : ScalarStyle} {tag : Option String} {s : String} {cs : List Char} {f : Binary64}

/-! ### Floating point numbers that are read -/

theorem isNaN_infinity (negative : Bool) : (Binary64.infinity negative).isNaN = false := by
  cases negative <;> rfl

theorem isNaN_of_decimal? {negative : Bool} (h : decimal? negative cs = some f) :
    f.isNaN = false := by
  have hfinite : f.isFinite = true := by
    simp only [decimal?] at h
    split at h
    · obtain ⟨hf, heq⟩ := Option.ite_none_right_eq_some.mp h
      cases heq
      exact hf
    · cases h
  have hne : f.exponentField ≠ 2047 := by simpa [Binary64.isFinite] using hfinite
  simp [Binary64.isNaN, hne]

/-- One value that is not a number is read. -/
theorem isNormal_of_float? (h : float? cs = some f) : (JsonNumber.float f).IsNormal := by
  intro hnan
  unfold float? at h
  have hnumber {negative : Bool} {cs : List Char} (h : (if isInfinity cs then
      some (Binary64.infinity negative) else decimal? negative cs) = some f) : False := by
    split at h
    · cases h
      rw [isNaN_infinity] at hnan
      cases hnan
    · rw [isNaN_of_decimal? h] at hnan
      cases hnan
  split at h
  · exact (Option.some.inj h).symm
  · split at h <;> exact (hnumber h).elim

theorem isNormal_of_ofPlain (h : Atom.ofPlain s = .float f) : (JsonNumber.float f).IsNormal := by
  unfold Atom.ofPlain at h
  split at h
  · cases h
  · split at h
    · cases h
    · cases h
    · split at h
      · cases h
      · split at h
        case h_1 hf =>
          cases h
          exact isNormal_of_float? hf
        case h_2 => cases h

theorem isNormal_of_atom? (h : atom? style tag s = .ok (.float f)) :
    (JsonNumber.float f).IsNormal := by
  unfold atom? at h
  dsimp only at h
  split at h
  · split at h
    case h_1 ha =>
      cases h
      simp at ha
    case h_2 => cases h
  split at h
  · split at h
    case h_1 ha =>
      cases h
      simp at ha
    case h_2 => cases h
  split at h
  · split at h
    case h_1 ha =>
      cases h
      obtain ⟨g, hg, heq⟩ := Option.map_eq_some_iff.mp ha
      cases heq
      exact isNormal_of_float? hg
    case h_2 => cases h
  split at h
  · split at h
    case h_1 ha =>
      cases h
      split at ha <;> cases ha
    case h_2 => cases h
  split at h
  · exact isNormal_of_ofPlain (Except.ok.inj h)
  · cases h

end Yaml

namespace Datum

variable {style : ScalarStyle} {tag : Option String} {s : String} {path : YamlPath} {d : Datum}

theorem read_plain (path : YamlPath) (s : String) :
    read path (plain s) = readScalar .plain none s path := by
  simp [plain, read, checkTag, localTag?, bind, Except.bind]

theorem read_null (path : YamlPath) : read path (plain "null") = .ok .null := by
  have hatom : atom? .plain none "null" = .ok .null := atom?_plain rfl
  rw [read_plain, readScalar, hatom]

theorem read_quotedScalar (path : YamlPath) (s : String) :
    read path (quotedScalar s) = .ok (.text s) := by
  simp [quotedScalar, read, checkTag, localTag?, readScalar, atom?, bind, Except.bind]

theorem exists_isNormal_of_ofInteger? {i : Int} (h : ofInteger? i = some d) :
    ∃ n : JsonNumber, n.IsNormal ∧ d = .number n := by
  unfold ofInteger? at h
  split at h
  · cases h
  case isFalse hfits =>
    split at h
    · cases h
      exact ⟨.whole _, trivial, rfl⟩
    case isFalse hneg =>
      cases h
      refine ⟨.negative _, ?_, rfl⟩
      have hbounds : -(2 ^ 63) ≤ i := by
        simp only [fits64, Int.pow_eq, Bool.not_eq_true', Bool.not_eq_false,
          Bool.and_eq_true, decide_eq_true_eq] at hfits
        exact hfits.1
      rw [JsonNumber.IsNormal, Int64.toInt_ofInt_of_le (by omega) (by omega)]
      omega

/-- What a scalar denotes is written so that it is read again. -/
theorem read_toYaml_of_readScalar (h : readScalar style tag s path = .ok d) (path' : YamlPath) :
    read path' d.toYaml = .ok d := by
  unfold readScalar at h
  split at h
  case h_1 => cases h
  case h_2 =>
    cases h
    rw [toYaml, read_null]
  case h_3 b hb =>
    cases h
    have hatom : atom? .plain none (if b then "true" else "false") = .ok (.boolean b) :=
      atom?_plain (by cases b <;> rfl)
    rw [toYaml, read_plain, readScalar, hatom]
  case h_4 i hi =>
    split at h
    case h_1 d' hd =>
      cases h
      obtain ⟨n, hn, rfl⟩ := exists_isNormal_of_ofInteger? hd
      rw [toYaml, read_plain, readScalar_writeNumber hn]
    case h_2 => cases h
  case h_5 f hf =>
    cases h
    rw [toYaml, read_plain, readScalar_writeNumber (isNormal_of_atom? hf)]
  case h_6 s hs =>
    cases h
    rw [toYaml, read_quotedScalar]

mutual

/-- **What has been read** is written so that it is read again, at any place of a document. -/
theorem read_toYaml : ∀ {y : Yaml} {path : YamlPath} {d : Datum}, read path y = .ok d →
    ∀ path', read path' d.toYaml = .ok d
  | .nothing, _, _, h, path' => by
    cases h
    rw [toYaml, read_null]
  | .fault _, _, _, h, _ => by cases h
  | .scalar _ _ _, _, _, h, path' => by
    rw [read] at h
    obtain ⟨-, -, hscalar⟩ := bind_eq_ok.mp h
    exact read_toYaml_of_readScalar hscalar path'
  | .sequence _ ys, _, _, h, path' => by
    rw [read] at h
    obtain ⟨-, -, h⟩ := bind_eq_ok.mp h
    obtain ⟨ds, hds, hd⟩ := bind_eq_ok.mp h
    cases hd
    rw [toYaml, read]
    exact bind_eq_ok.mpr ⟨(), rfl, bind_eq_ok.mpr ⟨ds, readItems_toYaml hds path' 0, rfl⟩⟩
  | .mapping _ es, _, _, h, path' => by
    rw [read] at h
    obtain ⟨-, -, h⟩ := bind_eq_ok.mp h
    obtain ⟨ds, hds, hd⟩ := bind_eq_ok.mp h
    cases hd
    rw [toYaml, read]
    exact bind_eq_ok.mpr ⟨(), rfl, bind_eq_ok.mpr ⟨ds, readEntries_toYaml hds path', rfl⟩⟩

@[inherit_doc read_toYaml]
theorem readItems_toYaml : ∀ {ys : List Yaml} {path : YamlPath} {i : Nat} {ds : List Datum},
    readItems path i ys = .ok ds → ∀ path' i', readItems path' i' (itemsToYaml ds) = .ok ds
  | [], _, _, _, h, _, _ => by
    cases h
    rfl
  | y :: ys, _, _, _, h, path', i' => by
    rw [readItems] at h
    obtain ⟨d, hd, h⟩ := bind_eq_ok.mp h
    obtain ⟨ds, hds, h⟩ := bind_eq_ok.mp h
    cases h
    rw [itemsToYaml, readItems]
    exact bind_eq_ok.mpr ⟨d, read_toYaml hd _,
      bind_eq_ok.mpr ⟨ds, readItems_toYaml hds path' (i' + 1), rfl⟩⟩

@[inherit_doc read_toYaml]
theorem readEntries_toYaml : ∀ {es : List (Yaml × Yaml)} {path : YamlPath}
    {ds : List (Datum × Datum)}, readEntries path es = .ok ds →
    ∀ path', readEntries path' (entriesToYaml ds) = .ok ds
  | [], _, _, h, _ => by
    cases h
    rfl
  | (k, v) :: es, _, _, h, path' => by
    rw [readEntries] at h
    obtain ⟨key, hkey, h⟩ := bind_eq_ok.mp h
    obtain ⟨value, hvalue, h⟩ := bind_eq_ok.mp h
    obtain ⟨ds, hds, h⟩ := bind_eq_ok.mp h
    cases h
    rw [entriesToYaml, readEntries]
    exact bind_eq_ok.mpr ⟨key, read_toYaml hkey _, bind_eq_ok.mpr ⟨value, read_toYaml hvalue _,
      bind_eq_ok.mpr ⟨ds, readEntries_toYaml hds path', rfl⟩⟩⟩

end

end Datum

end Vigil
