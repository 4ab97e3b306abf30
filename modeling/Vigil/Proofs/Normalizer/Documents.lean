import Vigil.Normalizer.Document
import Vigil.Proofs.Yaml.Fields

/-! # What a document is read as

The description that a document is read as has the classes, the mappings and the enums of the
document in the same order, and repeated ones are kept.

* `EventClassDescription.isWrittenAs_of_ofYaml`: the description of a class;
* `NormalizerDescription.isWrittenAs_of_ofYaml`: the description of a normalizer. Both follow from
  what the reading of a single field does (`readField_eq_ok`). -/

namespace Vigil

open Vigil.Yaml

/-- Whether a list is what a mapping of texts is read as. -/
def ReadsTexts : Yaml → List (String × String) → Prop := ReadsEntries (ReadBy readText)

theorem readsTexts_of_readTexts {path : YamlPath} {y : Yaml} {l : List (String × String)}
    (h : readTexts path y = .ok l) : ReadsTexts y l :=
  readsEntries_of_readEntries (fun path _ _ hread => ⟨path, hread⟩) h

namespace EventClassDescription

/-- Whether a description is what the fields of a document are read as. Its filter has to be there. -/
structure IsWrittenAs (d : EventClassDescription) (y : Yaml) : Prop where
  filter : ∃ v, y.fields.lookup "filter" = some v ∧ ReadBy readText v d.filter
  mappings : IsField ReadsTexts [] (y.fields.lookup "mapping") d.mappings
  enums : IsField (ReadsEntries ReadsTexts) [] (y.fields.lookup "enum") d.enums

variable {name : String} {path : YamlPath} {y : Yaml} {d d' : EventClassDescription}

/-- What the field of a class is read as; it changes nothing else. -/
theorem readField_eq_ok (hknown : ["filter", "mapping", "enum"].contains name = true)
    (h : readField name d path y = .ok d') :
    (name = "filter" ∧ ∃ s, readText path y = .ok s ∧ d' = { d with filter := s }) ∨
    (name = "mapping" ∧ ∃ l, readTexts path y = .ok l ∧ d' = { d with mappings := l }) ∨
    (name = "enum" ∧ ∃ l, readEntries readTexts path y = .ok l ∧ d' = { d with enums := l }) := by
  unfold readField at h
  split at h
  case h_1 =>
    obtain ⟨s, hs, rfl⟩ := map_eq_ok.mp h
    exact Or.inl ⟨rfl, s, hs, rfl⟩
  case h_2 =>
    obtain ⟨l, hl, rfl⟩ := map_eq_ok.mp h
    exact Or.inr (Or.inl ⟨rfl, l, hl, rfl⟩)
  case h_3 hfilter hmapping =>
    obtain ⟨l, hl, rfl⟩ := map_eq_ok.mp h
    have hname : name = "filter" ∨ name = "mapping" ∨ name = "enum" := by simpa using hknown
    have henum : name = "enum" := (hname.resolve_left hfilter).resolve_left hmapping
    exact Or.inr (Or.inr ⟨henum, l, hl, rfl⟩)

theorem isWrittenAs_of_ofYaml (h : ofYaml path y = .ok d) : d.IsWrittenAs y := by
  have hfilter : IsField (ReadBy readText) "" (y.fields.lookup "filter") d.filter := by
    refine isField_of_readRecord (·.filter) "filter" rfl ?_ h
    intro name a b path v hknown hread
    rcases readField_eq_ok hknown hread with
      ⟨rfl, s, hs, rfl⟩ | ⟨rfl, l, -, rfl⟩ | ⟨rfl, l, -, rfl⟩
    · exact Or.inl ⟨rfl, fun _ => ⟨path, hs⟩⟩
    · exact Or.inr ⟨by decide, rfl⟩
    · exact Or.inr ⟨by decide, rfl⟩
  obtain ⟨v, hv⟩ := exists_field_of_readRecord h "filter" (by simp)
  refine ⟨?_, ?_, ?_⟩
  · rw [hv] at hfilter
    obtain ⟨hfilter⟩ := hfilter
    exact ⟨v, hv, hfilter⟩
  · refine isField_of_readRecord (·.mappings) "mapping" rfl ?_ h
    intro name a b path v hknown hread
    rcases readField_eq_ok hknown hread with
      ⟨rfl, s, -, rfl⟩ | ⟨rfl, l, hl, rfl⟩ | ⟨rfl, l, -, rfl⟩
    · exact Or.inr ⟨by decide, rfl⟩
    · exact Or.inl ⟨rfl, fun _ => readsTexts_of_readTexts hl⟩
    · exact Or.inr ⟨by decide, rfl⟩
  · refine isField_of_readRecord (·.enums) "enum" rfl ?_ h
    intro name a b path v hknown hread
    rcases readField_eq_ok hknown hread with
      ⟨rfl, s, -, rfl⟩ | ⟨rfl, l, -, rfl⟩ | ⟨rfl, l, hl, rfl⟩
    · exact Or.inr ⟨by decide, rfl⟩
    · exact Or.inr ⟨by decide, rfl⟩
    · refine Or.inl ⟨rfl, fun _ => readsEntries_of_readEntries ?_ hl⟩
      exact fun _ _ _ htexts => readsTexts_of_readTexts htexts

end EventClassDescription

namespace NormalizerDescription

/-- Whether the classes of a description, its mappings and their scope are what the fields of a
document are read as. -/
structure IsWrittenAs (d : NormalizerDescription) (y : Yaml) : Prop where
  classes : IsField (ReadsEntries fun v c => c.IsWrittenAs v) [] (y.fields.lookup "events") d.classes
  mappings : IsField (fun v => IsField ReadsTexts [] (v.fields.lookup "mapping")) []
    (y.fields.lookup "fields") d.mappings
  scope : IsField (fun v => IsField (ReadBy (readOption readText)) none (v.fields.lookup "scope"))
    none (y.fields.lookup "fields") d.scope

variable {name : String} {path : YamlPath} {y : Yaml} {d d' : NormalizerDescription}

/-- What a field about the mappings for all classes is read as; it changes nothing else. -/
theorem readMappingField_eq_ok (hknown : ["mapping", "scope"].contains name = true)
    (h : readMappingField name d path y = .ok d') :
    (name = "mapping" ∧ ∃ l, readTexts path y = .ok l ∧ d' = { d with mappings := l }) ∨
    (name = "scope" ∧ ∃ s, readOption readText path y = .ok s ∧ d' = { d with scope := s }) := by
  unfold readMappingField at h
  split at h
  case h_1 =>
    obtain ⟨l, hl, rfl⟩ := map_eq_ok.mp h
    exact Or.inl ⟨rfl, l, hl, rfl⟩
  case h_2 hmapping =>
    obtain ⟨s, hs, rfl⟩ := map_eq_ok.mp h
    have hname : name = "mapping" ∨ name = "scope" := by simpa using hknown
    exact Or.inr ⟨hname.resolve_left hmapping, s, hs, rfl⟩

/-- What is read of the mappings for all classes; nothing else changes. -/
theorem isField_of_readMappings (h : readRecord "struct FieldsProxy" ["mapping", "scope"] []
      readMappingField ignoreField d path y = .ok d') :
    d'.classes = d.classes ∧
      IsField ReadsTexts d.mappings (y.fields.lookup "mapping") d'.mappings ∧
      IsField (ReadBy (readOption readText)) d.scope (y.fields.lookup "scope") d'.scope := by
  refine ⟨?_, ?_, ?_⟩
  · refine get_of_readRecord (·.classes) ?_ h
    intro name a b path v hknown hread
    rcases readMappingField_eq_ok hknown hread with ⟨-, l, -, rfl⟩ | ⟨-, s, -, rfl⟩ <;> rfl
  · refine isField_of_readRecord (·.mappings) "mapping" rfl ?_ h
    intro name a b path v hknown hread
    rcases readMappingField_eq_ok hknown hread with ⟨rfl, l, hl, rfl⟩ | ⟨rfl, s, -, rfl⟩
    · exact Or.inl ⟨rfl, fun _ => readsTexts_of_readTexts hl⟩
    · exact Or.inr ⟨by decide, rfl⟩
  · refine isField_of_readRecord (·.scope) "scope" rfl ?_ h
    intro name a b path v hknown hread
    rcases readMappingField_eq_ok hknown hread with ⟨rfl, l, -, rfl⟩ | ⟨rfl, s, hs, rfl⟩
    · exact Or.inr ⟨by decide, rfl⟩
    · exact Or.inl ⟨rfl, fun _ => ⟨path, hs⟩⟩

/-- What a field of a description is read as; it changes nothing else. -/
theorem readField_eq_ok
    (hknown : ["name", "domain", "strict", "timestamp", "fields", "events"].contains name = true)
    (h : readField name d path y = .ok d') :
    (name = "fields" ∧ readRecord "struct FieldsProxy" ["mapping", "scope"] [] readMappingField
      ignoreField d path y = .ok d') ∨
    (name = "events" ∧ ∃ l, readEntries EventClassDescription.ofYaml path y = .ok l ∧
      d' = { d with classes := l }) ∨
    (name ∈ ["name", "domain", "strict", "timestamp"] ∧ d'.classes = d.classes ∧
      d'.mappings = d.mappings ∧ d'.scope = d.scope) := by
  unfold readField at h
  split at h
  case h_1 =>
    obtain ⟨s, -, rfl⟩ := map_eq_ok.mp h
    exact Or.inr (Or.inr ⟨by simp, rfl, rfl, rfl⟩)
  case h_2 =>
    obtain ⟨s, -, rfl⟩ := map_eq_ok.mp h
    exact Or.inr (Or.inr ⟨by simp, rfl, rfl, rfl⟩)
  case h_3 =>
    obtain ⟨b, -, rfl⟩ := map_eq_ok.mp h
    exact Or.inr (Or.inr ⟨by simp, rfl, rfl, rfl⟩)
  case h_4 =>
    obtain ⟨t, -, rfl⟩ := map_eq_ok.mp h
    exact Or.inr (Or.inr ⟨by simp, rfl, rfl, rfl⟩)
  case h_5 => exact Or.inl ⟨rfl, h⟩
  case h_6 hname hdomain hstrict htimestamp hfields =>
    obtain ⟨l, hl, rfl⟩ := map_eq_ok.mp h
    have hevents : name = "events" := by
      simp only [List.contains_iff_mem, List.mem_cons, List.not_mem_nil, or_false] at hknown
      rcases hknown with h | h | h | h | h | h
      · exact absurd h hname
      · exact absurd h hdomain
      · exact absurd h hstrict
      · exact absurd h htimestamp
      · exact absurd h hfields
      · exact h
    exact Or.inr (Or.inl ⟨hevents, l, hl, rfl⟩)

/-- The description that a document is read as, with its classes and mappings in the order of the
document. -/
theorem isWrittenAs_of_ofYaml (h : ofYaml path y = .ok d) : d.IsWrittenAs y := by
  refine ⟨?_, ?_, ?_⟩
  · refine isField_of_readRecord (·.classes) "events" rfl ?_ h
    intro name a b path v hknown hread
    rcases readField_eq_ok hknown hread with
      ⟨rfl, hfields⟩ | ⟨rfl, l, hl, rfl⟩ | ⟨hname, hclasses, -, -⟩
    · exact Or.inr ⟨by decide, (isField_of_readMappings hfields).1⟩
    · refine Or.inl ⟨rfl, fun _ => readsEntries_of_readEntries ?_ hl⟩
      exact fun _ _ _ hclass => EventClassDescription.isWrittenAs_of_ofYaml hclass
    · exact Or.inr ⟨ne_of_mem_of_not_mem hname (by decide), hclasses⟩
  · refine isField_of_readRecord (·.mappings) "fields" rfl ?_ h
    intro name a b path v hknown hread
    rcases readField_eq_ok hknown hread with
      ⟨rfl, hfields⟩ | ⟨rfl, l, -, rfl⟩ | ⟨hname, -, hmappings, -⟩
    · refine Or.inl ⟨rfl, fun hstart => ?_⟩
      have hmappings := (isField_of_readMappings hfields).2.1
      rwa [hstart] at hmappings
    · exact Or.inr ⟨by decide, rfl⟩
    · exact Or.inr ⟨ne_of_mem_of_not_mem hname (by decide), hmappings⟩
  · refine isField_of_readRecord (·.scope) "fields" rfl ?_ h
    intro name a b path v hknown hread
    rcases readField_eq_ok hknown hread with
      ⟨rfl, hfields⟩ | ⟨rfl, l, -, rfl⟩ | ⟨hname, -, -, hscope⟩
    · refine Or.inl ⟨rfl, fun hstart => ?_⟩
      have hscope := (isField_of_readMappings hfields).2.2
      rwa [hstart] at hscope
    · exact Or.inr ⟨by decide, rfl⟩
    · exact Or.inr ⟨ne_of_mem_of_not_mem hname (by decide), hscope⟩

end NormalizerDescription

end Vigil
