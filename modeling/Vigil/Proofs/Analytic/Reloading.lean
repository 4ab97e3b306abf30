import Vigil.Proofs.Analytic.CustomFields
import Vigil.Proofs.Analytic.Uuid
import Vigil.Proofs.Query.Blanks
import Vigil.Proofs.Yaml.Writing

/-! # Analytics written and read again

* `Metadata.Fills`: what reading some entries does to metadata; entries are joined by `Fills.append`,
  and a field that says nothing has none (`fills_optional`, `fills_texts`);
* `Metadata.read_toDatum`: metadata are read from what they are written to;
* `Analytic.readFields_custom`: so are custom fields;
* `Analytic.reload?_eq`: and so are analytics that have been read from a text, whose custom fields are
  the other fields of the text. -/

namespace Vigil

open Vigil.Yaml

theorem Datum.entriesToYaml_append (es fs : List (Datum × Datum)) :
    Datum.entriesToYaml (es ++ fs) = Datum.entriesToYaml es ++ Datum.entriesToYaml fs := by
  induction es with
  | nil => rfl
  | cons e es ih =>
    obtain ⟨k, v⟩ := e
    rw [List.cons_append, entriesToYaml, ih]
    rfl

/-! ### Fields of records -/

namespace Yaml

variable {σ : Type} {known : List String} {set other : String → σ → Yaml.Reader σ} {path : YamlPath}
  {given given' : List String} {a b : σ} {es fs : List (Yaml × Yaml)}

theorem readFieldsFrom_append (h : readFieldsFrom known set other path given a es = .ok (b, given')) :
    readFieldsFrom known set other path given a (es ++ fs) =
      readFieldsFrom known set other path given' b fs := by
  induction es generalizing given a with
  | nil =>
    cases h
    rfl
  | cons e es ih =>
    obtain ⟨k, v⟩ := e
    rw [List.cons_append, readFieldsFrom]
    rw [readFieldsFrom] at h
    obtain ⟨name, hname, h⟩ := bind_eq_ok.mp h
    rw [hname]
    show (if _ then _ else _) = _
    split_ifs at h ⊢
    · obtain ⟨a', ha', h⟩ := bind_eq_ok.mp h
      rw [ha']
      exact ih h
    · obtain ⟨a', ha', h⟩ := bind_eq_ok.mp h
      rw [ha']
      exact ih h

theorem readItemsFrom_texts (l : List String) (i : Nat) :
    readItemsFrom readText path i (Datum.itemsToYaml (l.map .text)) = .ok l := by
  induction l generalizing i with
  | nil => rfl
  | cons s l ih => exact bind_eq_ok.mpr ⟨s, rfl, bind_eq_ok.mpr ⟨l, ih (i + 1), rfl⟩⟩

theorem readTexts_toYaml (l : List String) :
    readList readText path (Datum.sequence (l.map .text)).toYaml = .ok l :=
  readItemsFrom_texts l 0

end Yaml

/-! ### Metadata -/

namespace Metadata

variable {path : YamlPath} {es fs : List (Yaml × Yaml)} {names names' : List String}
  {m m' m'' : Metadata} {field : String}

/-- Whether reading entries, which give no other fields than `names`, takes metadata from `m` to
`m'`. -/
def Fills (path : YamlPath) (es : List (Yaml × Yaml)) (names : List String) (m m' : Metadata) : Prop :=
  ∀ given : List String, (∀ name ∈ names, name ∉ given) → ∃ read ⊆ names,
    readFieldsFrom fieldNames setField ignoreField path given m es = .ok (m', read ++ given)

theorem Fills.nil : Fills path [] names m m := fun _ _ => ⟨[], by simp, rfl⟩

theorem Fills.append (h : Fills path es names m m') (h' : Fills path fs names' m' m'')
    (hdisjoint : ∀ name ∈ names, name ∉ names') : Fills path (es ++ fs) (names ++ names') m m'' := by
  intro given hgiven
  obtain ⟨read, hread, hes⟩ := h given fun name hname => hgiven name (List.mem_append_left _ hname)
  obtain ⟨read', hread', hfs⟩ := h' (read ++ given) fun name hname hmem =>
    (List.mem_append.mp hmem).elim (fun hmem => hdisjoint name (hread hmem) hname)
      (hgiven name (List.mem_append_right _ hname))
  refine ⟨read' ++ read, ?_, ?_⟩
  · rw [List.append_subset]
    exact ⟨List.Subset.trans hread' (List.subset_append_right _ _),
      List.Subset.trans hread (List.subset_append_left _ _)⟩
  · rw [readFieldsFrom_append hes, hfs, List.append_assoc]

variable {y : Yaml} {α : Type}

theorem fills_field (hknown : field ∈ fieldNames)
    (hset : setField field m (path ++ [field]) y = .ok m') :
    Fills path [(Datum.quotedScalar field, y)] [field] m m' := by
  intro given hgiven
  refine ⟨[field], List.Subset.refl _, ?_⟩
  have hnot : field ∉ given := hgiven field List.mem_cons_self
  rw [readFieldsFrom]
  simp [Datum.quotedScalar, readFieldName, bind, Except.bind, hknown, hnot, hset, readFieldsFrom]

/-- A field that may be missing. -/
theorem fills_optional (render : α → Datum) (update : Option α → Metadata)
    (hknown : field ∈ fieldNames) (hnone : update none = m)
    (hset : ∀ a, setField field m (path ++ [field]) (render a).toYaml = .ok (update (some a)))
    (x : Option α) :
    Fills path (Datum.entriesToYaml (x.toList.map fun a => (.text field, render a))) [field] m
      (update x) := by
  cases x with
  | none =>
    rw [hnone]
    exact Fills.nil
  | some a => exact fills_field hknown (hset a)

/-- A field that lists texts. -/
theorem fills_texts (update : List String → Metadata) (hknown : field ∈ fieldNames)
    (hnil : update [] = m)
    (hset : ∀ y, setField field m (path ++ [field]) y =
      (readList readText (path ++ [field]) y).map update)
    (l : List String) :
    Fills path (Datum.entriesToYaml (Datum.ofTexts field l)) [field] m (update l) := by
  unfold Datum.ofTexts
  split
  case isTrue hempty =>
    rw [List.isEmpty_iff.mp hempty, hnil]
    exact Fills.nil
  case isFalse =>
    refine fills_field hknown ?_
    rw [hset, readTexts_toYaml]
    rfl

/-- The entries for the fields that have to be there. -/
def requiredEntries (m : Metadata) : List (Datum × Datum) :=
  [(.text "id", .text m.id.render), (.text "name", .text m.name)]

/-- The entries for the fields that may be missing. -/
def optionalEntries (m : Metadata) : List (Datum × Datum) :=
  Datum.ofText "description" m.description ++ Datum.ofTexts "os" m.os ++
    Datum.ofTexts "tactics" m.tactics ++ Datum.ofTexts "techniques" m.techniques ++
    Datum.ofTexts "categories" m.categories ++
    Datum.ofText "confidence" (m.confidence.map Confidence.name) ++
    Datum.ofTexts "contributors" m.contributors ++ Datum.ofTexts "references" m.references ++
    Datum.ofText "created_date" m.createdDate ++ Datum.ofText "updated_date" m.updatedDate

theorem toYaml_toDatum (m : Metadata) : m.toDatum.toYaml = .mapping none
    (Datum.entriesToYaml m.requiredEntries ++ Datum.entriesToYaml m.optionalEntries) := by
  rw [← Datum.entriesToYaml_append, ← Datum.toYaml]
  simp only [toDatum, requiredEntries, optionalEntries, List.append_assoc]

theorem readFields_required (path : YamlPath) (m : Metadata) :
    readFieldsFrom fieldNames setField ignoreField path []
      ⟨.zero, "", none, [], [], [], [], none, [], [], none, none⟩
      (Datum.entriesToYaml m.requiredEntries) =
      .ok (⟨m.id, m.name, none, [], [], [], [], none, [], [], none, none⟩, ["name", "id"]) := by
  have hid : Uuid.read (path ++ ["id"]) (Datum.quotedScalar m.id.render) = .ok m.id := by
    simp [Datum.quotedScalar, Uuid.read, Uuid.parse?_render]
  refine bind_eq_ok.mpr ⟨"id", rfl, ?_⟩
  rw [if_neg (by decide), if_neg (by decide)]
  refine bind_eq_ok.mpr ⟨{ (⟨.zero, "", none, [], [], [], [], none, [], [], none, none⟩ : Metadata) with
    id := m.id }, map_eq_ok.mpr ⟨m.id, hid, rfl⟩, ?_⟩
  refine bind_eq_ok.mpr ⟨"name", rfl, ?_⟩
  rw [if_neg (by decide), if_neg (by decide)]
  rfl

/-- The fields that may be missing, one after the other. -/
theorem fills_optionalEntries (path : YamlPath) (m : Metadata) : ∃ names : List String,
    (∀ name ∈ names, name ∉ ["name", "id"]) ∧
    Fills path (Datum.entriesToYaml m.optionalEntries) names
      ⟨m.id, m.name, none, [], [], [], [], none, [], [], none, none⟩ m := by
  -- the metadata of which only the first fields have been read
  let m₉ : Metadata := { m with updatedDate := none }
  let m₈ : Metadata := { m₉ with createdDate := none }
  let m₇ : Metadata := { m₈ with references := [] }
  let m₆ : Metadata := { m₇ with contributors := [] }
  let m₅ : Metadata := { m₆ with confidence := none }
  let m₄ : Metadata := { m₅ with categories := [] }
  let m₃ : Metadata := { m₄ with techniques := [] }
  let m₂ : Metadata := { m₃ with tactics := [] }
  let m₁ : Metadata := { m₂ with os := [] }
  let m₀ : Metadata := { m₁ with description := none }
  have hdescription : Fills path (Datum.entriesToYaml (Datum.ofText "description" m.description))
      ["description"] m₀ m₁ :=
    fills_optional .text (fun s => { m₁ with description := s }) (by decide) rfl
      (fun _ => rfl) m.description
  have hos : Fills path (Datum.entriesToYaml (Datum.ofTexts "os" m.os)) ["os"] m₁ m₂ :=
    fills_texts (fun l => { m₂ with os := l }) (by decide) rfl (fun _ => rfl) m.os
  have htactics : Fills path (Datum.entriesToYaml (Datum.ofTexts "tactics" m.tactics)) ["tactics"]
      m₂ m₃ :=
    fills_texts (fun l => { m₃ with tactics := l }) (by decide) rfl (fun _ => rfl) m.tactics
  have htechniques : Fills path (Datum.entriesToYaml (Datum.ofTexts "techniques" m.techniques))
      ["techniques"] m₃ m₄ :=
    fills_texts (fun l => { m₄ with techniques := l }) (by decide) rfl (fun _ => rfl)
      m.techniques
  have hcategories : Fills path (Datum.entriesToYaml (Datum.ofTexts "categories" m.categories))
      ["categories"] m₄ m₅ :=
    fills_texts (fun l => { m₅ with categories := l }) (by decide) rfl (fun _ => rfl)
      m.categories
  have hconfidence : Fills path (Datum.entriesToYaml (Datum.ofText "confidence"
      (m.confidence.map Confidence.name))) ["confidence"] m₅ m₆ := by
    rw [Datum.ofText, Option.toList_map, List.map_map]
    have hknown : "confidence" ∈ fieldNames := by decide
    exact fills_optional (fun c => .text c.name) (fun c => { m₆ with confidence := c }) hknown rfl
      (fun c => by cases c <;> rfl) m.confidence
  have hcontributors : Fills path (Datum.entriesToYaml (Datum.ofTexts "contributors" m.contributors))
      ["contributors"] m₆ m₇ :=
    fills_texts (fun l => { m₇ with contributors := l }) (by decide) rfl (fun _ => rfl)
      m.contributors
  have hreferences : Fills path (Datum.entriesToYaml (Datum.ofTexts "references" m.references))
      ["references"] m₇ m₈ :=
    fills_texts (fun l => { m₈ with references := l }) (by decide) rfl (fun _ => rfl)
      m.references
  have hcreated : Fills path (Datum.entriesToYaml (Datum.ofText "created_date" m.createdDate))
      ["created_date"] m₈ m₉ :=
    fills_optional .text (fun s => { m₉ with createdDate := s }) (by decide) rfl
      (fun _ => rfl) m.createdDate
  have hupdated : Fills path (Datum.entriesToYaml (Datum.ofText "updated_date" m.updatedDate))
      ["updated_date"] m₉ m :=
    fills_optional .text (fun s => { m with updatedDate := s }) (by decide) rfl
      (fun _ => rfl) m.updatedDate
  simp only [optionalEntries, Datum.entriesToYaml_append]
  refine ⟨_, ?_, (((((((((hdescription.append hos ?_).append htactics ?_).append htechniques ?_).append
    hcategories ?_).append hconfidence ?_).append hcontributors ?_).append hreferences ?_).append
    hcreated ?_).append hupdated ?_)⟩
  all_goals decide

/-- **Metadata** are read from what they are written to. -/
theorem read_toDatum (path : YamlPath) (m : Metadata) :
    Metadata.read path m.toDatum.toYaml = .ok m := by
  obtain ⟨names, hnames, hfills⟩ := fills_optionalEntries path m
  obtain ⟨read, -, hread⟩ := hfills ["name", "id"] hnames
  have hfields := (readFieldsFrom_append (readFields_required path m)).trans hread
  rw [toYaml_toDatum, Metadata.read, readRecord]
  refine bind_eq_ok.mpr ⟨_, rfl, bind_eq_ok.mpr ⟨_, hfields, ?_⟩⟩
  have hfound : requiredFields.find? (fun name => !(read ++ ["name", "id"]).contains name) = none := by
    simp [requiredFields]
  simp only [hfound]
  rfl

end Metadata

/-! ### Analytics -/

theorem Datum.repeatedInItems?_eq_none {ds : List Datum} :
    repeatedInItems? ds = none ↔ ∀ d ∈ ds, d.repeatedKey? = none := by
  induction ds with
  | nil => simp [repeatedInItems?]
  | cons d ds ih =>
    rw [repeatedInItems?, List.forall_mem_cons, ← ih]
    cases d.repeatedKey? <;> simp

namespace Analytic

variable {text : String} {a : Analytic} {y : Yaml} {fields : List (String × Yaml)} {draft : Draft}

/-- What the reading of an analytic has found: the fields of a mapping, of which a draft with the
query of the analytic says what its custom fields are. -/
theorem exists_draft_of_read (h : read [] y = .ok a) :
    ∃ (tag : Option String) (entries : List (Yaml × Yaml)) (fields : List (String × Yaml))
      (draft : Draft), y = .mapping tag entries ∧ AreFields entries fields ∧ draft.Holds fields ∧
      draft.query = some a.query ∧ a.customFields = sortFields draft.customFields ∧
      ∀ c ∈ draft.customFields, c.2.repeatedKey? = none := by
  obtain ⟨draft, hdraft, hend⟩ := bind_eq_ok.mp h
  obtain ⟨entries, hentries, hrecord⟩ := bind_eq_ok.mp hdraft
  obtain ⟨⟨draft', given⟩, hread, hfound⟩ := bind_eq_ok.mp hrecord
  have heq : draft' = draft := by
    simp only [List.find?_nil] at hfound
    exact Except.ok.inj hfound
  subst heq
  obtain ⟨fields, hfields, hholds⟩ := Draft.holds_nil.readFields hread
  split at hend
  case h_1 => cases hend
  case h_2 => cases hend
  case h_3 m q hm hq =>
    split at hend
    case h_1 => cases hend
    case h_2 hrepeated =>
      cases hend
      obtain ⟨tag, rfl⟩ : ∃ tag, y = .mapping tag entries := by
        -- where there are no entries, there are no metadata
        have hnil (hnone : entries = []) : False := by
          subst hnone
          cases hread
          cases hm
        unfold entries? at hentries
        split at hentries
        case h_2 => exact ⟨_, congrArg _ (Except.ok.inj hentries)⟩
        case h_4 => cases hentries
        all_goals exact (hnil (Except.ok.inj hentries).symm).elim
      refine ⟨tag, entries, fields, draft', rfl, hfields, hholds, hq, rfl, fun c hc => ?_⟩
      exact Datum.repeatedInItems?_eq_none.mp hrepeated c.2 (List.mem_map_of_mem hc)

/-- The custom fields of a draft have other names than the known ones, and are read from what they
are written to. -/
theorem Draft.Holds.read_toYaml (h : draft.Holds fields) {c : String × Datum}
    (hc : c ∈ draft.customFields) :
    knownFields.contains c.1 = false ∧ Datum.read [c.1] c.2.toYaml = .ok c.2 := by
  obtain ⟨f, hf, hname, hread⟩ : ∃ f ∈ fields.filter fun f => !knownFields.contains f.1,
      IsReadFrom f c := exists_isReadFrom h.custom hc
  refine ⟨?_, Datum.read_toYaml hread _⟩
  rw [hname]
  simpa using (List.mem_filter.mp hf).2

/-- A run over the entries for custom fields adds them. -/
theorem readFields_custom {custom : List (String × Datum)}
    (h : ∀ c ∈ custom, knownFields.contains c.1 = false ∧ Datum.read [c.1] c.2.toYaml = .ok c.2)
    (draft : Draft) (given : List String) :
    readFieldsFrom knownFields setField addCustomField [] given draft
      (Datum.entriesToYaml (custom.map fun c => (.text c.1, c.2))) =
      .ok ({ draft with customFields := draft.customFields ++ custom }, given) := by
  induction custom generalizing draft with
  | nil => simp [Datum.entriesToYaml, readFieldsFrom]
  | cons c custom ih =>
    obtain ⟨hknown, hread⟩ := h c List.mem_cons_self
    refine bind_eq_ok.mpr ⟨c.1, rfl, ?_⟩
    rw [if_pos (by rw [hknown]; rfl)]
    refine bind_eq_ok.mpr ⟨_, bind_eq_ok.mpr ⟨c.2, hread, rfl⟩, ?_⟩
    rw [ih fun c' hc' => h c' (List.mem_cons_of_mem c hc')]
    simp

/-- An analytic is read from what it is written to, if its query and its custom fields are. -/
theorem reload?_eq (hquery : Query.read? a.query.source = .ok a.query)
    (hcustom : ∀ c ∈ a.customFields,
      knownFields.contains c.1 = false ∧ Datum.read [c.1] c.2.toYaml = .ok c.2)
    (hrepeated : ∀ c ∈ a.customFields, c.2.repeatedKey? = none)
    (hsorted : sortFields a.customFields = a.customFields) : a.reload? = .ok a := by
  have hquery' : readQuery [queryField] (Datum.quotedScalar a.query.source) = .ok a.query := by
    refine bind_eq_ok.mpr ⟨a.query.source, rfl, ?_⟩
    simp only [hquery]
    rfl
  have hmetadata := Metadata.read_toDatum [metadataField] a.metadata
  have hfields : readFieldsFrom knownFields setField addCustomField [] [] {}
      (Datum.entriesToYaml ([(.text metadataField, a.metadata.toDatum),
        (.text queryField, .text a.query.source)] ++ a.customFields.map fun c => (.text c.1, c.2))) =
      .ok (⟨some a.metadata, some a.query, a.customFields⟩, [queryField, metadataField]) := by
    refine bind_eq_ok.mpr ⟨metadataField, rfl, ?_⟩
    rw [if_neg (by decide), if_neg (by decide)]
    refine bind_eq_ok.mpr ⟨_, map_eq_ok.mpr ⟨_, hmetadata, rfl⟩, ?_⟩
    refine bind_eq_ok.mpr ⟨queryField, rfl, ?_⟩
    rw [if_neg (by decide), if_neg (by decide)]
    refine bind_eq_ok.mpr ⟨_, map_eq_ok.mpr ⟨_, hquery', rfl⟩, ?_⟩
    exact readFields_custom hcustom _ _
  refine bind_eq_ok.mpr ⟨_, bind_eq_ok.mpr ⟨_, rfl, bind_eq_ok.mpr ⟨_, hfields, rfl⟩⟩, ?_⟩
  have hnone : Datum.repeatedInItems? (a.customFields.map (·.2)) = none := by
    rw [Datum.repeatedInItems?_eq_none]
    intro d hd
    obtain ⟨c, hc, rfl⟩ := List.mem_map.mp hd
    exact hrepeated c hc
  simp only [hnone, hsorted]
  rfl

/-- **Writing an analytic back** loses nothing. An analytic that has been read from a text is read
again from what it is written to, with all of its metadata, its query and its custom fields. The
text holds a mapping, and the custom fields are those of its fields but `metadata` and `query`. -/
theorem reload_ofYaml (h : ofYaml? text = .ok a) : a.reload? = .ok a ∧
    ∃ tag entries fields, Yaml.document? text.toList = some (.mapping tag entries) ∧
      AreFields entries fields ∧ AreCustomFieldsOf a.customFields fields := by
  obtain ⟨y, hy, hread⟩ : ∃ y, Yaml.document? text.toList = some y ∧ read [] y = .ok a := by
    unfold ofYaml? readDocument at h
    split at h
    case h_1 y hy => exact ⟨y, hy, h⟩
    case h_2 => cases h
  obtain ⟨tag, entries, fields, draft, rfl, hfields, hholds, hquery, hcustom, hrepeated⟩ :=
    exists_draft_of_read hread
  have hmem {c : String × Datum} (hc : c ∈ a.customFields) : c ∈ draft.customFields :=
    mem_of_mem_sortFields (hcustom ▸ hc)
  obtain ⟨source, hsource⟩ := hholds.query _ hquery
  refine ⟨reload?_eq (Query.read?_source hsource) (fun c hc => hholds.read_toYaml (hmem hc))
    (fun c hc => hrepeated c (hmem hc)) ?_, tag, entries, fields, hy, hfields, ?_⟩
  · rw [hcustom]
    exact sortFields_eq_self (namesIncrease_sortFields draft.customFields)
  · rw [hcustom]
    exact hholds.areCustomFieldsOf

/-- A text with an identifier without hyphens, blanks around the query, and two custom fields, one of
which is given twice. -/
def shortText : String :=
  "z: 0\nmetadata: {id: fb97a1c59e864e159fd97d82a05a384E, name: A, confidence: !high , os: }\n" ++
    "z: [-1.5e0, .nan, {b: -3}]\nquery: |\n  any where true\na: ~\n"

theorem reload_ofYaml_shortText : ∃ a, ofYaml? shortText = .ok a ∧ a.reload? = .ok a ∧
    a.customFields.map (·.1) = ["a", "z"] := by
  have hread : (ofYaml? shortText).toOption.any
      (fun a => a.customFields.map (·.1) == ["a", "z"]) = true := by
    decide +kernel
  obtain ⟨a, ha, hnames⟩ := (Option.any_eq_true _ _).mp hread
  rw [toOption_eq_some] at ha
  exact ⟨a, ha, (reload_ofYaml ha).1, eq_of_beq hnames⟩

end Analytic

end Vigil
