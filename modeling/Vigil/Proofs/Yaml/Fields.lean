import Vigil.Proofs.Lookup
import Vigil.Proofs.Results
import Vigil.Yaml.Reader

/-! # What the fields of a document are read as

* `exists_areFields`: a mapping with scalars for keys has fields;
* `readFields_run`, `exists_readFieldsFrom`: a run over entries keeps what the reading of each field keeps,
  and comes to its end if each can be read;
* `isField_of_readRecord`, `exists_field_of_readRecord`: what a record has is what the field of the
  document is read as, and the required fields are there;
* `readsEntries_of_readEntries`: a mapping is read entry by entry, in order, and repeated names are
  kept. -/

namespace Vigil.Yaml

/-! ### Fields -/

/-- Whether entries of a mapping are fields, whose keys are scalars that name them. -/
def AreFields (entries : List (Yaml × Yaml)) (fields : List (String × Yaml)) : Prop :=
  List.Forall₂ (fun e f => (∃ style tag, e.1 = .scalar style tag f.1) ∧ e.2 = f.2) entries fields

/-- The name that a key is, if it is a scalar. -/
def name? : Yaml → Option String
  | .scalar _ _ name => some name
  | _ => none

/-- Those of some entries that are fields. -/
def fieldsOf (entries : List (Yaml × Yaml)) : List (String × Yaml) :=
  entries.filterMap fun e => e.1.name?.map fun name => (name, e.2)

/-- The fields of some content, in the order of the document. -/
def fields : Yaml → List (String × Yaml)
  | .mapping _ entries => fieldsOf entries
  | _ => []

/-- Whether some content is a mapping of which all entries are fields. -/
def isRecord : Yaml → Bool
  | .mapping _ entries => entries.all fun e => e.1.name?.isSome
  | _ => false

/-- The style, the tag and the text of a scalar. -/
def scalar? : Yaml → Option (ScalarStyle × Option String × String)
  | .scalar style tag s => some (style, tag, s)
  | _ => none

variable {α : Type} {entries : List (Yaml × Yaml)} {y : Yaml} {path : YamlPath} {expected : String}

theorem scalar?_eq_some {style : ScalarStyle} {tag : Option String} {s : String} :
    y.scalar? = some (style, tag, s) ↔ y = .scalar style tag s := by
  cases y <;> simp [scalar?]

theorem areFields_fieldsOf (h : ∀ e ∈ entries, e.1.name?.isSome = true) :
    AreFields entries (fieldsOf entries) := by
  induction entries with
  | nil => exact .nil
  | cons e entries ih =>
    obtain ⟨he, hentries⟩ := List.forall_mem_cons.mp h
    obtain ⟨name, hname⟩ := Option.isSome_iff_exists.mp he
    have hkey : ∃ style tag, e.1 = .scalar style tag name := by
      rcases hkey : e.1 with _ | ⟨style, tag, s⟩ | _ | _ | _
      case scalar =>
        rw [hkey, name?, Option.some_inj] at hname
        exact ⟨style, tag, by rw [hname]⟩
      all_goals
        rw [hkey] at hname
        cases hname
    rw [fieldsOf, List.filterMap_cons_some (by rw [hname]; rfl)]
    exact .cons ⟨hkey, rfl⟩ (ih hentries)

theorem exists_areFields (h : y.isRecord = true) :
    ∃ entries, y = .mapping y.contentTag? entries ∧ AreFields entries y.fields := by
  cases y with
  | mapping tag entries =>
    exact ⟨entries, rfl, areFields_fieldsOf (List.all_eq_true.mp h)⟩
  | nothing | scalar | sequence | fault => cases h

theorem AreFields.fieldsOf_eq {fields : List (String × Yaml)} (h : AreFields entries fields) :
    fieldsOf entries = fields := by
  induction h with
  | nil => rfl
  | @cons e f entries fields he _ ih =>
    obtain ⟨⟨style, tag, hkey⟩, hvalue⟩ := he
    have hname : e.1.name? = some f.1 := by rw [hkey, name?]
    rw [fieldsOf, List.filterMap_cons_some (by rw [hname]; rfl), ← fieldsOf, ih, hvalue]

theorem fields_of_entries? (h : entries? expected path y = .ok entries) :
    y.fields = fieldsOf entries := by
  unfold entries? at h
  split at h
  · cases h
    rfl
  · cases h
    rfl
  · cases h
    rfl
  · cases h

theorem readText_eq_ok {s : String} : readText path y = .ok s ↔ y.name? = some s := by
  cases y <;> simp [readText, name?]

/-- Whether something is what a reader makes of some content, wherever that stands. -/
def ReadBy (read : Reader α) (y : Yaml) (a : α) : Prop := ∃ path, read path y = .ok a

/-! ### Entries -/

/-- Whether a list has an entry for every field of some content, in the same order and with the name
of the field. -/
def ReadsEntries (reads : Yaml → α → Prop) (y : Yaml) (l : List (String × α)) : Prop :=
  List.Forall₂ (fun f e => e.1 = f.1 ∧ reads f.2 e.2) y.fields l

theorem readsEntries_of_readEntries {read : Reader α} {reads : Yaml → α → Prop}
    (hread : ∀ path y a, read path y = .ok a → reads y a) {l : List (String × α)}
    (h : readEntries read path y = .ok l) : ReadsEntries reads y l := by
  obtain ⟨entries, hentries, hl⟩ := bind_eq_ok.mp h
  rw [ReadsEntries, fields_of_entries? hentries]
  rw [mapM_eq_ok] at hl
  clear hentries h
  induction hl with
  | nil => exact .nil
  | @cons e p entries l he _ ih =>
    obtain ⟨name, hname, hvalue⟩ := bind_eq_ok.mp he
    obtain ⟨a, ha, hp⟩ := bind_eq_ok.mp hvalue
    cases hp
    rw [readText_eq_ok] at hname
    rw [fieldsOf, List.filterMap_cons_some (by rw [hname]; rfl)]
    exact .cons ⟨rfl, hread _ _ _ ha⟩ ih

/-! ### Records -/

variable {σ : Type} {known required given given' : List String} {set other : String → σ → Reader σ}
  {start a b : σ} {fields : List (String × Yaml)}

/-- **A run over entries** reads fields. What is said of the fields so far, of the known ones among
them and of what has been read holds at the end, if every field keeps it. -/
theorem readFields_run {P : List (String × Yaml) → List String → σ → Prop}
    (hset : ∀ fields given a b name v, known.contains name = true → given.contains name = false →
      set name a (path ++ [name]) v = .ok b → P fields given a →
      P (fields ++ [(name, v)]) (name :: given) b)
    (hother : ∀ fields given a b name v, known.contains name = false →
      other name a (path ++ [name]) v = .ok b → P fields given a →
      P (fields ++ [(name, v)]) given b)
    (h : readFieldsFrom known set other path given a entries = .ok (b, given'))
    (hstart : P fields given a) : ∃ more, AreFields entries more ∧ P (fields ++ more) given' b := by
  induction entries generalizing a given fields with
  | nil =>
    cases h
    exact ⟨[], .nil, by rwa [List.append_nil]⟩
  | cons e entries ih =>
    obtain ⟨k, v⟩ := e
    rw [readFieldsFrom] at h
    obtain ⟨name, hname, hentry⟩ := bind_eq_ok.mp h
    obtain ⟨style, tag, hk⟩ : ∃ style tag, k = .scalar style tag name := by
      cases k <;> cases hname
      exact ⟨_, _, rfl⟩
    -- the entry is read as a field with its name, and the others after it
    have hstep (a₁ : σ) (given₁ : List String) (h₁ : P (fields ++ [(name, v)]) given₁ a₁)
        (hrest : readFieldsFrom known set other path given₁ a₁ entries = .ok (b, given')) :
        ∃ more, AreFields ((k, v) :: entries) more ∧ P (fields ++ more) given' b := by
      obtain ⟨more, hmore, hend⟩ := ih hrest h₁
      refine ⟨(name, v) :: more, .cons ⟨⟨style, tag, hk⟩, rfl⟩ hmore, ?_⟩
      rwa [List.append_assoc] at hend
    split_ifs at hentry with hknown hgiven
    · obtain ⟨a₁, ha₁, hrest⟩ := bind_eq_ok.mp hentry
      exact hstep a₁ given (hother _ _ _ _ _ _ (by simpa using hknown) ha₁ hstart) hrest
    · obtain ⟨a₁, ha₁, hrest⟩ := bind_eq_ok.mp hentry
      refine hstep a₁ (name :: given) ?_ hrest
      exact hset _ _ _ _ _ _ (by simpa using hknown) (by simpa using hgiven) ha₁ hstart

/-- A run over fields comes to its end, if none is given twice and each can be read. -/
theorem exists_readFieldsFrom (hfields : AreFields entries fields)
    (hgiven : ∀ name ∈ given, name ∉ fields.map Prod.fst)
    (honce : AtMostOnce known (fields.map Prod.fst))
    (hset : ∀ f ∈ fields, f.1 ∈ known → ∀ a, ∃ b, set f.1 a (path ++ [f.1]) f.2 = .ok b) :
    ∃ r, readFieldsFrom known set ignoreField path given a entries = .ok r := by
  induction hfields generalizing given a with
  | nil => exact ⟨_, rfl⟩
  | @cons e f entries fields he _ ih =>
    obtain ⟨k, v⟩ := e
    obtain ⟨name, y⟩ := f
    obtain ⟨⟨style, tag, rfl⟩, hvalue⟩ := he
    obtain rfl : v = y := hvalue
    have hname : readFieldName path (.scalar style tag name) = .ok name := rfl
    obtain ⟨hread, hset⟩ := List.forall_mem_cons.mp hset
    have hnew : ∀ other ∈ given, other ∉ fields.map Prod.fst := fun other hother hmem =>
      hgiven other hother (List.mem_cons_of_mem name hmem)
    by_cases hknown : name ∈ known
    · have hfirst : name ∉ given := fun hmem => hgiven name hmem List.mem_cons_self
      have hlast : name ∉ fields.map Prod.fst := honce.not_mem_tail hknown
      obtain ⟨b, hb⟩ := hread hknown a
      obtain ⟨r, hr⟩ : ∃ r,
          readFieldsFrom known set ignoreField path (name :: given) b entries = .ok r :=
        ih (List.forall_mem_cons.mpr ⟨hlast, hnew⟩) honce.tail hset
      refine ⟨r, bind_eq_ok.mpr ⟨name, hname, ?_⟩⟩
      rw [if_neg (by simp [hknown]), if_neg (by simp [hfirst])]
      exact bind_eq_ok.mpr ⟨b, hb, hr⟩
    · obtain ⟨r, hr⟩ : ∃ r, readFieldsFrom known set ignoreField path given a entries = .ok r :=
        ih hnew honce.tail hset
      refine ⟨r, bind_eq_ok.mpr ⟨name, hname, ?_⟩⟩
      rw [if_pos (by simp [hknown])]
      exact bind_eq_ok.mpr ⟨a, rfl, hr⟩

/-- A record is read by a run over the fields of a document. -/
theorem readRecord_run {P : List (String × Yaml) → List String → σ → Prop}
    (hset : ∀ fields given a b name v, known.contains name = true → given.contains name = false →
      set name a (path ++ [name]) v = .ok b → P fields given a →
      P (fields ++ [(name, v)]) (name :: given) b)
    (hother : ∀ fields given a name v, known.contains name = false → P fields given a →
      P (fields ++ [(name, v)]) given a)
    (h : readRecord expected known required set ignoreField start path y = .ok a)
    (hstart : P [] [] start) :
    ∃ given, (∀ name ∈ required, given.contains name = true) ∧ P y.fields given a := by
  obtain ⟨entries, hentries, h⟩ := bind_eq_ok.mp h
  obtain ⟨⟨a', given⟩, hread, hend⟩ := bind_eq_ok.mp h
  obtain ⟨more, hmore, hP⟩ := readFields_run hset (fun fields given a b name v hname hread hP => by
    cases hread
    exact hother fields given a name v hname hP) hread hstart
  rw [fields_of_entries? hentries, hmore.fieldsOf_eq]
  refine ⟨given, ?_⟩
  rcases hfind : required.find? fun name => !given.contains name with _ | name
  · have hrequired := List.find?_eq_none.mp hfind
    simp only [hfind] at hend
    cases hend
    exact ⟨fun name hname => by simpa using hrequired name hname, hP⟩
  · simp only [hfind] at hend
    cases hend

/-- What no field changes is as it was at the start. -/
theorem get_of_readRecord {τ : Type} (get : σ → τ)
    (hset : ∀ name a b path v, known.contains name = true → set name a path v = .ok b →
      get b = get a)
    (h : readRecord expected known required set ignoreField start path y = .ok a) :
    get a = get start := by
  obtain ⟨-, -, hget⟩ := readRecord_run (P := fun _ _ a => get a = get start)
    (fun _ _ a b name v hname _ hread ha => (hset name a b _ v hname hread).trans ha)
    (fun _ _ _ _ _ _ ha => ha) h rfl
  exact hget

/-- The fields that a record has to have are there. -/
theorem exists_field_of_readRecord
    (h : readRecord expected known required set ignoreField start path y = .ok a) :
    ∀ name ∈ required, ∃ v, y.fields.lookup name = some v := by
  have hconcat (fields : List (String × Yaml)) (f : String × Yaml) (name : String)
      (hname : ∃ v, fields.lookup name = some v) :
      ∃ v, (fields ++ [f]).lookup name = some v := by
    obtain ⟨v, hv⟩ := hname
    exact ⟨v, by rw [lookup_concat, hv, Option.some_or]⟩
  have hrun : ∃ given : List String, (∀ name ∈ required, given.contains name = true) ∧
      ∀ name, given.contains name = true → ∃ v, y.fields.lookup name = some v := by
    refine readRecord_run (P := fun fields given _ =>
      ∀ name, given.contains name = true → ∃ v, fields.lookup name = some v) ?_ ?_ h (by simp)
    · intro fields given a b name v _ _ _ hP other hother
      rw [List.contains_cons, Bool.or_eq_true, beq_iff_eq] at hother
      rcases hother with rfl | hother
      · rcases hlookup : fields.lookup other with _ | w
        · exact ⟨v, by rw [lookup_concat, hlookup, if_pos rfl, Option.none_or]⟩
        · exact hconcat fields _ other ⟨w, hlookup⟩
      · exact hconcat fields _ other (hP other hother)
    · intro fields given a name v _ hP other hother
      exact hconcat fields _ other (hP other hother)
  obtain ⟨given, hrequired, hgiven⟩ := hrun
  exact fun name hname => hgiven name (hrequired name hname)

/-- Whether something is what the value of a field is read as, or the default of a field that is not
there. -/
inductive IsField {τ : Type} (reads : Yaml → τ → Prop) (default : τ) : Option Yaml → τ → Prop
  | given {v : Yaml} {x : τ} (h : reads v x) : IsField reads default (some v) x
  | missing : IsField reads default none default

theorem IsField.eq_default {τ : Type} {reads : Yaml → τ → Prop} {default x : τ}
    (h : IsField reads default none x) : x = default := by
  cases h
  rfl

/-- What a record has is what one of its fields is read as, if no other field changes it. -/
theorem isField_of_readRecord {τ : Type} {reads : Yaml → τ → Prop} (get : σ → τ) (field : String)
    (hknown : known.contains field = true)
    (hset : ∀ name a b path v, known.contains name = true → set name a path v = .ok b →
      name = field ∧ (get a = get start → reads v (get b)) ∨ name ≠ field ∧ get b = get a)
    (h : readRecord expected known required set ignoreField start path y = .ok a) :
    IsField reads (get start) (y.fields.lookup field) (get a) := by
  have hrun : ∃ given : List String, (∀ name ∈ required, given.contains name = true) ∧
      given.contains field = (y.fields.lookup field).isSome ∧
      IsField reads (get start) (y.fields.lookup field) (get a) := by
    refine readRecord_run (P := fun fields given a =>
      given.contains field = (fields.lookup field).isSome ∧
      IsField reads (get start) (fields.lookup field) (get a)) ?_ ?_ h ⟨rfl, .missing⟩
    · rintro fields given a b name v hname hnew hread ⟨hgiven, hP⟩
      rcases hset name a b _ v hname hread with ⟨rfl, hreads⟩ | ⟨hne, heq⟩
      · -- nothing has been read of this field before
        have hnone : fields.lookup name = none := by
          rwa [hnew, eq_comm, Option.isSome_eq_false_iff, Option.isNone_iff_eq_none] at hgiven
        have hget : get a = get start := IsField.eq_default (hnone ▸ hP)
        rw [lookup_concat, hnone, if_pos rfl]
        exact ⟨by simp, .given (hreads hget)⟩
      · rw [lookup_concat, if_neg hne.symm, Option.or_none, heq]
        exact ⟨by simpa [hne.symm] using hgiven, hP⟩
    · rintro fields given a name v hname ⟨hgiven, hP⟩
      have hne : field ≠ name := by
        rintro rfl
        cases hname.symm.trans hknown
      rw [lookup_concat, if_neg hne, Option.or_none]
      exact ⟨hgiven, hP⟩
  obtain ⟨-, -, -, hend⟩ := hrun
  exact hend

end Vigil.Yaml
