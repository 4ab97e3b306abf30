import Vigil.Proofs.Yaml.Writing

/-! # Content that can be held

Content of any shape is a datum, unless there is a local tag, a scalar that is not what its tag demands, a
whole number beyond 64 bits or a limit of the document in it.

* `Datum.exists_read_iff`: what is read as a datum (`Yaml.Holdable`);
* `Datum.exists_readOption_iff`: what is read as a datum that may be missing. -/

namespace Vigil

open Vigil.Yaml

/-- Whether content can be held as a datum. -/
inductive Yaml.Holdable : Yaml → Prop
  | nothing : Holdable .nothing
  | scalar {style : ScalarStyle} {tag : Option String} {s : String} {a : Atom}
    (untagged : localTag? tag = none) (denotes : atom? style tag s = .ok a)
    (fits : ∀ i, a = .integer i → fits64 i = true) : Holdable (.scalar style tag s)
  | sequence {tag : Option String} {items : List Yaml} (untagged : localTag? tag = none)
    (h : ∀ y ∈ items, Holdable y) : Holdable (.sequence tag items)
  | mapping {tag : Option String} {entries : List (Yaml × Yaml)} (untagged : localTag? tag = none)
    (keys : ∀ e ∈ entries, Holdable e.1) (values : ∀ e ∈ entries, Holdable e.2) :
    Holdable (.mapping tag entries)

namespace Datum

variable {style : ScalarStyle} {tag : Option String} {s : String} {path : YamlPath} {y : Yaml}

theorem checkTag_eq_ok {u : Unit} : checkTag tag path = .ok u ↔ localTag? tag = none := by
  unfold checkTag
  rcases localTag? tag with _ | name <;> simp

theorem exists_readScalar_iff : (∃ d, readScalar style tag s path = .ok d) ↔
    ∃ a, atom? style tag s = .ok a ∧ ∀ i, a = .integer i → fits64 i = true := by
  unfold readScalar
  rcases atom? style tag s with message | a
  · simp
  · cases a with
    | integer i =>
      rcases hd : ofInteger? i with _ | d
      · have hfits : ¬ fits64 i = true := by
          intro hfits
          unfold ofInteger? at hd
          rw [if_neg (by simpa using hfits)] at hd
          split_ifs at hd
        simp [hd, hfits]
      · have hfits : fits64 i = true := by
          by_contra hfits
          unfold ofInteger? at hd
          rw [if_pos (by simpa using hfits)] at hd
          cases hd
        simp [hd, hfits]
    | null | boolean | float | text => simp

mutual

/-- What is read as a datum can be held. -/
theorem holdable_of_read : ∀ {y : Yaml} {path : YamlPath} {d : Datum}, read path y = .ok d →
    y.Holdable
  | .nothing, _, _, _ => .nothing
  | .fault _, _, _, h => by cases h
  | .scalar _ _ _, _, _, h => by
    rw [read] at h
    obtain ⟨⟨⟩, htag, hscalar⟩ := bind_eq_ok.mp h
    obtain ⟨a, hatom, hfits⟩ := exists_readScalar_iff.mp ⟨_, hscalar⟩
    exact .scalar (checkTag_eq_ok.mp htag) hatom hfits
  | .sequence _ _, _, _, h => by
    rw [read] at h
    obtain ⟨⟨⟩, htag, h⟩ := bind_eq_ok.mp h
    obtain ⟨ds, hds, -⟩ := bind_eq_ok.mp h
    exact .sequence (checkTag_eq_ok.mp htag) (holdable_of_readItems hds)
  | .mapping _ _, _, _, h => by
    rw [read] at h
    obtain ⟨⟨⟩, htag, h⟩ := bind_eq_ok.mp h
    obtain ⟨ds, hds, -⟩ := bind_eq_ok.mp h
    have hentries := holdable_of_readEntries hds
    exact .mapping (checkTag_eq_ok.mp htag) (fun e he => (hentries e he).1) fun e he =>
      (hentries e he).2

@[inherit_doc holdable_of_read]
theorem holdable_of_readItems : ∀ {ys : List Yaml} {path : YamlPath} {i : Nat} {ds : List Datum},
    readItems path i ys = .ok ds → ∀ y ∈ ys, y.Holdable
  | [], _, _, _, _ => by simp
  | y :: ys, _, _, _, h => by
    rw [readItems] at h
    obtain ⟨d, hd, h⟩ := bind_eq_ok.mp h
    obtain ⟨ds, hds, -⟩ := bind_eq_ok.mp h
    exact List.forall_mem_cons.mpr ⟨holdable_of_read hd, holdable_of_readItems hds⟩

@[inherit_doc holdable_of_read]
theorem holdable_of_readEntries : ∀ {es : List (Yaml × Yaml)} {path : YamlPath}
    {ds : List (Datum × Datum)}, readEntries path es = .ok ds →
    ∀ e ∈ es, e.1.Holdable ∧ e.2.Holdable
  | [], _, _, _ => by simp
  | (k, v) :: es, _, _, h => by
    rw [readEntries] at h
    obtain ⟨key, hkey, h⟩ := bind_eq_ok.mp h
    obtain ⟨value, hvalue, h⟩ := bind_eq_ok.mp h
    obtain ⟨ds, hds, -⟩ := bind_eq_ok.mp h
    exact List.forall_mem_cons.mpr
      ⟨⟨holdable_of_read hkey, holdable_of_read hvalue⟩, holdable_of_readEntries hds⟩

end

theorem exists_readItems {ys : List Yaml} (h : ∀ y ∈ ys, ∀ path, ∃ d, read path y = .ok d)
    (path : YamlPath) (i : Nat) : ∃ ds, readItems path i ys = .ok ds := by
  induction ys generalizing i with
  | nil => exact ⟨[], rfl⟩
  | cons y ys ih =>
    obtain ⟨hy, hys⟩ := List.forall_mem_cons.mp h
    obtain ⟨d, hd⟩ := hy (path ++ [itemStep i])
    obtain ⟨ds, hds⟩ := ih hys (i + 1)
    exact ⟨d :: ds, by rw [readItems]; exact bind_eq_ok.mpr ⟨d, hd, bind_eq_ok.mpr ⟨ds, hds, rfl⟩⟩⟩

theorem exists_readEntries {es : List (Yaml × Yaml)}
    (hkeys : ∀ e ∈ es, ∀ path, ∃ d, read path e.1 = .ok d)
    (hvalues : ∀ e ∈ es, ∀ path, ∃ d, read path e.2 = .ok d) (path : YamlPath) :
    ∃ ds, readEntries path es = .ok ds := by
  induction es with
  | nil => exact ⟨[], rfl⟩
  | cons e es ih =>
    obtain ⟨k, v⟩ := e
    obtain ⟨hk, hkeys⟩ := List.forall_mem_cons.mp hkeys
    obtain ⟨hv, hvalues⟩ := List.forall_mem_cons.mp hvalues
    obtain ⟨key, hkey⟩ := hk path
    obtain ⟨value, hvalue⟩ := hv (path ++ [keyStep k])
    obtain ⟨ds, hds⟩ := ih hkeys hvalues
    exact ⟨(key, value) :: ds, by
      rw [readEntries]
      exact bind_eq_ok.mpr ⟨key, hkey, bind_eq_ok.mpr ⟨value, hvalue, bind_eq_ok.mpr ⟨ds, hds, rfl⟩⟩⟩⟩

/-- What can be held is read as a datum, at any place of a document. -/
theorem exists_read (h : y.Holdable) (path : YamlPath) : ∃ d, read path y = .ok d := by
  induction h generalizing path with
  | nothing => exact ⟨.null, rfl⟩
  | scalar untagged denotes fits =>
    obtain ⟨d, hd⟩ := exists_readScalar_iff.mpr ⟨_, denotes, fits⟩
    rw [read]
    exact ⟨d, bind_eq_ok.mpr ⟨(), checkTag_eq_ok.mpr untagged, hd⟩⟩
  | sequence untagged _ ih =>
    obtain ⟨ds, hds⟩ := exists_readItems ih path 0
    rw [read]
    exact ⟨_, bind_eq_ok.mpr ⟨(), checkTag_eq_ok.mpr untagged, bind_eq_ok.mpr ⟨ds, hds, rfl⟩⟩⟩
  | mapping untagged _ _ ihKeys ihValues =>
    obtain ⟨ds, hds⟩ := exists_readEntries ihKeys ihValues path
    rw [read]
    exact ⟨_, bind_eq_ok.mpr ⟨(), checkTag_eq_ok.mpr untagged, bind_eq_ok.mpr ⟨ds, hds, rfl⟩⟩⟩

/-- **Data.** Content is read as a datum if it can be held. -/
theorem exists_read_iff (path : YamlPath) : (∃ d, read path y = .ok d) ↔ y.Holdable :=
  ⟨fun ⟨_, hd⟩ => holdable_of_read hd, fun h => exists_read h path⟩

/-! ### Data that may be missing -/

/-- A tag that demands nothing demands a word for it. -/
theorem atom?_nullTag (s : String) : ∃ message,
    atom? .plain (some nullTag) s = if isNull s then .ok .null else .error message := by
  have hboolean : (some nullTag == some booleanTag) = false := by decide
  have hinteger : (some nullTag == some integerTag) = false := by decide
  have hfloat : (some nullTag == some floatTag) = false := by decide
  simp only [atom?, hboolean, hinteger, hfloat, beq_self_eq_true, if_true, Bool.false_eq_true,
    if_false]
  split_ifs
  · exact ⟨"", rfl⟩
  · exact ⟨_, rfl⟩

theorem read_nullTag (path : YamlPath) (s : String) :
    read path (.scalar .plain (some nullTag) s) = readScalar .plain (some nullTag) s path := by
  have htag : localTag? (some nullTag) = none := by decide
  rw [read, checkTag, htag]
  rfl

/-- Content is missing where it denotes nothing; otherwise it is read as it is. -/
theorem readOption_cases (path : YamlPath) (y : Yaml) :
    readOption read path y = (read path y).map some ∨
      readOption read path y = .ok none ∧ read path y = .ok .null ∨
      (∃ e, readOption read path y = .error e) ∧ ∃ e, read path y = .error e := by
  unfold readOption
  split
  case h_1 => exact Or.inr (Or.inl ⟨rfl, rfl⟩)
  case h_2 tag s =>
    split_ifs with htag hnull
    · exact Or.inl rfl
    all_goals
      obtain rfl : tag = nullTag := by simpa using htag
      obtain ⟨message, hatom⟩ := atom?_nullTag s
      rw [read_nullTag, readScalar, hatom]
    · rw [if_pos hnull]
      exact Or.inr (Or.inl ⟨rfl, rfl⟩)
    · rw [if_neg hnull]
      exact Or.inr (Or.inr ⟨⟨_, rfl⟩, _, rfl⟩)
  case h_3 s =>
    split_ifs with hnull
    · have hatom : atom? .plain none s = .ok .null := atom?_plain (by rw [Atom.ofPlain, if_pos hnull])
      exact Or.inr (Or.inl ⟨rfl, (read_plain _ s).trans (by rw [readScalar, hatom])⟩)
    · exact Or.inl rfl
  case h_4 => exact Or.inl rfl

theorem exists_readOption_iff : (∃ o, readOption read path y = .ok o) ↔ y.Holdable := by
  rw [← exists_read_iff path]
  rcases readOption_cases path y with h | ⟨h, h'⟩ | ⟨⟨e, h⟩, ⟨e', h'⟩⟩
  · rw [h]
    constructor
    · rintro ⟨o, ho⟩
      obtain ⟨d, hd, -⟩ := map_eq_ok.mp ho
      exact ⟨d, hd⟩
    · rintro ⟨d, hd⟩
      exact ⟨some d, map_eq_ok.mpr ⟨d, hd, rfl⟩⟩
  · rw [h, h']
    simp
  · rw [h, h']
    simp

end Datum

end Vigil
