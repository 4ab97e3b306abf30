import Vigil.ProcessRecord.Document
import Vigil.Proofs.Json.Passing
import Vigil.Proofs.ProcessRecord.Reading
import Vigil.Proofs.Yaml.Fields
import Vigil.Proofs.Yaml.Holding

/-! # Attributes of any kind

A record that is read has an attribute where the value of that attribute is a text, and is without it
otherwise (`HasTexts`). An object is read as a record whatever its members are. A mapping is if the values
of its attributes can be held as data: a local tag in one of them makes the whole record fail.

* `exists_read?`: objects;
* `exists_ofYaml?_iff`, `hasTexts_of_ofYaml?`: mappings;
* `reads_any_kind`: both. -/

namespace Vigil

open Vigil.Text Vigil.Yaml

namespace ProcessRecord

variable {text : String} {p q : ProcessRecord}

/-! ### Records with given texts -/

/-- Whether the attributes of a record are given texts. Of the stages two are known, in any case. -/
structure HasTexts (p : ProcessRecord) (texts : String → Option String) : Prop where
  name : p.name = texts nameField
  commandLine : p.commandLine = texts commandLineField
  subtype : p.subtype = (texts subtypeField).map fun s =>
    if equalIgnoringAsciiCase "create" s then .create
    else if equalIgnoringAsciiCase "terminate" s then .terminate
    else .unknown

theorem ofName_eq (s : String) : Subtype.ofName s =
    if equalIgnoringAsciiCase "create" s then .create
    else if equalIgnoringAsciiCase "terminate" s then .terminate
    else .unknown := by
  unfold Subtype.ofName Subtype.ofName? Subtype.all
  by_cases hcreate : equalIgnoringAsciiCase "create" s = true
  · simp [Subtype.name, hcreate]
  · by_cases hterminate : equalIgnoringAsciiCase "terminate" s = true
    · simp [Subtype.name, hcreate, hterminate]
    · -- the name of the unknown stage is as unknown as any other
      by_cases hunknown : equalIgnoringAsciiCase "unknown" s = true
      · simp [Subtype.name, hcreate, hterminate, hunknown]
      · simp [Subtype.name, hcreate, hterminate, hunknown]

theorem hasTexts_ofTexts (texts : String → Option String) : (ofTexts texts).HasTexts texts :=
  ⟨rfl, rfl, congrArg (fun f => (texts subtypeField).map f) (funext ofName_eq)⟩

/-- Only the texts of attributes matter. -/
theorem HasTexts.congr {texts texts' : String → Option String} (h : p.HasTexts texts)
    (heq : ∀ name ∈ fieldNames, texts name = texts' name) : p.HasTexts texts' := by
  obtain ⟨hname, hcommand, hsubtype⟩ := h
  refine ⟨hname.trans (heq _ ?_), hcommand.trans (heq _ ?_), hsubtype.trans ?_⟩
  · simp [fieldNames]
  · simp [fieldNames]
  · rw [heq _ (by simp [fieldNames])]

/-- Where no attribute is given twice, it does not matter that the last counts. -/
theorem hasTexts_reverse {α : Type} (get : α → Option String) {l : List (String × α)}
    (honce : AtMostOnce fieldNames (l.map Prod.fst)) :
    (ofTexts fun name => (l.reverse.lookup name).bind get).HasTexts fun name =>
      (l.lookup name).bind get :=
  (hasTexts_ofTexts _).congr fun name hname => by rw [lookup_reverse (honce name hname)]

/-! ### Objects -/

/-- A run over members comes to its end, if no attribute is given twice. -/
theorem exists_membersFrom {fuel fuel' : Nat} {first : Bool} {given : List String}
    {cs rest : List Char} {members : List (String × Json)}
    (h : Json.members? fuel 1 first cs = .ok (members, rest)) (hfuel : cs.length < fuel')
    (hgiven : ∀ name ∈ given, name ∉ members.map Prod.fst)
    (honce : AtMostOnce fieldNames (members.map Prod.fst)) :
    ∃ r, membersFrom fuel' first given p cs = .ok r := by
  induction fuel generalizing fuel' first given cs members p with
  | zero => cases h
  | succ fuel ih =>
    obtain ⟨⟨more, ds⟩, hnext, h⟩ := bind_eq_ok.mp h
    have hlt := Json.length_of_nextName? hnext
    obtain _ | fuel' := fuel'
    · omega
    rcases more with _ | _
    · exact ⟨(p, ds), bind_eq_ok.mpr ⟨_, hnext, rfl⟩⟩
    · obtain ⟨⟨name, ds₁⟩, hname, h⟩ := bind_eq_ok.mp h
      obtain ⟨ds₂, hcolon, h⟩ := bind_eq_ok.mp h
      obtain ⟨⟨v, ds₃⟩, hv, h⟩ := bind_eq_ok.mp h
      obtain ⟨⟨others, rest'⟩, hothers, h⟩ := bind_eq_ok.mp h
      cases h
      have hle₁ : ds₁.length ≤ ds.length := Json.textFrom_rest hname ▸ Json.length_afterText ds
      have hlt₂ := Json.length_of_colon? hcolon
      have hlt₃ := Json.length_of_value? hv
      have hfirst : name ∉ given := fun hmem => hgiven name hmem List.mem_cons_self
      have hgiven' : ∀ other ∈ given, other ∉ others.map Prod.fst := fun other hother hmem =>
        hgiven other hother (List.mem_cons_of_mem name hmem)
      by_cases hknown : name ∈ fieldNames
      · have hlast : name ∉ others.map Prod.fst := honce.not_mem_tail hknown
        obtain ⟨r, hr⟩ : ∃ r,
            membersFrom fuel' false (name :: given) (p.set name (textOf v)) ds₃ = .ok r :=
          ih hothers (by omega) (List.forall_mem_cons.mpr ⟨hlast, hgiven'⟩) honce.tail
        have hvalue : Json.value? (Json.fuelOf ds₂) 1 ds₂ = .ok (v, ds₃) :=
          Json.value?_of_enough hv (by unfold Json.fuelOf; omega)
        refine ⟨r, bind_eq_ok.mpr ⟨_, hnext, bind_eq_ok.mpr ⟨_, hname, ?_⟩⟩⟩
        dsimp only
        rw [if_neg (by simpa using hfirst)]
        refine bind_eq_ok.mpr ⟨_, hcolon, ?_⟩
        rw [if_pos (by simpa using hknown)]
        exact bind_eq_ok.mpr ⟨_, hvalue, hr⟩
      · obtain ⟨r, hr⟩ : ∃ r, membersFrom fuel' false given p ds₃ = .ok r :=
          ih hothers (by omega) hgiven' honce.tail
        have hskip : Json.skip? (Json.fuelOf ds₂) ds₂ = .ok ds₃ :=
          Json.skip?_of_enough hv (by unfold Json.fuelOf; omega)
        refine ⟨r, bind_eq_ok.mpr ⟨_, hnext, bind_eq_ok.mpr ⟨_, hname, ?_⟩⟩⟩
        dsimp only
        rw [if_neg (by simpa using hfirst)]
        refine bind_eq_ok.mpr ⟨_, hcolon, ?_⟩
        rw [if_neg (by simpa using hknown)]
        exact bind_eq_ok.mpr ⟨_, hskip, hr⟩

theorem exists_read? {members : List (String × Json)} (h : Json.IsObjectText text members)
    (honce : AtMostOnce fieldNames (members.map Prod.fst)) :
    ∃ p, read? text = .ok p := by
  obtain ⟨ds, fuel, rest, hds, hmembers, hend⟩ := h
  obtain ⟨⟨p, rest'⟩, hread⟩ : ∃ r, membersFrom (ds.length + 2) true [] {} ds = .ok r :=
    exists_membersFrom hmembers (by omega) (by simp) honce
  have hrest : rest' = rest := congrArg Prod.snd (agree_membersFrom _ _ _ _ _ _ _ _ hmembers hread)
  unfold read?
  rw [hds]
  exact ⟨p, bind_eq_ok.mpr ⟨_, hread, bind_eq_ok.mpr ⟨(), hrest ▸ hend, rfl⟩⟩⟩

end ProcessRecord

/-! ### Mappings -/

/-- The text that content denotes. -/
def Yaml.text? : Yaml → Option String
  | .scalar style tag s =>
    match atom? style tag s with
    | .ok (.text t) => some t
    | _ => none
  | _ => none

namespace ProcessRecord

variable {text : String} {p q : ProcessRecord} {path : YamlPath} {y : Yaml} {tag : Option String}
  {entries : List (Yaml × Yaml)} {fields : List (String × Yaml)}

theorem textOfDatum_of_readScalar {style : ScalarStyle} {s : String} {d : Datum}
    (h : Datum.readScalar style tag s path = .ok d) :
    textOfDatum d = (Yaml.scalar style tag s).text? := by
  unfold Datum.readScalar at h
  unfold Yaml.text?
  rcases hatom : atom? style tag s with message | a
  · simp only [hatom] at h
    cases h
  · simp only [hatom] at h ⊢
    cases a with
    | integer i =>
      simp only at h
      split at h
      case h_1 d' hd =>
        cases h
        obtain ⟨n, -, rfl⟩ := Datum.exists_isNormal_of_ofInteger? hd
        rfl
      case h_2 => cases h
    | null | boolean | float | text =>
      cases h
      rfl

/-- A datum that is read is a text where the content denotes one. -/
theorem textOfDatum_of_read {d : Datum} (h : Datum.read path y = .ok d) :
    textOfDatum d = y.text? := by
  cases y with
  | nothing =>
    cases h
    rfl
  | fault => cases h
  | scalar =>
    rw [Datum.read] at h
    obtain ⟨-, -, h⟩ := bind_eq_ok.mp h
    exact textOfDatum_of_readScalar h
  | sequence | mapping =>
    rw [Datum.read] at h
    obtain ⟨-, -, h⟩ := bind_eq_ok.mp h
    obtain ⟨_, -, heq⟩ := bind_eq_ok.mp h
    cases heq
    rfl

theorem bind_textOfDatum_of_readOption {o : Option Datum}
    (h : readOption Datum.read path y = .ok o) : o.bind textOfDatum = y.text? := by
  rcases Datum.readOption_cases path y with hread | ⟨hread, hnull⟩ | ⟨⟨e, hread⟩, -⟩
  · rw [hread] at h
    obtain ⟨d, hd, rfl⟩ := map_eq_ok.mp h
    exact textOfDatum_of_read hd
  · rw [hread] at h
    cases h
    exact textOfDatum_of_read hnull
  · rw [hread] at h
    cases h

/-- An attribute is set to the text of its value. -/
theorem setField_eq_ok {name : String} (h : setField name p path y = .ok q) :
    y.Holdable ∧ q = setNamed Yaml.text? p (name, y) := by
  obtain ⟨o, ho, heq⟩ := bind_eq_ok.mp h
  cases heq
  refine ⟨Datum.exists_readOption_iff.mp ⟨o, ho⟩, ?_⟩
  rw [setNamed, bind_textOfDatum_of_readOption ho]

theorem exists_setField (h : y.Holdable) (name : String) (p : ProcessRecord) (path : YamlPath) :
    ∃ q, setField name p path y = .ok q := by
  obtain ⟨o, ho⟩ := Datum.exists_readOption_iff.mpr h
  exact ⟨_, bind_eq_ok.mpr ⟨o, ho, rfl⟩⟩

/-- What a mapping is read as: the record that its fields make, one after the other. -/
theorem eq_foldl_of_ofYaml? (hdoc : document? text.toList = some (.mapping tag entries))
    (hfields : AreFields entries fields) (h : ofYaml? text = .ok p) :
    (∀ f ∈ fields, f.1 ∈ fieldNames → f.2.Holdable) ∧ p = fields.foldl (setNamed Yaml.text?) {} := by
  simp only [ofYaml?, readDocument, hdoc] at h
  obtain ⟨given, -, hrun⟩ : ∃ given : List String, (∀ name ∈ [], given.contains name = true) ∧
      (∀ f ∈ (Yaml.mapping tag entries).fields, f.1 ∈ fieldNames → f.2.Holdable) ∧
      p = (Yaml.mapping tag entries).fields.foldl (setNamed Yaml.text?) {} := by
    refine readRecord_run (P := fun fields _ p =>
      (∀ f ∈ fields, f.1 ∈ fieldNames → f.2.Holdable) ∧
      p = fields.foldl (setNamed Yaml.text?) {}) ?_ ?_ h ⟨by simp, rfl⟩
    · rintro fields given p q name v - - hset ⟨hheld, rfl⟩
      obtain ⟨hv, rfl⟩ := setField_eq_ok hset
      refine ⟨List.forall_mem_append.mpr ⟨hheld, List.forall_mem_singleton.mpr fun _ => hv⟩, ?_⟩
      rw [List.foldl_append]
      rfl
    · rintro fields given p name v hname ⟨hheld, rfl⟩
      have hunknown : name ∉ fieldNames := by simpa using hname
      refine ⟨List.forall_mem_append.mpr ⟨hheld, List.forall_mem_singleton.mpr fun hname =>
        absurd hname hunknown⟩, ?_⟩
      rw [List.foldl_append]
      exact (set_of_not_mem hunknown).symm
  rwa [Yaml.fields, hfields.fieldsOf_eq] at hrun

theorem exists_ofYaml?_iff (hdoc : document? text.toList = some (.mapping tag entries))
    (hfields : AreFields entries fields) (honce : AtMostOnce fieldNames (fields.map Prod.fst)) :
    (∃ p, ofYaml? text = .ok p) ↔ ∀ f ∈ fields, f.1 ∈ fieldNames → f.2.Holdable := by
  constructor
  · rintro ⟨p, hp⟩
    exact (eq_foldl_of_ofYaml? hdoc hfields hp).1
  · intro h
    obtain ⟨⟨p, given⟩, hread⟩ : ∃ r,
        readFieldsFrom fieldNames setField ignoreField [] [] {} entries = .ok r :=
      exists_readFieldsFrom hfields (by simp) honce fun f hf hknown p =>
        exists_setField (h f hf hknown) f.1 p _
    refine ⟨p, ?_⟩
    simp only [ofYaml?, readDocument, hdoc]
    exact bind_eq_ok.mpr ⟨entries, rfl, bind_eq_ok.mpr ⟨_, hread, rfl⟩⟩

/-- **Attributes of any kind.** An object is read as a record, and so is a mapping in which the values of the
attributes can be held. An attribute is there where its value is a text, whatever the other values are. -/
theorem reads_any_kind (text : String) :
    (∀ members, Json.IsObjectText text members →
      AtMostOnce fieldNames (members.map Prod.fst) →
      ∃ p, read? text = .ok p ∧ p.HasTexts fun name => (members.lookup name).bind textOf) ∧
    ∀ tag entries fields, document? text.toList = some (.mapping tag entries) →
      AreFields entries fields → AtMostOnce fieldNames (fields.map Prod.fst) →
      ((∃ p, ofYaml? text = .ok p) ↔ ∀ f ∈ fields, f.1 ∈ fieldNames → f.2.Holdable) ∧
      ∀ p, ofYaml? text = .ok p → p.HasTexts fun name => (fields.lookup name).bind Yaml.text? := by
  constructor
  · intro members hmembers honce
    obtain ⟨p, hp⟩ := exists_read? hmembers honce
    refine ⟨p, hp, ?_⟩
    rw [eq_ofTexts_of_read? hmembers hp]
    exact hasTexts_reverse textOf honce
  · intro tag entries fields hdoc hfields honce
    refine ⟨exists_ofYaml?_iff hdoc hfields honce, fun p hp => ?_⟩
    rw [(eq_foldl_of_ofYaml? hdoc hfields hp).2, foldl_setNamed]
    exact hasTexts_reverse Yaml.text? honce

theorem reads_any_kind_mixed :
    (∃ p, read? "\x7b\"subtype\": \"CREATE\", \"process_name\": [1e3, \x7b\x7d], \"pid\": 1, \"pid\": 2\x7d" =
      .ok p ∧ p.subtype = some .create ∧ p.name = none) ∧
    ∃ p, ofYaml? "\x7bsubtype: [null], process_name: x\x7d" = .ok p ∧
      p.subtype = none ∧ p.name = some "x" := by
  constructor
  · let text : String :=
      "\x7b\"subtype\": \"CREATE\", \"process_name\": [1e3, \x7b\x7d], \"pid\": 1, \"pid\": 2\x7d"
    have hmembers : (Json.members? 20 1 true (text.toList.drop 1)).toOption.any (fun r =>
        r.2.isEmpty && r.1.map Prod.fst == ["subtype", "process_name", "pid", "pid"] &&
          (r.1.lookup subtypeField).bind textOf == some "CREATE" &&
          (r.1.lookup nameField).bind textOf == none) = true := by
      decide +kernel
    obtain ⟨⟨members, rest⟩, hread, hparts⟩ := (Option.any_eq_true _ _).mp hmembers
    simp only [Bool.and_eq_true, List.isEmpty_iff, beq_iff_eq] at hparts
    obtain ⟨⟨⟨rfl, hnames⟩, hsubtype⟩, hname⟩ := hparts
    have hbrace : Json.skipBlanks text.toList = '\x7b' :: text.toList.drop 1 := by decide +kernel
    have htext : Json.IsObjectText text members :=
      ⟨_, 20, [], hbrace, toOption_eq_some.mp hread, rfl⟩
    have honce : AtMostOnce fieldNames (members.map Prod.fst) := by
      rw [hnames]
      decide
    have hcreate : equalIgnoringAsciiCase "create" "CREATE" = true := by decide
    obtain ⟨p, hp, htexts⟩ := (reads_any_kind text).1 members htext honce
    refine ⟨p, hp, ?_, htexts.name.trans hname⟩
    rw [htexts.subtype, hsubtype, Option.map_some, if_pos hcreate]
  · let text : String := "\x7bsubtype: [null], process_name: x\x7d"
    have hdoc : (document? text.toList).any (fun y =>
        y.isRecord && y.fields.map Prod.fst == ["subtype", "process_name"] &&
          (y.fields.all fun f => (readOption Datum.read [] f.2).isOk) &&
          (y.fields.lookup subtypeField).bind Yaml.text? == none &&
          (y.fields.lookup nameField).bind Yaml.text? == some "x") = true := by
      decide +kernel
    obtain ⟨y, hread, hparts⟩ := (Option.any_eq_true _ _).mp hdoc
    simp only [Bool.and_eq_true, List.all_eq_true, beq_iff_eq] at hparts
    obtain ⟨⟨⟨⟨hrecord, hnames⟩, hheld⟩, hsubtype⟩, hname⟩ := hparts
    obtain ⟨entries, hy, hfields⟩ := exists_areFields hrecord
    have honce : AtMostOnce fieldNames (y.fields.map Prod.fst) := by
      rw [hnames]
      decide
    obtain ⟨hiff, htexts⟩ :=
      (reads_any_kind text).2 _ entries y.fields (hread.trans (congrArg some hy)) hfields honce
    obtain ⟨p, hp⟩ := hiff.mpr fun f hf _ =>
      Datum.exists_readOption_iff.mp (exists_of_isOk (hheld f hf))
    refine ⟨p, hp, ?_, (htexts p hp).name.trans hname⟩
    rw [(htexts p hp).subtype, hsubtype, Option.map_none]

/-- A local tag makes the whole record fail, though its value could be disregarded. -/
theorem ofYaml?_localTag : ∃ entries,
    document? "process_name: !x y".toList = some (.mapping none entries) ∧
      AreFields entries [("process_name", .scalar .plain (some "!x") "y")] ∧
      AtMostOnce fieldNames ["process_name"] ∧ ∀ p, ofYaml? "process_name: !x y" ≠ .ok p := by
  have hdoc : (document? "process_name: !x y".toList).any (fun y =>
      y.isRecord && y.contentTag? == none && y.fields.map (fun f => (f.1, f.2.scalar?)) ==
        [("process_name", some (.plain, some "!x", "y"))]) = true := by
    decide +kernel
  obtain ⟨y, hread, hparts⟩ := (Option.any_eq_true _ _).mp hdoc
  simp only [Bool.and_eq_true, beq_iff_eq, List.map_eq_singleton_iff] at hparts
  obtain ⟨⟨hrecord, htag⟩, ⟨name, v⟩, hy, hfield⟩ := hparts
  obtain ⟨rfl, hv⟩ := Prod.mk.inj hfield
  obtain rfl := scalar?_eq_some.mp hv
  obtain ⟨entries, hmapping, hfields⟩ := exists_areFields hrecord
  rw [hy] at hfields
  rw [hmapping, htag] at hread
  have hfails : (ofYaml? "process_name: !x y").toOption = none := by decide +kernel
  refine ⟨entries, hread, hfields, by decide, fun p hp => ?_⟩
  rw [toOption_eq_some.mpr hp] at hfails
  cases hfails

end ProcessRecord

end Vigil
