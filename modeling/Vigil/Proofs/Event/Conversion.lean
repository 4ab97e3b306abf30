import Vigil.Event.Json
import Vigil.Proofs.Event.Equality
import Vigil.Proofs.Event.Reading
import Vigil.Proofs.Json.Members
import Vigil.Proofs.Json.WellFormed

/-! # What JSON values become

A JSON value becomes a value of the same structure (`Mirrors`): items stay in order, members keep their
names, and only whole numbers are told apart by the range that they are in. Nothing that differs becomes
equal, and a text is read as the event that its value becomes.

* `mirrors_ofJson`: what a well-formed value becomes mirrors it;
* `Mirrors.equal`: values that are mirrored by equal ones are equal (`Json.equal`);
* `Event.read?_of_isObject`, `Event.read?_of_not_isObject`: an event is read from a text if its value is an
  object;
* `Event.ofJson?_faithful`: all of this. -/

namespace Vigil

open Vigil.Decimal

/-! ### Equality of JSON values -/

/-- Equality of numbers: within one kind only, and numerical between floating point numbers. -/
def JsonNumber.equal : JsonNumber → JsonNumber → Bool
  | .whole m, .whole n => m == n
  | .negative i, .negative j => i == j
  | .float f, .float g => f.equal g
  | _, _ => false

namespace Json

mutual

/-- Equality of values. -/
def equal : Json → Json → Bool
  | .null, .null => true
  | .boolean a, .boolean b => a == b
  | .number m, .number n => m.equal n
  | .text s, .text t => s == t
  | .array vs, .array ws => equalItems vs ws
  | .object ms, .object ns => equalMembers ms ns
  | _, _ => false

/-- Equality of arrays, item by item. -/
def equalItems : List Json → List Json → Bool
  | [], [] => true
  | v :: vs, w :: ws => v.equal w && equalItems vs ws
  | _, _ => false

/-- Equality of objects, member by member. -/
def equalMembers : List (String × Json) → List (String × Json) → Bool
  | [], [] => true
  | (name, v) :: ms, (other, w) :: ns => name == other && v.equal w && equalMembers ms ns
  | _, _ => false

end

variable {vs ws : List Json} {ms ns : List (String × Json)}

theorem equalItems_iff :
    equalItems vs ws = true ↔ List.Forall₂ (fun v w => v.equal w = true) vs ws := by
  induction vs generalizing ws with
  | nil => cases ws <;> simp [equalItems]
  | cons v vs ih =>
    cases ws with
    | nil => simp [equalItems]
    | cons w ws => rw [equalItems, Bool.and_eq_true, ih, List.forall₂_cons]

theorem equalMembers_iff : equalMembers ms ns = true ↔
    List.Forall₂ (fun m n => m.1 = n.1 ∧ m.2.equal n.2 = true) ms ns := by
  induction ms generalizing ns with
  | nil => cases ns <;> simp [equalMembers]
  | cons m ms ih =>
    cases ns with
    | nil => simp [equalMembers]
    | cons n ns =>
      rw [equalMembers, Bool.and_eq_true, Bool.and_eq_true, beq_iff_eq, ih, List.forall₂_cons]

/-- Whether a value is an object. -/
def IsObject (v : Json) : Prop := ∃ members, v = .object members

end Json

/-! ### Values of the same structure -/

/-- The whole number that a number is. -/
def JsonNumber.integer? : JsonNumber → Option Int
  | .whole n => some n.toNat
  | .negative i => some i.toInt
  | .float _ => none

/-- Numbers that are the same whole number are equal. -/
theorem JsonNumber.equal_of_integer? {m n : JsonNumber} {k : Int} (hm : m.IsProper)
    (hn : n.IsProper) (hmk : m.integer? = some k) (hnk : n.integer? = some k) :
    m.equal n = true := by
  cases m with
  | whole m =>
    obtain rfl := Option.some.inj hmk
    cases n with
    | whole n =>
      have heq : (n.toNat : Int) = m.toNat := Option.some.inj hnk
      exact beq_iff_eq.mpr (UInt64.toNat_inj.mp (Int.ofNat.inj heq.symm))
    | negative j =>
      -- a number with a sign is negative, one without is not
      have heq : j.toInt = m.toNat := Option.some.inj hnk
      have hneg : j.toInt < 0 := hn
      omega
    | float => cases hnk
  | negative i =>
    obtain rfl := Option.some.inj hmk
    cases n with
    | whole n =>
      have heq : (n.toNat : Int) = i.toInt := Option.some.inj hnk
      have hneg : i.toInt < 0 := hm
      omega
    | negative j => exact beq_iff_eq.mpr (Int64.toInt_inj.mp (Option.some.inj hnk)).symm
    | float => cases hnk
  | float => cases hmk

/-- Whether a value has the structure of a JSON value, with the same scalars in it: a whole number is an
integer if it fits 64 bits with a sign, and unsigned if it only fits without one. -/
inductive Mirrors : Json → Value → Prop
  | null : Mirrors .null (.scalar .null)
  | boolean (b : Bool) : Mirrors (.boolean b) (.scalar (.boolean b))
  | text (s : String) : Mirrors (.text s) (.scalar (.text s))
  | int {n : JsonNumber} {i : Int64} (h : n.integer? = some i.toInt) :
    Mirrors (.number n) (.scalar (.int i))
  | unsigned {n : JsonNumber} {u : UInt64} (h : n.integer? = some (u.toNat : Int))
    (hlarge : 2 ^ 63 ≤ u.toNat) : Mirrors (.number n) (.scalar (.unsigned u))
  | float (f : Binary64) : Mirrors (.number (.float f)) (.scalar (.float f))
  | array {items : List Json} {values : List Value} (h : List.Forall₂ Mirrors items values) :
    Mirrors (.array items) (.sequence values)
  | object {members : List (String × Json)} {fields : Fields}
    (names : members.map Prod.fst = fields.map Prod.fst)
    (h : List.Forall₂ Mirrors (members.map Prod.snd) (fields.map Prod.snd)) :
    Mirrors (.object members) (.record fields)

theorem mirrors_ofNumber (n : JsonNumber) : Mirrors (.number n) (.scalar (.ofNumber n)) := by
  cases n with
  | whole n =>
    by_cases hn : n.toNat < Nat.pow 2 63
    · simp only [Scalar.ofNumber, if_pos hn]
      exact .int (congrArg some (Int64.toInt_ofNat_of_lt hn).symm)
    · simp only [Scalar.ofNumber, if_neg hn]
      exact .unsigned rfl (not_lt.mp hn)
  | negative i => exact .int rfl
  | float f => exact .float f

variable {v w : Json} {a b : Value}

/-- What a value becomes mirrors it. -/
theorem mirrors_ofJson (h : v.WellFormed) : Mirrors v (Value.ofJson v) := by
  induction h with
  | null => exact .null
  | boolean b => exact .boolean b
  | number => exact mirrors_ofNumber _
  | text s => exact .text s
  | array _ ih =>
    rw [Value.ofJson, Value.ofItems_eq_map]
    exact .array (List.forall₂_map_right_iff.mpr (List.forall₂_same.mpr ih))
  | object _ _ ih =>
    rw [Value.ofJson, Value.ofMembers_eq_map]
    refine .object (by simp) ?_
    rw [List.map_map, List.forall₂_map_left_iff, List.forall₂_map_right_iff, List.forall₂_same]
    exact ih

/-! ### Values that are told apart -/

theorem Mirrors.members {members : List (String × Json)} {fields : Fields}
    (h : Mirrors (.object members) (.record fields)) :
    List.Forall₂ (fun m f => m.1 = f.1 ∧ Mirrors m.2 f.2) members fields := by
  cases h with
  | object names h =>
    have hnames : List.Forall₂ (· = ·) (members.map Prod.fst) (fields.map Prod.fst) :=
      List.forall₂_eq_eq_eq ▸ names
    rw [List.forall₂_map_left_iff, List.forall₂_map_right_iff] at hnames h
    exact hnames.mp (fun _ _ hname hvalue => ⟨hname, hvalue⟩) h

/-- Fields that mirror members in the order of their names are in that order. -/
theorem Mirrors.namesIncrease {members : List (String × Json)} {fields : Fields}
    (h : Mirrors (.object members) (.record fields)) (hnames : Json.NamesIncrease members) :
    Json.NamesIncrease fields := by
  cases h with
  | object names _ =>
    have hmap : (members.map Prod.fst).Pairwise (· < ·) := List.pairwise_map.mpr hnames
    rw [names] at hmap
    exact List.pairwise_map.mp hmap

/-- Lists are related if they are so to lists that are related. -/
theorem forall₂_between {α β γ δ : Type} {R : α → β → Prop} {S : β → γ → Prop} {T : δ → γ → Prop}
    {U : α → δ → Prop} {as : List α} {bs : List β} {cs : List γ} {ds : List δ}
    (hR : List.Forall₂ R as bs) (hS : List.Forall₂ S bs cs) (hT : List.Forall₂ T ds cs)
    (h : ∀ a ∈ as, ∀ d ∈ ds, ∀ b c, R a b → S b c → T d c → U a d) : List.Forall₂ U as ds := by
  rw [List.forall₂_iff_get] at *
  obtain ⟨hab, hR⟩ := hR
  obtain ⟨hbc, hS⟩ := hS
  obtain ⟨hdc, hT⟩ := hT
  refine ⟨by omega, fun i hi hi' => ?_⟩
  exact h _ (List.get_mem as _) _ (List.get_mem ds _) _ _ (hR i hi (by omega))
    (hS i (by omega) (by omega)) (hT i hi' (by omega))

theorem Mirrors.number_equal {m n : JsonNumber} (hm : m.IsProper) (hn : n.IsProper)
    (ha : Mirrors (.number m) a) (hb : Mirrors (.number n) b) (h : a.equal b = true) :
    m.equal n = true := by
  cases ha with
  | int hi =>
    cases hb with
    | int hj =>
      rw [← eq_of_beq h] at hj
      exact JsonNumber.equal_of_integer? hm hn hi hj
    | unsigned | float => cases h
  | unsigned hu =>
    cases hb with
    | unsigned hv =>
      rw [← eq_of_beq h] at hv
      exact JsonNumber.equal_of_integer? hm hn hu hv
    | int | float => cases h
  | float f =>
    cases hb with
    | float g => exact h
    | int | unsigned => cases h

/-- Values that are mirrored by equal ones are equal. -/
theorem Mirrors.equal (hv : v.WellFormed) (hw : w.WellFormed) (ha : Mirrors v a) (hb : Mirrors w b)
    (h : a.equal b = true) : v.equal w = true := by
  induction hv generalizing w a b with
  | null =>
    cases ha
    cases hb with
    | null => rfl
    | _ => cases h
  | boolean x =>
    cases ha
    cases hb with
    | boolean y => exact h
    | _ => cases h
  | text s =>
    cases ha
    cases hb with
    | text t => exact h
    | _ => cases h
  | number hm =>
    cases hw with
    | number hn => exact Mirrors.number_equal hm hn ha hb h
    | _ => cases ha <;> cases hb <;> cases h
  | @array vs _ ih =>
    cases ha with
    | array hitems =>
      cases hb with
      | @array ws _ hitems' =>
        cases hw with
        | array hws =>
          refine Json.equalItems_iff.mpr ?_
          refine forall₂_between hitems (Value.equal_sequence_iff.mp h) hitems' ?_
          intro v hv w hw a b ha hab hb
          exact ih v hv (hws w hw) ha hb hab
      | _ => cases h
  | @object ms names _ ih =>
    obtain ⟨fs, rfl⟩ : ∃ fs, a = .record fs := by
      cases ha
      exact ⟨_, rfl⟩
    cases b with
    | scalar | sequence => cases h
    | record gs =>
      cases hw with
      | @object ns names' hns =>
        have hfs := ha.namesIncrease names
        have hgs := hb.namesIncrease names'
        have hrel := (Value.equal_record_iff hfs.nodup hgs.nodup).mp h
        refine Json.equalMembers_iff.mpr ?_
        refine forall₂_between ha.members (hfs.forall₂ hgs hrel) hb.members ?_
        rintro m hm n hn f g ⟨hname, hf⟩ ⟨hname', hfg⟩ ⟨hname'', hg⟩
        exact ⟨hname.trans (hname'.trans hname''.symm), ih m hm (hns n hn) hf hg hfg⟩
      | _ => cases hb

/-! ### Events -/

namespace Event

variable {text : String}

theorem mirrors_fields {e : Event} (hv : v.WellFormed) (h : ofJson? v = .ok e) :
    Mirrors v (.record e.fields) := by
  cases v with
  | object members =>
    rw [ofJson?_object hv] at h
    cases h
    exact mirrors_ofJson hv
  | null | boolean | number | text | array => cases h

/-- An event is made of objects alone. -/
theorem ofJson?_error_iff (hv : v.WellFormed) : (∃ e, ofJson? v = .error e) ↔ ¬ v.IsObject := by
  cases v with
  | object members =>
    rw [ofJson?_object hv]
    exact iff_of_false (by rintro ⟨e, ⟨⟩⟩) (not_not.mpr ⟨members, rfl⟩)
  | null | boolean | number | text | array =>
    exact iff_of_true ⟨_, rfl⟩ (by rintro ⟨members, ⟨⟩⟩)

/-- The text of an object is read as the event of the object. -/
theorem read?_of_isObject (h : Json.read? text = .ok v) (hv : v.IsObject) :
    ∃ e, ofJson? v = .ok e ∧ read? text = .ok e := by
  obtain ⟨⟨v', rest⟩, hvalue, h⟩ := bind_eq_ok.mp h
  obtain ⟨⟨⟩, hend, heq⟩ := bind_eq_ok.mp h
  cases heq
  obtain ⟨members, rfl⟩ := hv
  obtain ⟨ds, hds⟩ := Json.exists_brace hvalue
  have hevent := ofJson?_object (Json.wellFormed_value? hvalue)
  rw [← Json.value?_skipBlanks, hds] at hvalue
  refine ⟨_, hevent, bind_eq_ok.mpr ⟨(_, rest), ?_, bind_eq_ok.mpr ⟨(), hend, rfl⟩⟩⟩
  unfold fromJson?
  rw [hds]
  refine bind_eq_ok.mpr ⟨_, hvalue, ?_⟩
  simp only [hevent]
  rfl

/-- The text of any other value is no event. -/
theorem read?_of_not_isObject (h : Json.read? text = .ok v) (hv : ¬ v.IsObject) :
    ∃ e, read? text = .error e := by
  obtain ⟨⟨v', rest⟩, hvalue, h⟩ := bind_eq_ok.mp h
  obtain ⟨-, -, heq⟩ := bind_eq_ok.mp h
  cases heq
  have hbrace (ds : List Char) : Json.skipBlanks text.toList ≠ '\x7b' :: ds := by
    intro hds
    obtain ⟨_, members, -, rfl⟩ := Json.value?_object hvalue hds
    exact hv ⟨_, rfl⟩
  have hread : fromJson? 0 text.toList = .error (Json.mismatch formatName (Json.skipBlanks text.toList)) := by
    unfold fromJson?
    split
    case h_1 ds hds => exact absurd hds (hbrace ds)
    case h_2 => rfl
  exact ⟨_, congrArg (fun r => r >>= _) hread⟩

/-- **Conversion.** A JSON value becomes a value that mirrors it, and values that become equal are equal. An
event is made of objects alone, and it is what their texts are read as. -/
theorem ofJson?_faithful (hv : v.WellFormed) :
    (∃ value, Value.ofJson? v = .ok value ∧ Mirrors v value ∧
      ∀ w other, w.WellFormed → Value.ofJson? w = .ok other → value.equal other = true →
        v.equal w = true) ∧
    ((∃ e, ofJson? v = .error e) ↔ ¬ v.IsObject) ∧
    (∀ e, ofJson? v = .ok e → Mirrors v (.record e.fields)) ∧
    ∀ text, Json.read? text = .ok v →
      (v.IsObject → ∃ e, ofJson? v = .ok e ∧ read? text = .ok e) ∧
      (¬ v.IsObject → ∃ e, read? text = .error e) := by
  refine ⟨⟨_, Value.ofJson?_eq hv, mirrors_ofJson hv, ?_⟩, ofJson?_error_iff hv,
    fun e he => mirrors_fields hv he,
    fun text h => ⟨read?_of_isObject h, read?_of_not_isObject h⟩⟩
  intro w other hw hother hequal
  obtain rfl := Except.ok.inj ((Value.ofJson?_eq hw).symm.trans hother)
  exact (mirrors_ofJson hv).equal hv hw (mirrors_ofJson hw) hequal

theorem ofJson?_faithful_limits : ∃ v,
    Json.read? "\x7b\"n\": [9223372036854775807, 9223372036854775808, -1, null]\x7d" = .ok v ∧
      v.WellFormed ∧ v.IsObject ∧ v.equal (.object [("n", .array [
        .number (.whole 9223372036854775807), .number (.whole 9223372036854775808),
        .number (.negative (-1)), .null])]) = true ∧
      (∃ value, Value.ofJson? v = .ok value ∧ Mirrors v value) ∧
      ∃ e, ofJson? v = .ok e ∧
        read? "\x7b\"n\": [9223372036854775807, 9223372036854775808, -1, null]\x7d" = .ok e := by
  let text : String := "\x7b\"n\": [9223372036854775807, 9223372036854775808, -1, null]\x7d"
  let object : Json := .object [("n", .array [.number (.whole 9223372036854775807),
    .number (.whole 9223372036854775808), .number (.negative (-1)), .null])]
  have hany : (Json.read? text).toOption.any (fun v => v.equal object) = true := by decide +kernel
  obtain ⟨v, hsome, hequal⟩ := Option.any_eq_true _ _ |>.mp hany
  have hread : Json.read? text = .ok v := toOption_eq_some.mp hsome
  have hv : v.WellFormed := Json.wellFormed_of_read? hread
  have hobject : v.IsObject := by
    cases v with
    | object members => exact ⟨members, rfl⟩
    | null | boolean | number | text | array => cases hequal
  obtain ⟨⟨value, hvalue, hmirrors, -⟩, -, -, hevent⟩ := ofJson?_faithful hv
  exact ⟨v, hread, hv, hobject, hequal, ⟨value, hvalue, hmirrors⟩, (hevent text hread).1 hobject⟩

end Event

end Vigil
