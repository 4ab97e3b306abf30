import Vigil.Event.Json
import Vigil.ProcessRecord.Json
import Vigil.Proofs.Event.Reading
import Vigil.Proofs.Json.Members
import Vigil.Proofs.Json.Skipping

/-! # Records and events of one text

A text that is read as the record of a process and as an event is read by two readers: that of
records passes over the members that are no attributes, and that of events keeps them all.

* `foldl_setNamed`: setting attributes one after the other, the last counts;
* `agree_membersFrom`: the reader of records sets the attributes among the members of the object;
* `read?_eq_ofTexts`: the attributes of the record are the texts in the fields of the event. -/

namespace Vigil

variable {text : String} {p : ProcessRecord} {e : Event}

namespace ProcessRecord

/-- The record whose attributes have given texts. -/
def ofTexts (texts : String → Option String) : ProcessRecord :=
  ⟨(texts subtypeField).map Subtype.ofName, texts nameField, texts commandLineField⟩

/-- Sets the attribute that a named value gives, by the text that it is taken for. -/
def setNamed {α : Type} (text : α → Option String) (p : ProcessRecord) (named : String × α) :
    ProcessRecord :=
  p.set named.1 (text named.2)

theorem set_ofTexts (texts : String → Option String) (field : String) (text : Option String) :
    (ofTexts texts).set field text =
      ofTexts fun name => if name = field then text else texts name := by
  have hname : nameField ≠ subtypeField := by decide
  have hcommand : commandLineField ≠ subtypeField := by decide
  have hcommandName : commandLineField ≠ nameField := by decide
  unfold set ofTexts
  split_ifs with h₁ h₂ h₃
  · simp [h₁, hname, hcommand]
  · simp [h₂, hname.symm, hcommandName]
  · simp [h₃, hcommand.symm, hcommandName.symm]
  · simp [Ne.symm h₁, Ne.symm h₂, Ne.symm h₃]

theorem set_of_not_mem {field : String} {t : Option String} (h : field ∉ fieldNames) :
    p.set field t = p := by
  simp only [fieldNames, List.mem_cons, List.not_mem_nil, or_false, not_or] at h
  rw [set, if_neg h.1, if_neg h.2.1, if_neg h.2.2]

theorem foldl_setNamed {α : Type} (text : α → Option String) (l : List (String × α)) :
    l.foldl (setNamed text) {} = ofTexts fun name => (l.reverse.lookup name).bind text := by
  induction l using List.reverseRecOn with
  | nil => rfl
  | append_singleton l named ih =>
    rw [List.foldl_append, ih, List.foldl_cons, List.foldl_nil, setNamed, set_ofTexts]
    congr 1
    funext name
    rw [List.reverse_append, List.reverse_singleton, List.singleton_append, lookup_entry]
    split_ifs <;> rfl

theorem agree_membersFrom (fuel fuel' : Nat) (first : Bool) (given : List String)
    (p : ProcessRecord) (cs : List Char) :
    Agree (fun read record => record = (read.1.foldl (setNamed textOf) p, read.2))
      (Json.members? fuel 1 first cs) (membersFrom fuel' first given p cs) := by
  induction fuel' generalizing fuel first given p cs with
  | zero => exact Agree.error_right
  | succ fuel' ih =>
    rcases fuel with _ | fuel
    · exact Agree.error_left
    · simp only [Json.members?, membersFrom]
      refine (Agree.refl _).bind ?_
      rintro ⟨more, rest⟩ _ rfl
      rcases more with _ | _
      · exact Agree.ok rfl
      · refine (Agree.refl _).bind ?_
        rintro ⟨name, rest⟩ _ rfl
        simp only
        split_ifs with hgiven hknown
        · exact Agree.error_right
        · refine (Agree.refl _).bind ?_
          rintro rest _ rfl
          refine (Json.agree_value? fuel _ 1 rest).bind ?_
          rintro ⟨v, rest⟩ _ rfl
          exact (ih fuel false (name :: given) (p.setNamed textOf (name, v)) rest).bind_left
            fun _ _ hread => Agree.ok hread
        · have hunknown : ∀ v, p.setNamed textOf (name, v) = p := fun v =>
            set_of_not_mem fun hmem => hknown (List.contains_iff_mem.mpr hmem)
          refine (Agree.refl _).bind ?_
          rintro rest _ rfl
          refine (Json.agree_skip? fuel _ 1 rest).bind ?_
          rintro ⟨v, rest⟩ _ rfl
          refine (ih fuel false given p rest).bind_left fun _ _ hread => Agree.ok ?_
          rw [List.foldl_cons, hunknown]
          exact hread

/-! ### Texts that are read twice -/

/-- The text of a value is that of the field it becomes. -/
theorem text?_ofJson (v : Json) : (Value.ofJson v).text? = textOf v := by
  cases v with
  | number n =>
    have hnumber : (Scalar.ofNumber n).text? = none := by
      unfold Scalar.ofNumber
      split
      · split_ifs <;> rfl
      · rfl
      · rfl
    exact hnumber
  | null | boolean | text | array | object => rfl

theorem lookup_ofMembers (members : List (String × Json)) (name : String) :
    (Value.ofMembers members).lookup name = (members.lookup name).map Value.ofJson := by
  induction members with
  | nil => rfl
  | cons member members ih =>
    obtain ⟨other, v⟩ := member
    rw [Value.ofMembers, lookup_entry, lookup_entry, ih]
    split_ifs <;> rfl

/-- The fields of an event are the members of an object, of each name the last. -/
theorem exists_members_of_read? (h : Event.read? text = .ok e) : ∃ members,
    Json.IsObjectText text members ∧
      ∀ name, e.fields.lookup name = (members.reverse.lookup name).map Value.ofJson := by
  obtain ⟨⟨e', rest⟩, h, hend⟩ := bind_eq_ok.mp h
  obtain ⟨⟨⟩, hatEnd, heq⟩ := bind_eq_ok.mp hend
  cases heq
  unfold Event.fromJson? at h
  split at h
  case h_1 cs hcs =>
    obtain ⟨⟨v, rest'⟩, hv, h⟩ := bind_eq_ok.mp h
    obtain ⟨fuel, members, hmembers, rfl⟩ := Json.value?_object hv rfl
    have hevent := Event.ofJson?_object (Json.wellFormed_value? hv)
    simp only [Json.ofMembers, hevent] at h
    cases h
    refine ⟨members, ⟨cs, fuel, rest, hcs, hmembers, hatEnd⟩, fun name => ?_⟩
    rw [lookup_ofMembers, Json.lookup_foldl_insert]
  case h_2 => cases h

/-- The attributes of a record that is read are texts among the members of the object. -/
theorem eq_ofTexts_of_read? {members : List (String × Json)} (hmembers : Json.IsObjectText text members)
    (h : read? text = .ok p) : p = ofTexts fun name => (members.reverse.lookup name).bind textOf := by
  obtain ⟨cs, fuel, rest, hcs, hmembers, -⟩ := hmembers
  simp only [read?, hcs] at h
  obtain ⟨⟨p', rest'⟩, hread, h⟩ := bind_eq_ok.mp h
  obtain ⟨-, -, heq⟩ := bind_eq_ok.mp h
  obtain rfl : p' = p := Except.ok.inj heq
  have hrecord : p' = members.foldl (setNamed textOf) {} :=
    congrArg Prod.fst (agree_membersFrom _ _ _ _ _ _ _ _ hmembers hread)
  rw [hrecord, foldl_setNamed]

/-- **One text, two readers.** The attributes of the record are the texts in the fields of the
event. -/
theorem read?_eq_ofTexts (hp : read? text = .ok p) (he : Event.read? text = .ok e) :
    p = ofTexts fun name => (e.fields.lookup name).bind Value.text? := by
  obtain ⟨members, hmembers, hlookup⟩ := exists_members_of_read? he
  rw [eq_ofTexts_of_read? hmembers hp]
  congr 1
  funext name
  rw [hlookup, Option.bind_map]
  congr 1
  funext v
  exact (text?_ofJson v).symm

end ProcessRecord

end Vigil
