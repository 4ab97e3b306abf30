import Mathlib.Data.List.Forall2
import Vigil.Proofs.Pattern.Recasing
import Vigil.Proofs.Query.Indistinguishable
import Vigil.Proofs.Query.Satisfaction

/-! # Tests without regard to case

The tests that disregard case (`Form.Recased`) do not see the case of ASCII letters, neither in what
they are written with nor in the texts of an event (`Value.Recased`).
* `Function.pattern?_recased`: the patterns of the functions;
* `Form.Recased.operands?_rel`: what a field is compared with;
* `Event.find?_recased`: what the dotted names of an event lead to;
* `tests_ignore_ascii_case`: the tests. -/

namespace Vigil

open Vigil.Text

/-! ### Values -/

/-- Whether two scalars are the same up to the case of ASCII letters. -/
inductive Scalar.Recased : Scalar → Scalar → Prop
  | text {s t : String} (h : equalIgnoringAsciiCase s t = true) : Recased (.text s) (.text t)
  | same (s : Scalar) : Recased s s

namespace Value

mutual

/-- Whether two values are the same up to the case of ASCII letters in their texts. -/
inductive Recased : Value → Value → Prop
  | scalar {s t : Scalar} (h : s.Recased t) : Recased (.scalar s) (.scalar t)
  | sequence {vs ws : List Value} (h : RecasedItems vs ws) : Recased (.sequence vs) (.sequence ws)
  | record {fs gs : Fields} (h : RecasedFields fs gs) : Recased (.record fs) (.record gs)

/-- Whether items are the same, one by one, up to the case of ASCII letters. -/
inductive RecasedItems : List Value → List Value → Prop
  | nil : RecasedItems [] []
  | cons {v w : Value} {vs ws : List Value} (hv : Recased v w) (h : RecasedItems vs ws) :
    RecasedItems (v :: vs) (w :: ws)

/-- Whether fields have the same names, and values that are the same up to the case of ASCII
letters. -/
inductive RecasedFields : Fields → Fields → Prop
  | nil : RecasedFields [] []
  | cons {v w : Value} {fs gs : Fields} (name : String) (hv : Recased v w)
    (h : RecasedFields fs gs) : RecasedFields ((name, v) :: fs) ((name, w) :: gs)

end

mutual

theorem Recased.scalars {v w : Value} :
    Recased v w → List.Forall₂ Scalar.Recased v.scalars w.scalars
  | .scalar h => .cons h .nil
  | .sequence h => h.scalarsOf
  | .record _ => .nil

theorem RecasedItems.scalarsOf {vs ws : List Value} :
    RecasedItems vs ws → List.Forall₂ Scalar.Recased (scalarsOf vs) (scalarsOf ws)
  | .nil => .nil
  | .cons hv h => List.rel_append hv.scalars h.scalarsOf

end

theorem RecasedFields.lookup_rel {fs gs : Fields} (name : String) :
    RecasedFields fs gs → Option.Rel Recased (fs.lookup name) (gs.lookup name)
  | .nil => .none
  | .cons other hv h => by
    rw [lookup_entry, lookup_entry]
    split
    · exact .some hv
    · exact h.lookup_rel name

theorem Recased.keepsRecords : KeepsRecords Recased where
  of_left
    | .record h => ⟨_, rfl, h.lookup_rel⟩
  of_right
    | .record _ => ⟨_, rfl⟩

end Value

namespace Event

variable {e e' : Event}

/-- Whether two events are the same up to the case of ASCII letters in the texts in them. -/
def Recased (e e' : Event) : Prop := Value.RecasedFields e.fields e'.fields

/-- What a dotted name leads to in such events is the same up to the case of ASCII letters. -/
theorem find?_recased (h : e.Recased e') (name : String) :
    Option.Rel Value.Recased (e.find? name) (e'.find? name) :=
  find?_rel Value.Recased.keepsRecords (Value.RecasedFields.lookup_rel · h) name

end Event

namespace Query

open Pattern (recased_letters written_recased wildcard?_recased ofText_recased)

/-! ### Patterns -/

/-- Apart from regular expressions, the functions make patterns of texts that are the same up to the
case of ASCII letters that match the same. -/
theorem Function.pattern?_recased {f : Function} {s t : String} (hf : f ≠ .regex)
    (h : Text.Recased s.toList t.toList) :
    Option.Rel Pattern.Recased (f.pattern? s false) (f.pattern? t false) := by
  cases f with
  | wildcard => exact wildcard?_recased h
  | regex => exact absurd rfl hf
  | startsWith =>
    rw [pattern?, pattern?, Pattern.startsWith?_eq_written, Pattern.startsWith?_eq_written]
    exact written_recased (List.rel_append (recased_letters h) (.cons .anything .nil))
  | endsWith =>
    rw [pattern?, pattern?, Pattern.endsWith?_eq_written, Pattern.endsWith?_eq_written]
    exact written_recased (.cons .anything (recased_letters h))
  | contains =>
    rw [pattern?, pattern?, Pattern.contains?_eq_written, Pattern.contains?_eq_written]
    exact written_recased
      (.cons .anything (List.rel_append (recased_letters h) (.cons .anything .nil)))

/-! ### Operands -/

/-- Whether two literals are the same up to the case of ASCII letters. -/
inductive Literal.Recased : Literal → Literal → Prop
  | text {s t : String} (h : equalIgnoringAsciiCase s t = true) : Recased (.text s) (.text t)
  | same (value : Literal) : Recased value value

/-- Whether two operands are satisfied by the same scalars, up to the case of ASCII letters. -/
def Operand.Recased (o o' : Operand) : Prop :=
  ∀ s t, Scalar.Recased s t → o.satisfiedBy s = o'.satisfiedBy t

theorem Operand.recased_pattern {p q : Pattern} (h : p.Recased q) :
    (Operand.pattern p).Recased (.pattern q) := by
  have htext {s t : String} (hst : equalIgnoringAsciiCase s t = true) :
      (Operand.pattern p).satisfiedBy (.text s) = (Operand.pattern q).satisfiedBy (.text t) :=
    h _ _ (equalIgnoringAsciiCase_iff.mp hst)
  intro s t hst
  cases hst with
  | text hst => exact htext hst
  | same =>
    cases s with
    | text s => exact htext (equalIgnoringAsciiCase_refl s)
    | int | unsigned | float | boolean | null => rfl

theorem Operand.recased_scalar {r : Scalar} (hr : r.text? = none) :
    (Operand.scalar r).Recased (.scalar r) := by
  intro s t hst
  cases hst with
  | text =>
    cases r with
    | text => cases hr
    | int | unsigned | float | boolean | null => rfl
  | same => rfl

/-! ### Forms -/

/-- Whether two forms disregard case and are the same up to the case of ASCII letters. -/
inductive Form.Recased : Form → Form → Prop
  | similar {v w : Literal} (h : v.Recased w) :
    Recased (.compare .similar v) (.compare .similar w)
  | member {vs ws : List Literal} (h : List.Forall₂ Literal.Recased vs ws) :
    Recased (.member false vs) (.member false ws)
  | call {f : Function} (hf : f ≠ .regex) {ss ts : List String}
    (h : List.Forall₂ (fun s t => equalIgnoringAsciiCase s t = true) ss ts) :
    Recased (.call ⟨f, false⟩ ss) (.call ⟨f, false⟩ ts)
  | option {s t : String} (h : equalIgnoringAsciiCase s t = true) :
    Recased (.option s) (.option t)

namespace Form.Recased

variable {form form' : Form}

theorem isNegated_eq (h : form.Recased form') : form.isNegated = form'.isNegated := by
  cases h <;> rfl

theorem literals_recased (h : form.Recased form') :
    List.Forall₂ Literal.Recased form.literals form'.literals := by
  cases h with
  | similar h => exact .cons h .nil
  | member h => exact h
  | call _ h =>
    rw [literals, literals, List.forall₂_map_left_iff, List.forall₂_map_right_iff]
    exact h.imp fun _ _ => .text
  | option h => exact .cons (.text h) .nil

theorem pattern?_rel (h : form.Recased form') {s t : String}
    (hst : equalIgnoringAsciiCase s t = true) :
    Option.Rel Pattern.Recased (form.pattern? s) (form'.pattern? t) := by
  rw [equalIgnoringAsciiCase_iff] at hst
  cases h with
  | similar => exact wildcard?_recased hst
  | member | option => exact .some (ofText_recased hst)
  | call hf => exact Function.pattern?_recased hf hst

theorem operand?_rel (h : form.Recased form') {v w : Literal} (hvw : v.Recased w) :
    Option.Rel Operand.Recased (form.operand? v) (form'.operand? w) := by
  have htext {s t : String} (hst : equalIgnoringAsciiCase s t = true) :
      Option.Rel Operand.Recased (form.operand? (.text s)) (form'.operand? (.text t)) :=
    rel_map (h.pattern?_rel hst) fun _ _ => Operand.recased_pattern
  cases hvw with
  | text hst => exact htext hst
  | same =>
    cases v with
    | text s => exact htext (equalIgnoringAsciiCase_refl s)
    | integer | boolean | null => exact .some (Operand.recased_scalar rfl)

/-- Fields are compared with what is the same up to the case of ASCII letters. -/
theorem operands?_rel (h : form.Recased form') :
    Option.Rel (List.Forall₂ Operand.Recased) form.operands? form'.operands? := by
  rw [operands?_eq_mapM, operands?_eq_mapM]
  exact rel_mapM (h.literals_recased.imp fun _ _ => h.operand?_rel)

end Form.Recased

/-! ### Tests -/

variable {l l' : Leaf} {field : String} {form form' : Form} {t t' : Test}

theorem Test.satisfiedBy_eq_of_recased (h : List.Forall₂ Operand.Recased t.operands t'.operands)
    {v w : Value} (hvw : v.Recased w) : t.satisfiedBy v = t'.satisfiedBy w := by
  rw [t.satisfiedBy_eq_any, t'.satisfiedBy_eq_any]
  refine any_eq_of_forall₂ (hvw.scalars.imp fun r s hrs => ?_)
  exact any_eq_of_forall₂ (h.imp fun o o' ho => ho r s hrs)

theorem Test.holds_eq_of_recased {e e' : Event} (hfield : t'.field = t.field)
    (hform : t.form.Recased t'.form)
    (he : Option.Rel Value.Recased (e.find? t.field) (e'.find? t.field)) :
    t.holds e = t'.holds e' := by
  have hrel : Option.Rel (List.Forall₂ Operand.Recased) (some t.operands) (some t'.operands) := by
    rw [← t.operands_eq, ← t'.operands_eq]
    exact hform.operands?_rel
  obtain ⟨hoperands⟩ := hrel
  exact holds_eq_of_find?_rel hfield hform.isNegated_eq he fun _ _ =>
    satisfiedBy_eq_of_recased hoperands

/-- **Tests without regard to case.** Two leaves of one of the forms that disregard case, regular
expressions excepted, that differ only in the case of ASCII letters in their texts, either both
compile or neither does. Their tests hold alike, also where the texts in the field differ in this
way, in sequences of any depth. -/
theorem tests_ignore_ascii_case (hl : l.parts? = some (field, form))
    (hl' : l'.parts? = some (field, form')) (hform : form.Recased form') :
    Option.Rel (fun t t' =>
      (∀ e e' : Event, Option.Rel Value.Recased (e.find? field) (e'.find? field) →
        t.holds e = t'.holds e') ∧
      ∀ e e' : Event, e.Recased e' → t.holds e = t'.holds e') l.test? l'.test? := by
  have hcompile : l.test?.isSome = l'.test?.isSome := by
    rw [Bool.eq_iff_iff, Leaf.isSome_test?_iff hl, Leaf.isSome_test?_iff hl',
      ← Form.isSome_operands?_iff, ← Form.isSome_operands?_iff,
      isSome_eq_of_rel hform.operands?_rel]
  refine rel_of_isSome_eq hcompile fun t t' ht ht' => ?_
  obtain ⟨rfl, rfl, -⟩ := Leaf.of_test? ht hl
  obtain ⟨hfield, rfl, -⟩ := Leaf.of_test? ht' hl'
  have hholds (e e' : Event)
      (he : Option.Rel Value.Recased (e.find? t.field) (e'.find? t.field)) :
      t.holds e = t'.holds e' :=
    Test.holds_eq_of_recased hfield hform he
  exact ⟨hholds, fun e e' he => hholds e e' (Event.find?_recased he t.field)⟩

/-- A capital sigma at the end of a word: a comparison does not see the case of the letter before
it, in the literal or in a sequence in a sequence. -/
theorem tests_ignore_ascii_case_sigma :
    ∃ t t', (Leaf.compare "f" .similar (.text "AΣ")).test? = some t ∧
      (Leaf.compare "f" .similar (.text "aΣ")).test? = some t' ∧
      t.holds ⟨[("f", .sequence [.sequence [.text "aΣ"]])]⟩ = true ∧
      t'.holds ⟨[("f", .sequence [.sequence [.text "AΣ"]])]⟩ = true := by
  let e : Event := ⟨[("f", .sequence [.sequence [.text "aΣ"]])]⟩
  let e' : Event := ⟨[("f", .sequence [.sequence [.text "AΣ"]])]⟩
  let l : Leaf := .compare "f" .similar (.text "AΣ")
  let l' : Leaf := .compare "f" .similar (.text "aΣ")
  have hform : (Form.compare .similar (.text "AΣ")).Recased (.compare .similar (.text "aΣ")) :=
    .similar (.text (by decide +kernel))
  have htext : Value.Recased (.text "aΣ") (.text "AΣ") := .scalar (.text (by decide +kernel))
  have he : e.Recased e' := .cons "f" (.sequence (.cons (.sequence (.cons htext .nil)) .nil)) .nil
  have hread : l.test?.map (fun t => t.holds e) = some true := by decide +kernel
  obtain ⟨t, ht, hholds⟩ := Option.map_eq_some_iff.mp hread
  obtain ⟨t', ht'⟩ : ∃ t', l'.test? = some t' := Option.isSome_iff_exists.mp (by decide +kernel)
  have hl : l.parts? = some ("f", .compare .similar (.text "AΣ")) := rfl
  have hl' : l'.parts? = some ("f", .compare .similar (.text "aΣ")) := rfl
  have hrel := tests_ignore_ascii_case hl hl' hform
  rw [ht, ht'] at hrel
  obtain ⟨-, hevents⟩ := Option.rel_some_some.mp hrel
  exact ⟨t, t', ht, ht', hholds, hevents e e' he ▸ hholds⟩

end Query

end Vigil
