import Mathlib.Data.List.Basic
import Vigil.Analytic.Uuid

/-! # Identifiers as texts

* `joinGroups?_eq`: the hyphens between the groups are removed;
* `parse?_render`: what an identifier is written as is read as the identifier. -/

namespace Vigil.Uuid

/-! ### Digits -/

theorem digit?_digitChar : ∀ d : Fin 16, digit? (digitChar d) = some d := by decide

theorem mapM_digit? (ds : List (Fin 16)) : (ds.map digitChar).mapM digit? = some ds := by
  induction ds with
  | nil => rfl
  | cons d ds ih => simp [List.mapM_cons, digit?_digitChar, ih]

theorem ofDigits?_digits (u : Uuid) : ofDigits? (u.digits.map digitChar) = some u := by
  rw [ofDigits?, mapM_digit?]
  exact dif_pos u.length_digits

/-! ### Groups -/

variable {a b c d e : List Char}

theorem joinGroups?_eq (ha : a.length = 8) (hb : b.length = 4) (hc : c.length = 4)
    (hd : d.length = 4) :
    joinGroups? (a ++ '-' :: b ++ '-' :: c ++ '-' :: d ++ '-' :: e) =
      some (a ++ b ++ c ++ d ++ e) := by
  unfold joinGroups?
  rw [if_pos]
  · simp [List.drop_append, List.drop_eq_nil_of_le, ha, hb, hc, hd]
  · simp [List.getElem?_append, ha, hb, hc, hd]

/-- A text of 32 characters consists of its groups. -/
theorem append_groups {cs : List Char} (h : cs.length = 32) :
    (cs.drop 0).take 8 ++ (cs.drop 8).take 4 ++ (cs.drop 12).take 4 ++ (cs.drop 16).take 4 ++
      (cs.drop 20).take 12 = cs := by
  rw [List.drop_zero, ← List.take_add, ← List.take_add, ← List.take_add, ← List.take_add]
  exact List.take_of_length_le (by omega)

/-- **Identifiers** are read from what they are written as. -/
theorem parse?_render (u : Uuid) : parse? u.render = some u := by
  have hlength : (u.digits.map digitChar).length = 32 := by
    rw [List.length_map, u.length_digits]
  have hgroup (start size : Nat) (h : start + size ≤ 32) :
      (((u.digits.map digitChar).drop start).take size).length = size := by
    rw [List.length_take, List.length_drop, hlength]
    omega
  have hjoin := joinGroups?_eq (e := ((u.digits.map digitChar).drop 20).take 12)
    (hgroup 0 8 (by decide)) (hgroup 8 4 (by decide)) (hgroup 12 4 (by decide))
    (hgroup 16 4 (by decide))
  rw [append_groups hlength] at hjoin
  have hrender : u.render.toList.length = 36 := by
    simp [render, hlength]
  unfold parse?
  simp only [hrender]
  rw [if_neg (by decide), if_pos trivial, render, String.toList_ofList, hjoin]
  exact ofDigits?_digits u

end Vigil.Uuid
