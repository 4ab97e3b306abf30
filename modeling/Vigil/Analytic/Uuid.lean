import Vigil.Yaml.Reader

/-! # Identifiers

A UUID is 32 hexadecimal digits. It is written in groups of 8, 4, 4, 4 and 12 with hyphens between them; read
are also the digits alone, and the groups in braces or after `urn:uuid:`, in any case. -/

namespace Vigil

open Vigil.Text Vigil.Yaml

/-- An identifier. -/
structure Uuid where
  digits : List (Fin 16)
  length_digits : digits.length = 32
deriving DecidableEq

namespace Uuid

/-- The identifier with no digit but zero. -/
def zero : Uuid := ⟨List.replicate 32 0, by simp⟩

/-- The letter of a digit. -/
def digitChar (d : Fin 16) : Char := Nat.digitChar d.val

/-- The digits of an identifier in their groups. -/
def render (u : Uuid) : String :=
  let cs := u.digits.map digitChar
  let group (start size : Nat) := (cs.drop start).take size
  String.ofList (group 0 8 ++ '-' :: group 8 4 ++ '-' :: group 12 4 ++ '-' :: group 16 4 ++
    '-' :: group 20 12)

/-- The digit of a letter in any case. -/
def digit? (c : Char) : Option (Fin 16) :=
  if h : isHexDigit c ∧ hexDigitValue c < 16 then some ⟨hexDigitValue c, h.2⟩ else none

/-- The identifier of 32 digits. -/
def ofDigits? (cs : List Char) : Option Uuid :=
  match cs.mapM digit? with
  | some ds => if h : ds.length = 32 then some ⟨ds, h⟩ else none
  | none => none

/-- Removes the hyphens between the groups. -/
def joinGroups? (cs : List Char) : Option (List Char) :=
  let hyphens := [8, 13, 18, 23]
  if hyphens.all fun i => cs[i]? == some '-' then
    some (cs.take 8 ++ (cs.drop 9).take 4 ++ (cs.drop 14).take 4 ++ (cs.drop 19).take 4 ++ cs.drop 24)
  else none

/-- What may stand before the groups. -/
def scheme : List Char := "urn:uuid:".toList

/-- Reads an identifier. -/
def parse? (s : String) : Option Uuid :=
  let cs := s.toList
  if cs.length = 32 then ofDigits? cs
  else if cs.length = 36 then (joinGroups? cs).bind ofDigits?
  else if cs.length = 38 ∧ cs.head? = some '\x7b' ∧ cs.getLast? = some '\x7d' then
    (joinGroups? (cs.drop 1).dropLast).bind ofDigits?
  else if cs.length = 45 ∧ (cs.take 9).map Char.toLower = scheme then
    (joinGroups? (cs.drop 9)).bind ofDigits?
  else none

/-- Reads an identifier from YAML. -/
def read : Reader Uuid
  | path, .scalar _ _ s =>
    match parse? s with
    | some u => .ok u
    | none => .error (.mismatch path "UUID parsing failed")
  | path, y => .error (mismatch "a formatted UUID string" path y)

end Uuid

end Vigil
