import Vigil.Text.Casing
import Vigil.Text.Character
import Vigil.Unicode.Age
import Vigil.Unicode.Script

/-! # Character classes

A class is a set of characters, described by how it is made: from single characters, ranges and
properties, by union, intersection and difference, by complement, and by closing it under case folding.
`contains` follows the description. -/

namespace Vigil.Pattern

open Vigil.Text Vigil.Unicode

/-- A set of characters. -/
inductive CharClass
  | nothing
  | char (c : Char)
  | range (first last : Char)
  | blank
  | decimalDigit
  | word
  | ranges (r : Ranges)
  | categories (codes : List String)
  | script (code : String)
  | scriptExtension (code : String)
  | ages (versions : List String)
  | union (a b : CharClass)
  | intersection (a b : CharClass)
  | difference (a b : CharClass)
  | symmetricDifference (a b : CharClass)
  | complement (a : CharClass)
  | folded (a : CharClass)

namespace CharClass

/-- The scripts a code point is used in. -/
def scriptExtensionsOf (n : Nat) : List String :=
  match scriptExtensionRuns.find n with
  | "" => [scriptRuns.find n]
  | codes => codes.splitOn ","

/-- Membership of a character. -/
def contains : CharClass → Char → Bool
  | .nothing, _ => false
  | .char c, d => c == d
  | .range first last, d => first ≤ d && d ≤ last
  | .blank, d => isBlank d
  | .decimalDigit, d => isDecimalDigit d
  | .word, d => isWordCharacter d
  | .ranges r, d => r.contains d.toNat
  | .categories codes, d => codes.contains (generalCategory d.toNat)
  | .script code, d => scriptRuns.find d.toNat == code
  | .scriptExtension code, d => (scriptExtensionsOf d.toNat).contains code
  | .ages versions, d => versions.contains (ageRuns.find d.toNat)
  | .union a b, d => a.contains d || b.contains d
  | .intersection a b, d => a.contains d && b.contains d
  | .difference a b, d => a.contains d && !b.contains d
  | .symmetricDifference a b, d => a.contains d != b.contains d
  | .complement a, d => !a.contains d
  | .folded (.char c), d => equalFolded c d
  | .folded a, d => (foldOrbit d).any a.contains

/-- The union of classes. -/
def unionAll (cs : List CharClass) : CharClass := cs.foldl .union .nothing

/-- Closes a class under case folding if asked to. -/
def foldedIf (fold : Bool) (a : CharClass) : CharClass := if fold then .folded a else a

/-- Takes the complement if asked to. -/
def complementIf (negated : Bool) (a : CharClass) : CharClass :=
  if negated then .complement a else a

/-- All characters. -/
def everything : CharClass := .complement .nothing

end CharClass

end Vigil.Pattern
