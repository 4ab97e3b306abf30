import Vigil.Unicode.Cased
import Vigil.Unicode.Folding
import Vigil.Unicode.Lowercase

/-! # Case

Three ways to disregard case. `asciiLower` knows the letters A to Z only. `lower` gives the lower-case
form of a text in any script: one capital letter becomes two characters, and a capital sigma depends on
whether it ends a word. `foldsTo` compares single characters: they agree when they fold to the same
character, and `foldOrbit` lists all that agree with one. -/

namespace Vigil.Text

open Vigil.Unicode

/-! ### ASCII -/

/-- The small letter of an ASCII capital; any other character stays. -/
def asciiLower (c : Char) : Char :=
  if 'A' ≤ c ∧ c ≤ 'Z' then Char.ofNat (c.toNat + 32) else c

/-- The capital of an ASCII small letter; any other character stays. -/
def asciiUpper (c : Char) : Char :=
  if 'a' ≤ c ∧ c ≤ 'z' then Char.ofNat (c.toNat - 32) else c

/-- Equality of texts up to the case of ASCII letters. -/
def equalIgnoringAsciiCase (s t : String) : Bool :=
  s.toList.map asciiLower == t.toList.map asciiLower

/-! ### Lower case -/

/-- The lower-case form of a character by itself. -/
def lowerChar (c : Char) : List Char :=
  if c.toNat < 128 then [asciiLower c]
  else match lowercasePairs.find? c.toNat with
    | some images => images.map Char.ofNat
    | none => [c]

/-- Characters that have case. -/
def isCased (c : Char) : Bool :=
  if c.toNat < 128 then c.isAlpha else casedRanges.contains c.toNat

/-- Characters that are skipped when looking for a character that has case. -/
def isCaseIgnorable (c : Char) : Bool :=
  if c.toNat < 128 then
    c == '\'' || c == '.' || c == ':' || c == '^' || c.toNat == 0x60
  else caseIgnorableRanges.contains c.toNat

/-- Whether the first character that case does not ignore has case. -/
def meetsCased (cs : List Char) : Bool :=
  match cs.dropWhile isCaseIgnorable with
  | c :: _ => isCased c
  | [] => false

/-- The lower-case form of a text, where `before` is what precedes it, the nearest character first. A
capital sigma becomes the final form when it ends a word: a character with case comes before it and none
after it. -/
def lowerAfter (before : List Char) : List Char → List Char
  | [] => []
  | c :: rest =>
    (if c = 'Σ' then
      [if meetsCased before && !meetsCased rest then 'ς' else 'σ']
    else lowerChar c) ++ lowerAfter (c :: before) rest

/-- The lower-case form of a text. -/
def lower (cs : List Char) : List Char := lowerAfter [] cs

/-! ### Folding -/

/-- The character that stands for all that equal `c` up to case. -/
def fold (c : Char) : Char :=
  if c.toNat < 128 then asciiLower c
  else match foldPairs.find? c.toNat with
    | some (n :: _) => Char.ofNat n
    | _ => c

/-- Whether two characters are equal up to case. -/
def equalFolded (c d : Char) : Bool := fold c == fold d

/-- The characters other than `c` that fold to `c`. -/
def unfold (c : Char) : List Char :=
  if c = 'k' then ['K', Char.ofNat 0x212A]
  else if c = 's' then ['S', Char.ofNat 0x17F]
  else if c.toNat < 128 then (if 'a' ≤ c ∧ c ≤ 'z' then [asciiUpper c] else [])
  else match unfoldPairs.find? c.toNat with
    | some images => images.map Char.ofNat
    | none => []

/-- The characters that equal `c` up to case. -/
def foldOrbit (c : Char) : List Char := fold c :: unfold (fold c)

end Vigil.Text
