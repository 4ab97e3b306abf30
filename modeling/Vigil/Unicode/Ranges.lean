import Vigil.Text.Digits

/-! # Tables over code points

A property of characters is kept as text, in hexadecimal, and read once: `Ranges` is a set of code
points ("41-5A 61-7A"), `Partition` gives every code point the code of the run it lies in
("0:Cc 20:Zs"), `Mapping` gives some code points a list of others ("130:69,307"). All three are
searched by halving. -/

namespace Vigil.Unicode

open Vigil.Text

/-- The last index from `lo` on, and below `hi`, at which `start` is at most `n`; `lo` itself is taken
to satisfy this. The fuel bounds the halvings. -/
def lastStart (start : Nat → Nat) (n : Nat) : Nat → Nat → Nat → Nat
  | 0, lo, _ => lo
  | fuel + 1, lo, hi =>
    if lo + 1 < hi then
      let mid := (lo + hi) / 2
      if start mid ≤ n then lastStart start n fuel mid hi else lastStart start n fuel lo mid
    else lo

/-- The words of a text, which blanks and ends of lines separate; `word` is the part of a word already
read, the last character first. -/
def wordsFrom (word : List Char) : List Char → List (List Char)
  | [] => if word.isEmpty then [] else [word.reverse]
  | c :: rest =>
    if c = ' ' ∨ c = '\n' then
      if word.isEmpty then wordsFrom [] rest else word.reverse :: wordsFrom [] rest
    else wordsFrom (c :: word) rest

/-- The words of a text. -/
def words (text : String) : List (List Char) := wordsFrom [] text.toList

/-- The parts of a text between the places where `sign` stands. -/
def parts (sign : Char) : List Char → List (List Char)
  | [] => [[]]
  | c :: rest =>
    if c = sign then [] :: parts sign rest
    else match parts sign rest with
      | part :: others => (c :: part) :: others
      | [] => [[c]]

/-! ### Sets -/

/-- A set of code points: sorted ranges that do not touch. -/
structure Ranges where
  bounds : Array (Nat × Nat)

/-- Reads ranges. -/
def Ranges.parse (text : String) : Ranges :=
  ⟨((words text).map fun item =>
    match parts '-' item with
    | [first, last] => (hexValue first, hexValue last)
    | _ => (hexValue item, hexValue item)).toArray⟩

/-- Whether the code point lies in one of the ranges. -/
def Ranges.contains (r : Ranges) (n : Nat) : Bool :=
  let i := lastStart (fun i => (r.bounds.getD i (0, 0)).1) n 32 0 r.bounds.size
  match r.bounds[i]? with
  | some (first, last) => first ≤ n && n ≤ last
  | none => false

/-! ### Runs -/

/-- A code for every code point: where each run starts and the code it has. -/
structure Partition where
  runs : Array (Nat × String)

/-- Reads runs. -/
def Partition.parse (text : String) : Partition :=
  ⟨((words text).map fun item =>
    match parts ':' item with
    | [start, code] => (hexValue start, String.ofList code)
    | _ => (0, "")).toArray⟩

/-- The code of a code point. -/
def Partition.find (p : Partition) (n : Nat) : String :=
  let i := lastStart (fun i => (p.runs.getD i (0, "")).1) n 32 0 p.runs.size
  match p.runs[i]? with
  | some (first, code) => if first ≤ n then code else ""
  | none => ""

/-! ### Mappings -/

/-- Code points with the code points they are sent to, in increasing order. -/
structure Mapping where
  entries : Array (Nat × List Nat)

/-- Reads entries. -/
def Mapping.parse (text : String) : Mapping :=
  ⟨((words text).map fun item =>
    match parts ':' item with
    | [source, images] => (hexValue source, (parts ',' images).map hexValue)
    | _ => (0, [])).toArray⟩

/-- What a code point is sent to, if it has an entry. -/
def Mapping.find? (m : Mapping) (n : Nat) : Option (List Nat) :=
  let i := lastStart (fun i => (m.entries.getD i (0, [])).1) n 32 0 m.entries.size
  match m.entries[i]? with
  | some (source, images) => if source = n then some images else none
  | none => none

/-- Reads codes with their names: "Latn:Latin". -/
def parseNames (text : String) : List (String × List String) :=
  (words text).map fun item =>
    match parts ':' item with
    | [code, names] => (String.ofList code, (parts ',' names).map String.ofList)
    | _ => (String.ofList item, [])

end Vigil.Unicode
