import Vigil.Event.Basic
import Vigil.Text.Character

/-! # Mappings

A mapping says how a field is computed from an event: it is the value of a field, or a part of the path that
is its value. `baseName` is what follows the last separator of a path, and `dirName` what precedes it. A mapping
is written as the name of the field, or as `baseName` or `dirName` with the name in brackets. -/

namespace Vigil

open Vigil.Text

/-! ### Paths -/

/-- The characters that separate the parts of a path. -/
def isPathSeparator (c : Char) : Bool := c == '\\' || c == '/'

/-- A path split at its last separator, if it has one; the second part is what follows. -/
def splitPath : List Char → Option (List Char) × List Char
  | [] => (none, [])
  | c :: cs =>
    match splitPath cs with
    | (some dir, base) => (some (c :: dir), base)
    | (none, base) => if isPathSeparator c then (some [], base) else (none, c :: base)

/-- The last part of a path. -/
def baseName (path : String) : String := String.ofList (splitPath path.toList).2

/-- The path before the last separator, if there is one. -/
def dirName? (path : String) : Option String := (splitPath path.toList).1.map String.ofList

/-! ### Mappings -/

/-- How a field is computed from an event. -/
inductive Mapping
  | field (name : String)
  | baseName (name : String)
  | dirName (name : String)
deriving DecidableEq

namespace Mapping

/-- The field that a mapping reads. -/
def source : Mapping → String
  | .field name => name
  | .baseName name => name
  | .dirName name => name

/-- The value that a mapping gives, if it gives one. -/
def value? (m : Mapping) (e : Event) : Option Value :=
  match m with
  | .field name => e.find? name
  | .baseName name => (e.findText? name).map fun path => .text (Vigil.baseName path)
  | .dirName name => ((e.findText? name).bind dirName?).map .text

/-- Characters of the names of fields. -/
def isNameCharacter (c : Char) : Bool := isAlphanumeric c || c == '_' || c == '.'

/-- Whether a text is the name of a field: dots stand only inside. -/
def isFieldName (cs : List Char) : Bool :=
  !cs.isEmpty && cs.head? != some '.' && cs.getLast? != some '.' && cs.all isNameCharacter

/-- The word before a bracket and the text in it, where the bracket closes at the end. -/
def call? (cs : List Char) : Option (List Char × List Char) :=
  if cs.getLast? = some ')' ∧ '(' ∈ cs.dropLast then
    some (cs.dropLast.takeWhile (· != '('), (cs.dropLast.dropWhile (· != '(')).drop 1)
  else none

/-- The mapping of a function to a field, if there is such a function. -/
def ofFunction? (function name : String) : Option Mapping :=
  match function with
  | "baseName" => some (.baseName name)
  | "dirName" => some (.dirName name)
  | _ => none

/-- Reads a mapping without blanks around it. -/
def ofTrimmed? (cs : List Char) : Option Mapping :=
  match call? cs with
  | none => if isFieldName cs then some (.field (String.ofList cs)) else none
  | some (function, argument) =>
    if isFieldName (trim argument) then
      ofFunction? (String.ofList function) (String.ofList (trim argument))
    else none

/-- Reads a mapping. -/
def read? (text : String) : Option Mapping := ofTrimmed? (trim text.toList)

end Mapping

end Vigil
