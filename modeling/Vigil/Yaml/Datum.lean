import Vigil.Json.Basic
import Vigil.Yaml.Reader

/-! # Data

Content of any shape: what scalars denote, lists, and mappings whose keys can be anything but may not be
given twice. Data become JSON when their keys can be written as texts, and they are written back as YAML so
that reading gives them again: a floating point number as a whole number and a power of ten, exactly. -/

namespace Vigil

open Vigil.Yaml Vigil.Text Vigil.Decimal

/-- Content of any shape. -/
inductive Datum
  | null
  | boolean (b : Bool)
  | number (n : JsonNumber)
  | text (s : String)
  | sequence (items : List Datum)
  | mapping (entries : List (Datum × Datum))
deriving Inhabited

namespace Datum

/-! ### Equality -/

/-- Equality of numbers: floating point numbers are compared numerically, but what is not a number equals
itself. -/
def equalNumbers : JsonNumber → JsonNumber → Bool
  | .float f, .float g => f.equal g || (f.isNaN && g.isNaN)
  | m, n => m == n

mutual

/-- Equality of data; the order of the entries of mappings does not matter. -/
def equal : Datum → Datum → Bool
  | .null, .null => true
  | .boolean b, .boolean c => b == c
  | .number m, .number n => equalNumbers m n
  | .text s, .text t => s == t
  | .sequence xs, .sequence ys => equalItems xs ys
  | .mapping es, .mapping fs => es.length == fs.length && equalEntries es fs
  | _, _ => false

/-- Equality of lists. -/
def equalItems : List Datum → List Datum → Bool
  | [], [] => true
  | x :: xs, y :: ys => x.equal y && equalItems xs ys
  | _, _ => false

/-- Whether each of the entries has an equal one among the others. -/
def equalEntries : List (Datum × Datum) → List (Datum × Datum) → Bool
  | [], _ => true
  | (k, v) :: es, fs => fs.any (fun (l, w) => k.equal l && v.equal w) && equalEntries es fs

end

/-! ### Reading -/

/-- The datum of a whole number, if it fits 64 bits. -/
def ofInteger? (i : Int) : Option Datum :=
  if !fits64 i then none
  else if 0 ≤ i then some (.number (.whole (UInt64.ofNat i.toNat)))
  else some (.number (.negative (Int64.ofInt i)))

/-- The error for a local tag. -/
def localTagMessage : String := "untagged and internally tagged enums do not support enum input"

/-- Reads a scalar. -/
def readScalar (style : ScalarStyle) (tag : Option String) (s : String) (path : YamlPath) :
    Except YamlError Datum :=
  match atom? style tag s with
  | .error message => .error (.mismatch path message)
  | .ok .null => .ok .null
  | .ok (.boolean b) => .ok (.boolean b)
  | .ok (.integer i) =>
    match ofInteger? i with
    | some d => .ok d
    | none => .error (.mismatch path ("invalid type: " ++ describeInteger i ++ ", expected any value"))
  | .ok (.float f) => .ok (.number (.float f))
  | .ok (.text s) => .ok (.text s)

/-- Allows no local tag. -/
def checkTag (tag : Option String) (path : YamlPath) : Except YamlError Unit :=
  if (localTag? tag).isSome then .error (.mismatch path localTagMessage) else .ok ()

mutual

/-- Reads content of any shape; keys may be given twice. -/
def read (path : YamlPath) : Yaml → Except YamlError Datum
  | .nothing => .ok .null
  | .fault f => .error f.toError
  | .scalar style tag s => do
    checkTag tag path
    readScalar style tag s path
  | .sequence tag items => do
    checkTag tag path
    return .sequence (← readItems path 0 items)
  | .mapping tag entries => do
    checkTag tag path
    return .mapping (← readEntries path entries)

/-- Reads items, the first of which is number `i`. -/
def readItems (path : YamlPath) : Nat → List Yaml → Except YamlError (List Datum)
  | _, [] => .ok []
  | i, y :: ys => do
    let d ← read (path ++ [itemStep i]) y
    return d :: (← readItems path (i + 1) ys)

/-- Reads entries. -/
def readEntries (path : YamlPath) : List (Yaml × Yaml) → Except YamlError (List (Datum × Datum))
  | [] => .ok []
  | (k, v) :: es => do
    let key ← read path k
    let value ← read (path ++ [keyStep k]) v
    return (key, value) :: (← readEntries path es)

end

/-! ### Keys -/

/-- A number as it is written in YAML. -/
def numberText : JsonNumber → String
  | .float f =>
    if f.isNaN then ".nan"
    else if f.isInfinite then (if f.negative then "-.inf" else ".inf")
    else (JsonNumber.float f).render
  | n => n.render

/-- How messages call a key that is given twice. -/
def describeKey : Datum → String
  | .null => "with null key"
  | .boolean b => "with key \x60" ++ (if b then "true" else "false") ++ "\x60"
  | .number n => "with key " ++ numberText n
  | .text s => "with key " ++ quoted s
  | _ => "in YAML map"

mutual

/-- The first key in a datum that is given twice. -/
def repeatedKey? : Datum → Option Datum
  | .sequence items => repeatedInItems? items
  | .mapping entries => repeatedInEntries? [] entries
  | _ => none

@[inherit_doc repeatedKey?]
def repeatedInItems? : List Datum → Option Datum
  | [] => none
  | d :: ds =>
    match d.repeatedKey? with
    | some k => some k
    | none => repeatedInItems? ds

/-- The first key in entries that is given twice, where some are given already. -/
def repeatedInEntries? (given : List Datum) : List (Datum × Datum) → Option Datum
  | [] => none
  | (k, v) :: es =>
    match k.repeatedKey? with
    | some l => some l
    | none =>
      if given.any (·.equal k) then some k
      else
        match v.repeatedKey? with
        | some l => some l
        | none => repeatedInEntries? (k :: given) es

end

/-! ### JSON -/

/-- A number as JSON holds it: what is infinite or not a number becomes nothing. -/
def jsonNumber (n : JsonNumber) : Json :=
  match n with
  | .float f => if f.isFinite then .number n else .null
  | _ => .number n

/-- The text of a key. -/
def keyText? : Datum → Option String
  | .boolean b => some (if b then "true" else "false")
  | .number (.float f) => if f.isFinite then some (JsonNumber.float f).render else none
  | .number n => some n.render
  | .text s => some s
  | _ => none

mutual

/-- The JSON of a datum, if its keys are texts, numbers or truth values. -/
def toJson? : Datum → Option Json
  | .null => some .null
  | .boolean b => some (.boolean b)
  | .number n => some (jsonNumber n)
  | .text s => some (.text s)
  | .sequence items => (itemsToJson? items).map .array
  | .mapping entries => (entriesToJson? entries).map Json.ofMembers

/-- The JSON of the items of a list. -/
def itemsToJson? : List Datum → Option (List Json)
  | [] => some []
  | d :: ds => do return (← d.toJson?) :: (← itemsToJson? ds)

/-- The members for the entries of a mapping. -/
def entriesToJson? : List (Datum × Datum) → Option (List (String × Json))
  | [] => some []
  | (k, v) :: es => do return (← k.keyText?, ← v.toJson?) :: (← entriesToJson? es)

end

/-! ### Writing -/

/-- A finite number as a whole number and a power of ten. -/
def writeFloat (f : Binary64) : String :=
  let sign := if f.negative then "-" else ""
  if f.isNaN then ".nan"
  else if f.isInfinite then sign ++ ".inf"
  else if 0 ≤ f.power then sign ++ toString (f.significand * Nat.pow 2 f.power.toNat) ++ "e0"
  else
    let places := (-f.power).toNat
    sign ++ toString (f.significand * Nat.pow 5 places) ++ "e-" ++ toString places

/-- A number as it is written. -/
def writeNumber : JsonNumber → String
  | .whole n => toString n.toNat
  | .negative i => toString i.toInt
  | .float f => writeFloat f

/-- A plain scalar. -/
def plain (s : String) : Yaml := .scalar .plain none s

/-- A text as a scalar, quoted so that it denotes itself. -/
def quotedScalar (s : String) : Yaml := .scalar .quoted none s

mutual

/-- The content that denotes a datum. -/
def toYaml : Datum → Yaml
  | .null => plain "null"
  | .boolean b => plain (if b then "true" else "false")
  | .number n => plain (writeNumber n)
  | .text s => quotedScalar s
  | .sequence items => .sequence none (itemsToYaml items)
  | .mapping entries => .mapping none (entriesToYaml entries)

/-- The content that denotes items. -/
def itemsToYaml : List Datum → List Yaml
  | [] => []
  | d :: ds => d.toYaml :: itemsToYaml ds

/-- The content that denotes entries. -/
def entriesToYaml : List (Datum × Datum) → List (Yaml × Yaml)
  | [] => []
  | (k, v) :: es => (k.toYaml, v.toYaml) :: entriesToYaml es

end

end Datum

end Vigil
