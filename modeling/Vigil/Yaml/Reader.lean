import Vigil.Yaml.Atom
import Vigil.Yaml.Basic

/-! # Reading YAML by its shape

A reader takes the content at a path of a document for something: a text, a truth value, a list, or a mapping
with given fields. An error names the path, unless it concerns the whole document. Every scalar counts as a
text, as it is written; no content at all, and an empty plain scalar, count as an empty list or mapping. -/

namespace Vigil

open Vigil.Yaml Vigil.Text

/-- Where something stands in a document: names of fields and places in lists, from the outside. -/
abbrev YamlPath := List String

/-- Why a text is not the YAML that is asked for. -/
inductive YamlError
  | malformed
  | mismatch (path : YamlPath) (message : String)
deriving DecidableEq

/-- The message of an error, behind its path; a malformed text has none. -/
def YamlError.message : YamlError → String
  | .malformed => ""
  | .mismatch [] message => message
  | .mismatch path message => ".".intercalate path ++ ": " ++ message

/-- The error that a fault amounts to. -/
def YamlFault.toError : YamlFault → YamlError
  | .tooDeep => .mismatch [] "recursion limit exceeded"
  | .tooManyReferences => .mismatch [] "repetition limit exceeded"

namespace Yaml

/-- A reader of the content at a path. -/
abbrev Reader (α : Type) := YamlPath → Yaml → Except YamlError α

/-! ### Paths and errors -/

/-- The step to an item of a list. -/
def itemStep (i : Nat) : String := "\\[" ++ toString i ++ "\\]"

/-- The step to the value of a key. -/
def keyStep : Yaml → String
  | .scalar _ _ s => s
  | _ => "?"

/-- The error for content that is not what is expected. -/
def mismatch (expected : String) (path : YamlPath) (y : Yaml) : YamlError :=
  let invalid (kind : String) : YamlError :=
    .mismatch path ("invalid type: " ++ kind ++ ", expected " ++ expected)
  match y with
  | .nothing => .mismatch path "EOF while parsing a value"
  | .scalar style tag s =>
    match atom? style tag s with
    | .ok a => invalid a.describe
    | .error message => .mismatch path message
  | .sequence _ _ => invalid "sequence"
  | .mapping _ _ => invalid "map"
  | .fault f => f.toError

/-- The error for a field that is not there. -/
def missingField (name : String) (path : YamlPath) : YamlError :=
  .mismatch path ("missing field \x60" ++ name ++ "\x60")

/-- The error for a field that is given twice. -/
def duplicateField (name : String) (path : YamlPath) : YamlError :=
  .mismatch path ("duplicate field \x60" ++ name ++ "\x60")

/-! ### Scalars -/

/-- Reads a text. -/
def readText : Reader String
  | _, .scalar _ _ s => .ok s
  | path, y => .error (mismatch "a string" path y)

/-- Reads a truth value. -/
def readBoolean : Reader Bool := fun path y =>
  let found := match y with
    | .scalar .plain _ s => boolean? s
    | .scalar .literal (some tag) s => if tag == booleanTag then boolean? s else none
    | _ => none
  match found with
  | some b => .ok b
  | none => .error (mismatch "a boolean" path y)

/-- Reads something that may be missing, as a plain word for nothing says. -/
def readOption {α : Type} (read : Reader α) : Reader (Option α)
  | _, .nothing => .ok none
  | path, .scalar .plain (some tag) s =>
    if tag != nullTag then (read path (.scalar .plain (some tag) s)).map some
    else if isNull s then .ok none
    else .error (.mismatch path.dropLast
      ("invalid value: string " ++ quoted s ++ ", expected null"))
  | path, .scalar .plain none s =>
    if s.isEmpty || isNull s then .ok none else (read path (.scalar .plain none s)).map some
  | path, y => (read path y).map some

/-! ### Collections -/

/-- The items of a sequence. -/
def items? (expected : String) : Reader (List Yaml)
  | _, .nothing => .ok []
  | _, .sequence _ ys => .ok ys
  | _, .scalar .plain _ "" => .ok []
  | path, y => .error (mismatch expected path y)

/-- The entries of a mapping. -/
def entries? (expected : String) : Reader (List (Yaml × Yaml))
  | _, .nothing => .ok []
  | _, .mapping _ es => .ok es
  | _, .scalar .plain _ "" => .ok []
  | path, y => .error (mismatch expected path y)

/-- Reads items, the first of which is number `i`. -/
def readItemsFrom {α : Type} (read : Reader α) (path : YamlPath) :
    Nat → List Yaml → Except YamlError (List α)
  | _, [] => .ok []
  | i, y :: ys => do
    let a ← read (path ++ [itemStep i]) y
    return a :: (← readItemsFrom read path (i + 1) ys)

/-- Reads a list. -/
def readList {α : Type} (read : Reader α) : Reader (List α) := fun path y => do
  readItemsFrom read path 0 (← items? "a sequence" path y)

/-- Reads a mapping from texts, keeping the order of its entries. -/
def readEntries {α : Type} (read : Reader α) : Reader (List (String × α)) := fun path y => do
  (← entries? "a mapping" path y).mapM fun (k, v) => do
    let name ← readText path k
    return (name, ← read (path ++ [name]) v)

/-! ### Fields -/

/-- Reads the name of a field. -/
def readFieldName : Reader String
  | _, .scalar _ _ s => .ok s
  | path, y => .error (mismatch "field identifier" path y)

/-- Reads entries in order. `set` reads the value of a known field, each of which may be given once; `other`
reads other entries. Also gives the fields that have been read, the last first. -/
def readFieldsFrom {σ : Type} (known : List String) (set : String → σ → Reader σ)
    (other : String → σ → Reader σ) (path : YamlPath) :
    List String → σ → List (Yaml × Yaml) → Except YamlError (σ × List String)
  | given, a, [] => .ok (a, given)
  | given, a, (k, v) :: es => do
    let name ← readFieldName path k
    if !known.contains name then
      let a ← other name a (path ++ [name]) v
      readFieldsFrom known set other path given a es
    else if given.contains name then .error (duplicateField name path)
    else
      let a ← set name a (path ++ [name]) v
      readFieldsFrom known set other path (name :: given) a es

/-- Reads a record that messages call `expected`. Of its fields, the required ones have to be there. -/
def readRecord {σ : Type} (expected : String) (known required : List String)
    (set : String → σ → Reader σ) (other : String → σ → Reader σ) (start : σ) : Reader σ :=
  fun path y => do
    let (a, given) ← readFieldsFrom known set other path [] start (← entries? expected path y)
    match required.find? fun name => !given.contains name with
    | some name => .error (missingField name path)
    | none => return a

/-- Leaves a record as it is, whatever the value of a field. -/
def ignoreField {σ : Type} (_name : String) (a : σ) : Reader σ := fun _ _ => .ok a

/-! ### Documents -/

/-- Reads a text that holds one document. -/
def readDocument {α : Type} (read : Reader α) (text : String) : Except YamlError α :=
  match document? text.toList with
  | some y => read [] y
  | none => .error .malformed

end Yaml

end Vigil
