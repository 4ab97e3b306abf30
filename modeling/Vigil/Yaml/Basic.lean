import Vigil.Yaml.Node

/-! # YAML documents

The content of a document as a tree without references: each of them is replaced by what it refers to
(`expand`). Collections can be nested up to a limit, and references can be followed as often as the size of
the document allows. Where a limit is reached, the tree has a `fault`. -/

namespace Vigil

open Vigil.Yaml

/-- The limit that is reached at a place of a document. -/
inductive YamlFault
  | tooDeep
  | tooManyReferences
deriving DecidableEq

/-- The content of a document, or of a part of it. -/
inductive Yaml
  | nothing
  | scalar (style : ScalarStyle) (tag : Option String) (text : String)
  | sequence (tag : Option String) (items : List Yaml)
  | mapping (tag : Option String) (entries : List (Yaml × Yaml))
  | fault (f : YamlFault)
deriving Inhabited

namespace Yaml

/-- The tag of some content. -/
def contentTag? : Yaml → Option String
  | .scalar _ tag _ => tag
  | .sequence tag _ => tag
  | .mapping tag _ => tag
  | _ => none

/-! ### References -/

mutual

/-- The number of signs that a node begins and ends with, those inside it included. -/
def Node.size : Node → Nat
  | .scalar _ _ _ => 1
  | .sequence _ items => 2 + Node.sizeOfItems items
  | .mapping _ entries => 2 + Node.sizeOfEntries entries
  | .anchored _ n => n.size
  | .reference _ => 1

@[inherit_doc Node.size]
def Node.sizeOfItems : List Node → Nat
  | [] => 0
  | n :: ns => n.size + Node.sizeOfItems ns

@[inherit_doc Node.size]
def Node.sizeOfEntries : List (Node × Node) → Nat
  | [] => 0
  | (k, v) :: es => k.size + v.size + Node.sizeOfEntries es

end

mutual

/-- The last node that bears the anchor with a number. -/
def Node.find? (number : Nat) : Node → Option Node
  | .scalar _ _ _ => none
  | .sequence _ items => Node.findInItems? number items
  | .mapping _ entries => Node.findInEntries? number entries
  | .anchored m n =>
    match n.find? number with
    | some found => some found
    | none => if m = number then some n else none
  | .reference _ => none

@[inherit_doc Node.find?]
def Node.findInItems? (number : Nat) : List Node → Option Node
  | [] => none
  | n :: ns =>
    match Node.findInItems? number ns with
    | some found => some found
    | none => n.find? number

@[inherit_doc Node.find?]
def Node.findInEntries? (number : Nat) : List (Node × Node) → Option Node
  | [] => none
  | (k, v) :: es =>
    match Node.findInEntries? number es with
    | some found => some found
    | none =>
      match v.find? number with
      | some found => some found
      | none => k.find? number

end

/-- The number of collections that can be open. -/
def depthLimit : Nat := 128

/-- The number of references that can be followed, for every sign of the document. -/
def referencesPerSign : Nat := 100

/-- The node itself, or the one below `root` that it refers to, without its anchor. -/
def Node.resolveIn (root : Node) : Node → Node
  | .reference number =>
    match Node.find? number root with
    | some found => found
    | none => .empty
  | .anchored _ n => n
  | n => n

/-- Whether a node is a reference. -/
def Node.isReference : Node → Bool
  | .reference _ => true
  | _ => false

/-- Goes over nodes with a count of the references that have been followed. -/
def expandAll (f : Nat → Node → Yaml × Nat) : Nat → List Node → List Yaml × Nat
  | followed, [] => ([], followed)
  | followed, n :: ns =>
    let (y, followed) := f followed n
    let (ys, followed) := expandAll f followed ns
    (y :: ys, followed)

/-- Goes over entries, keys before values, with a count of the references that have been followed. -/
def expandEntries (f : Nat → Node → Yaml × Nat) :
    Nat → List (Node × Node) → List (Yaml × Yaml) × Nat
  | followed, [] => ([], followed)
  | followed, (k, v) :: es =>
    let (key, followed) := f followed k
    let (value, followed) := f followed v
    let (entries, followed) := expandEntries f followed es
    ((key, value) :: entries, followed)

/-- Replaces references, of which some have been followed already; `depth` more collections can be
opened. -/
def expand (root : Node) (limit : Nat) : Nat → Nat → Node → Yaml × Nat
  | depth, followed, n =>
    let followed := if n.isReference then followed + 1 else followed
    if n.isReference && limit < followed then (.fault .tooManyReferences, followed)
    else
      match Node.resolveIn root n with
      | .scalar style tag text => (.scalar style tag text, followed)
      | .sequence tag items =>
        match depth with
        | 0 => (.fault .tooDeep, followed)
        | depth + 1 =>
          let (ys, followed) := expandAll (expand root limit depth) followed items
          (.sequence tag ys, followed)
      | .mapping tag entries =>
        match depth with
        | 0 => (.fault .tooDeep, followed)
        | depth + 1 =>
          let (es, followed) := expandEntries (expand root limit depth) followed entries
          (.mapping tag es, followed)
      | _ => (.nothing, followed)

/-- A tree without references. -/
def ofNode (n : Node) : Yaml := (expand n (referencesPerSign * n.size) depthLimit 0 n).1

/-- The content of a text that holds one document, or none. -/
def document? (text : List Char) : Option Yaml :=
  (Node.document? (tokens text)).map fun n => (n.map ofNode).getD .nothing

end Yaml

end Vigil
