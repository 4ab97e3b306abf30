import Vigil.Yaml.Lexer

/-! # Nodes

The tree that the tokens of a document form, with anchors and references to them. There is none where a token
is missing or out of place. An anchor is numbered by how many names of anchors are known when it comes, and a
reference leads to the last node with the number that its name has at that place. -/

namespace Vigil.Yaml

/-- A node. -/
inductive Node
  | scalar (style : ScalarStyle) (tag : Option String) (text : String)
  | sequence (tag : Option String) (items : List Node)
  | mapping (tag : Option String) (entries : List (Node × Node))
  | anchored (number : Nat) (node : Node)
  | reference (number : Nat)
deriving Inhabited

/-- What is left to read, the numbers of the anchors and the meanings of the handles of tags. -/
structure ParserState where
  tokens : List Token
  anchors : List (String × Nat) := []
  handles : List (String × String) := []

namespace Node

/-- The node of nothing. -/
def empty : Node := .scalar .plain none ""

/-- The next token. -/
def next? (s : ParserState) : Option Token := s.tokens.head?

/-- Goes over a token. -/
def skip (s : ParserState) : ParserState := { s with tokens := s.tokens.drop 1 }

/-! ### Properties -/

/-- The handles that every document knows. -/
def knownHandles : List (String × String) := [("!", "!"), ("!!", "tag:yaml.org,2002:")]

/-- The name that a handle and a suffix stand for. -/
def tagName? (s : ParserState) (handle suffix : String) : Option String :=
  if handle.isEmpty then some suffix
  else ((s.handles ++ knownHandles).lookup handle).map (· ++ suffix)

/-- Reads the anchor and the tag before a node, in either order. -/
def properties (s : ParserState) : Option String × Option (String × String) × ParserState :=
  match s.tokens with
  | .anchor name :: .tag handle suffix :: rest =>
    (some name, some (handle, suffix), { s with tokens := rest })
  | .tag handle suffix :: .anchor name :: rest =>
    (some name, some (handle, suffix), { s with tokens := rest })
  | .anchor name :: rest => (some name, none, { s with tokens := rest })
  | .tag handle suffix :: rest => (none, some (handle, suffix), { s with tokens := rest })
  | _ => (none, none, s)

/-- Numbers an anchor; also gives what is done with the node that bears it. -/
def number (anchor : Option String) (s : ParserState) : (Node → Node) × ParserState :=
  match anchor with
  | none => (id, s)
  | some name =>
    let n := s.anchors.length
    (.anchored n, { s with anchors := (name, n) :: s.anchors.filter fun (other, _) => other != name })

/-- The tag of a scalar that is there: a lone exclamation mark is none. -/
def scalarTag (tag : Option String) : Option String := tag.filter (· != "!")

/-! ### Collections -/

/-- Tokens that end an item of a block without indentation. -/
def endsEntry : Token → Bool
  | .key => true
  | .value => true
  | .blockEnd => true
  | _ => false

/-- Tokens that end an item of a sequence in brackets. -/
def endsFlowItem : Token → Bool
  | .comma => true
  | .flowSequenceEnd => true
  | _ => false

/-- Tokens that end an entry of a mapping in brackets. -/
def endsFlowEntry : Token → Bool
  | .comma => true
  | .flowMappingEnd => true
  | _ => false

/-- Whether the next token satisfies a condition. -/
def nextIs (f : Token → Bool) (s : ParserState) : Bool := (next? s).any f

/-- Moves to the next item in brackets, or to their end; there has to be a comma before it unless it is the
first. -/
def nextInFlow (closing : Token) (first : Bool) (s : ParserState) : Option (Bool × ParserState) :=
  match s.tokens with
  | [] => none
  | t :: rest =>
    if t == closing then some (false, { s with tokens := rest })
    else if first then some (true, s)
    else if t == .comma then
      match rest with
      | [] => none
      | u :: others =>
        if u == closing then some (false, { s with tokens := others })
        else some (true, { s with tokens := rest })
    else none

mutual

/-- Reads a node. Outside brackets it may be a block, and the value of a key may be a sequence that is not
indented. -/
def node (block unindented : Bool) : Nat → ParserState → Option (Node × ParserState)
  | 0, _ => none
  | fuel + 1, s =>
    match s.tokens with
    | .reference name :: _ => (s.anchors.lookup name).map fun n => (.reference n, skip s)
    | _ =>
      let (anchor, tag, s) := properties s
      let name? := tag.map fun (handle, suffix) => tagName? s handle suffix
      if name? == some none then none
      else
        let tag := name?.join
        let (mark, numbered) := number anchor s
        match s.tokens with
        | .scalar style text :: _ => some (mark (.scalar style (scalarTag tag) text), skip numbered)
        | .flowSequence :: _ =>
          (flowItems true fuel (skip numbered)).map fun (items, s) => (mark (.sequence tag items), s)
        | .flowMapping :: _ =>
          (flowEntries true fuel (skip numbered)).map fun (es, s) => (mark (.mapping tag es), s)
        | t :: _ =>
          if unindented && t == .item then
            (unindentedItems fuel numbered).map fun (items, s) => (mark (.sequence tag items), s)
          else if block && t == .blockSequence then
            (blockItems fuel (skip numbered)).map fun (items, s) => (mark (.sequence tag items), s)
          else if block && t == .blockMapping then
            (blockEntries fuel (skip numbered)).map fun (es, s) => (mark (.mapping tag es), s)
          else if anchor.isSome || tag.isSome then some (mark (.scalar .plain tag ""), numbered)
          else none
        | [] => none

/-- Reads a node that may be missing: then one of the given tokens comes next. -/
def nodeUnless (missing : Token → Bool) (block unindented : Bool) :
    Nat → ParserState → Option (Node × ParserState)
  | 0, _ => none
  | fuel + 1, s => if nextIs missing s then some (empty, s) else node block unindented fuel s

/-- Reads the items of an indented sequence up to its end. -/
def blockItems : Nat → ParserState → Option (List Node × ParserState)
  | 0, _ => none
  | fuel + 1, s =>
    match s.tokens with
    | .item :: _ => do
      let (item, s) ← nodeUnless (fun t => t == .item || t == .blockEnd) true false fuel (skip s)
      let (items, s) ← blockItems fuel s
      return (item :: items, s)
    | .blockEnd :: _ => some ([], skip s)
    | _ => none

/-- Reads the items of a sequence that is not indented. -/
def unindentedItems : Nat → ParserState → Option (List Node × ParserState)
  | 0, _ => none
  | fuel + 1, s =>
    match s.tokens with
    | .item :: _ => do
      let (item, s) ← nodeUnless (fun t => t == .item || endsEntry t) true false fuel (skip s)
      let (items, s) ← unindentedItems fuel s
      return (item :: items, s)
    | [] => none
    | _ => some ([], s)

/-- Reads the entries of an indented mapping up to its end. -/
def blockEntries : Nat → ParserState → Option (List (Node × Node) × ParserState)
  | 0, _ => none
  | fuel + 1, s =>
    match s.tokens with
    | .key :: _ => do
      let (key, s) ← nodeUnless endsEntry true true fuel (skip s)
      let (value, s) ← blockValue fuel s
      let (entries, s) ← blockEntries fuel s
      return ((key, value) :: entries, s)
    | .blockEnd :: _ => some ([], skip s)
    | _ => none

/-- Reads the value of an entry of an indented mapping. -/
def blockValue : Nat → ParserState → Option (Node × ParserState)
  | 0, _ => none
  | fuel + 1, s =>
    match s.tokens with
    | .value :: _ => nodeUnless endsEntry true true fuel (skip s)
    | [] => none
    | _ => some (empty, s)

/-- Reads the items of a sequence in brackets up to its end. -/
def flowItems (first : Bool) : Nat → ParserState → Option (List Node × ParserState)
  | 0, _ => none
  | fuel + 1, s => do
    let (more, s) ← nextInFlow .flowSequenceEnd first s
    if more then
      let (item, s) ←
        if nextIs (· == .key) s then flowPair fuel (skip s) else node false false fuel s
      let (items, s) ← flowItems false fuel s
      return (item :: items, s)
    else return ([], s)

/-- Reads a mapping of one entry that is an item of a sequence in brackets. -/
def flowPair : Nat → ParserState → Option (Node × ParserState)
  | 0, _ => none
  | fuel + 1, s => do
    let (key, s) ←
      if nextIs (fun t => t == .value || endsFlowItem t) s then some (empty, skip s)
      else node false false fuel s
    let (value, s) ← flowValue endsFlowItem fuel s
    return (.mapping none [(key, value)], s)

/-- Reads the entries of a mapping in brackets up to its end. -/
def flowEntries (first : Bool) : Nat → ParserState → Option (List (Node × Node) × ParserState)
  | 0, _ => none
  | fuel + 1, s => do
    let (more, s) ← nextInFlow .flowMappingEnd first s
    if more then
      let (entry, s) ← flowEntry fuel s
      let (entries, s) ← flowEntries false fuel s
      return (entry :: entries, s)
    else return ([], s)

/-- Reads an entry in brackets; without a mark before its key, it has no value. -/
def flowEntry : Nat → ParserState → Option ((Node × Node) × ParserState)
  | 0, _ => none
  | fuel + 1, s =>
    if nextIs (· == .key) s then do
      let (key, s) ← nodeUnless (fun t => t == .value || endsFlowEntry t) false false fuel (skip s)
      let (value, s) ← flowValue endsFlowEntry fuel s
      return ((key, value), s)
    else (node false false fuel s).map fun (key, s) => ((key, empty), s)

/-- Reads the value of an entry in brackets, which may be missing. -/
def flowValue (missing : Token → Bool) : Nat → ParserState → Option (Node × ParserState)
  | 0, _ => none
  | fuel + 1, s =>
    match s.tokens with
    | .value :: _ => nodeUnless missing false false fuel (skip s)
    | [] => none
    | _ => some (empty, s)

end

/-! ### Documents -/

/-- Reads the directives before a document. There may be one version, which has to be known, and one meaning
for a handle. -/
def directivesFrom (version : Bool) :
    List Token → List (String × String) → Option (List (String × String) × List Token)
  | .version major minor :: rest, handles =>
    if version || major != 1 || (minor != 1 && minor != 2) then none
    else directivesFrom true rest handles
  | .tagHandle handle target :: rest, handles =>
    if (handles.lookup handle).isSome then none
    else directivesFrom version rest ((handle, target) :: handles)
  | .documentStart :: rest, handles => some (handles, rest)
  | _, _ => none

/-- Whether a token ends a document that has no node. -/
def endsDocument : Token → Bool
  | .version _ _ => true
  | .tagHandle _ _ => true
  | .documentStart => true
  | .documentEnd => true
  | .textEnd => true
  | _ => false

/-- More than the number of steps that reading tokens takes. -/
def fuelOf (tokens : List Token) : Nat := 4 * tokens.length + 4

/-- Whether nothing but marks of ends follows a document. -/
def isLast (tokens : List Token) : Bool := tokens.dropWhile (· == .documentEnd) == [.textEnd]

/-- Reads the node of a document; after a mark of its beginning it may be missing. -/
def documentNode? (marked : Bool) (s : ParserState) : Option Node := do
  let (n, s) ← if marked && nextIs endsDocument s then some (empty, s)
    else node true false (fuelOf s.tokens) s
  if isLast s.tokens then return n else none

/-- Reads the tokens of a text that holds one document, or none. -/
def document? (tokens : List Token) : Option (Option Node) :=
  match tokens with
  | [] => none
  | [.textEnd] => some none
  | t :: _ =>
    if t == .documentStart || (endsDocument t && t != .documentEnd) then do
      let (handles, rest) ← directivesFrom false tokens []
      return some (← documentNode? true { tokens := rest, handles := handles })
    else do return some (← documentNode? false { tokens := tokens })

end Node

end Vigil.Yaml
