import Vigil.Yaml.Tag

/-! # Reading tokens of YAML

Tokens are numbered in their order. Whether a scalar or a bracket begins a key is known only when a colon
follows it on the same line: until then it is remembered as a `PossibleKey`, one at most for every open
bracket and one outside of all. When the colon comes, the token `key` is set before it, and the beginning of
a mapping before that if it is the first of its indentation. A key that is `required` stands where nothing
but a key can stand.

A text that goes wrong has the tokens before the place where it does, except for those that could still have
become keys. -/

namespace Vigil.Yaml

/-- A token that may begin a key: its number, and where it stands. -/
structure PossibleKey where
  required : Bool
  number : Nat
  index : Nat
  line : Nat
  column : Nat

/-- The number of characters after which nothing can be a key any more. -/
def keyLimit : Nat := 1024

/-- Whether a key is no longer possible at a place. -/
def PossibleKey.expired (k : PossibleKey) (p : Cursor) : Bool :=
  k.line < p.line || k.index + keyLimit < p.index

/-- What has been read. The tokens are kept with the last first; `indent` and `outerIndents` are the
columns of the open blocks, `possibleKey` and `outerKeys` belong to the open brackets. -/
structure LexerState where
  place : Cursor
  indent : Int := -1
  outerIndents : List Int := []
  possibleKey : Option PossibleKey := none
  outerKeys : List (Option PossibleKey) := []
  keyAllowed : Bool := true
  tokens : List Token := []
  count : Nat := 0

namespace LexerState

/-- Whether a bracket is open. -/
def inFlow (s : LexerState) : Bool := !s.outerKeys.isEmpty

/-- Adds a token. -/
def emit (s : LexerState) (t : Token) : LexerState :=
  { s with tokens := t :: s.tokens, count := s.count + 1 }

/-- Adds a token as number `n`. -/
def emitAt (s : LexerState) (n : Nat) (t : Token) : LexerState :=
  { s with tokens := s.tokens.insertIdx (s.count - n) t, count := s.count + 1 }

/-- Moves over `n` characters of the line. -/
def skip (s : LexerState) (n : Nat) : LexerState := { s with place := s.place.drop n }

/-- Goes on behind a token that has been read. -/
def continueWith (s : LexerState) (read : Option (Token × Cursor)) : Option LexerState :=
  read.map fun (t, p) => { s.emit t with place := p }

/-! ### Possible keys -/

/-- The number of tokens that are settled: no token can be set before them any more. -/
def settled (s : LexerState) : Nat :=
  (s.possibleKey :: s.outerKeys).foldl (fun n key =>
    match key with
    | some k => min n k.number
    | none => n) s.count

/-- Forgets the keys that are no longer possible, unless one of them is required. -/
def expire? (s : LexerState) : Option LexerState :=
  let isExpired (key : Option PossibleKey) : Bool := key.any fun k => k.expired s.place
  let keys := s.possibleKey :: s.outerKeys
  if keys.any fun key => isExpired key && key.any (·.required) then none
  else
    let keep (key : Option PossibleKey) : Option PossibleKey := if isExpired key then none else key
    some { s with possibleKey := keep s.possibleKey, outerKeys := s.outerKeys.map keep }

/-- Forgets the innermost possible key, unless it is required. -/
def forgetKey? (s : LexerState) : Option LexerState :=
  if s.possibleKey.any (·.required) then none else some { s with possibleKey := none }

/-- Remembers that the next token may begin a key, where one is allowed. -/
def rememberKey? (s : LexerState) : Option LexerState :=
  if s.keyAllowed then do
    let s ← s.forgetKey?
    let p := s.place
    let required := !s.inFlow && s.indent == (p.column : Int)
    some { s with possibleKey := some ⟨required, s.count, p.index, p.line, p.column⟩ }
  else some s

/-! ### Blocks -/

/-- Ends `n` blocks at most that are indented more than a column. -/
def closeFrom (column : Int) : Nat → LexerState → LexerState
  | 0, s => s
  | n + 1, s =>
    match s.outerIndents with
    | [] => s
    | outer :: others =>
      if column < s.indent then
        closeFrom column n { s.emit .blockEnd with indent := outer, outerIndents := others }
      else s

/-- Ends the blocks that are indented more than a column, outside brackets. -/
def close (column : Int) (s : LexerState) : LexerState :=
  if s.inFlow then s else closeFrom column s.outerIndents.length s

/-- Begins a block as token number `n` if a column is indented more than the open blocks, outside
brackets. -/
def openBlock (column n : Nat) (t : Token) (s : LexerState) : LexerState :=
  if !s.inFlow && s.indent < (column : Int) then
    { s.emitAt n t with indent := column, outerIndents := s.indent :: s.outerIndents }
  else s

/-- Begins a block at the place, where that is allowed. -/
def openBlockHere? (t : Token) (s : LexerState) : Option LexerState :=
  if s.inFlow then some s
  else if s.keyAllowed then some (s.openBlock s.place.column s.count t)
  else none

/-! ### Tokens -/

/-- Goes to the next token, over blanks, comments and line breaks. A tab counts as a blank only where no
key is allowed. -/
def goToToken : Nat → LexerState → LexerState
  | 0, s => s
  | fuel + 1, s =>
    let p := s.place.dropWhile fun c => c == ' ' || (c == '\t' && (s.inFlow || !s.keyAllowed))
    let p := if p.startsWith '#' then p.dropWhile fun c => !isBreak c else p
    if p.atBreak then
      goToToken fuel { s with place := p.nextLine, keyAllowed := s.keyAllowed || !s.inFlow }
    else { s with place := p }

/-- Ends all blocks before something that stands outside of them. -/
def leaveBlocks? (s : LexerState) : Option LexerState :=
  (forgetKey? (s.close (-1))).map fun s => { s with keyAllowed := false }

/-- Reads the end of the text. -/
def readEnd? (s : LexerState) : Option LexerState := do
  let s ← s.leaveBlocks?
  let p := s.place
  some { s.emit .textEnd with place := if p.column = 0 then p else ⟨[], p.index, p.line + 1, 0⟩ }

/-- Reads a directive. -/
def readDirective? (s : LexerState) : Option LexerState := do
  let s ← s.leaveBlocks?
  s.continueWith (directive? s.place)

/-- Reads a mark between documents. -/
def readMark? (t : Token) (s : LexerState) : Option LexerState := do
  let s ← s.leaveBlocks?
  some ((s.emit t).skip 3)

/-- Reads an opening bracket. -/
def readOpening? (t : Token) (s : LexerState) : Option LexerState := do
  let s ← s.rememberKey?
  some { (s.emit t).skip 1 with
    possibleKey := none, outerKeys := s.possibleKey :: s.outerKeys, keyAllowed := true }

/-- Reads a closing bracket. -/
def readClosing? (t : Token) (s : LexerState) : Option LexerState := do
  let s ← s.forgetKey?
  let s := { (s.emit t).skip 1 with keyAllowed := false }
  match s.outerKeys with
  | [] => some s
  | key :: others => some { s with possibleKey := key, outerKeys := others }

/-- Reads a comma. -/
def readComma? (s : LexerState) : Option LexerState := do
  let s ← s.forgetKey?
  some { (s.emit .comma).skip 1 with keyAllowed := true }

/-- Reads the sign of an item. -/
def readItem? (s : LexerState) : Option LexerState := do
  let s ← s.openBlockHere? .blockSequence
  let s ← s.forgetKey?
  some { (s.emit .item).skip 1 with keyAllowed := true }

/-- Reads the sign of a key. -/
def readKey? (s : LexerState) : Option LexerState := do
  let s ← s.openBlockHere? .blockMapping
  let s ← s.forgetKey?
  some { (s.emit .key).skip 1 with keyAllowed := !s.inFlow }

/-- Reads the sign of a value: what could be its key is one. -/
def readValue? (s : LexerState) : Option LexerState :=
  match s.possibleKey with
  | some k =>
    let s := (s.emitAt k.number .key).openBlock k.column k.number .blockMapping
    some { (s.emit .value).skip 1 with possibleKey := none, keyAllowed := false }
  | none => do
    let s ← s.openBlockHere? .blockMapping
    some { (s.emit .value).skip 1 with keyAllowed := !s.inFlow }

/-- Reads the name of an anchor, or of a reference to one. -/
def readName? (t : String → Token) (s : LexerState) : Option LexerState := do
  let s ← s.rememberKey?
  let s := { s with keyAllowed := false }
  s.continueWith ((anchorName? (s.place.drop 1)).map fun (name, p) => (t name, p))

/-- Reads a tag. -/
def readTag? (s : LexerState) : Option LexerState := do
  let s ← s.rememberKey?
  { s with keyAllowed := false }.continueWith (tag? s.inFlow s.place)

/-- Reads a block scalar. -/
def readBlock? (style : ScalarStyle) (s : LexerState) : Option LexerState := do
  let s ← s.forgetKey?
  let (text, p) ← block? style s.indent (s.place.drop 1)
  some { s.emit (.scalar style (String.ofList text)) with place := p, keyAllowed := true }

/-- Reads a quoted scalar. -/
def readQuoted? (quote : Char) (s : LexerState) : Option LexerState := do
  let s ← s.rememberKey?
  let (text, p) ← quoted? quote s.place
  some { s.emit (.scalar .quoted (String.ofList text)) with place := p, keyAllowed := false }

/-- Reads a plain scalar. A key is allowed behind it on a new line. -/
def readPlain? (s : LexerState) : Option LexerState := do
  let s ← s.rememberKey?
  let ((text, p), broken) ← plain? s.inFlow (s.indent + 1) s.place
  some { s.emit (.scalar .plain (String.ofList text)) with place := p, keyAllowed := broken }

/-- Characters that begin no plain scalar. -/
def indicators : List Char := "-?:,[]\x7b\x7d#&*!|>'\"%@\x60".toList

/-- Reads the next token, at its first character `c`. -/
def readToken? (c : Char) (s : LexerState) : Option LexerState :=
  let p := s.place
  let gapAfter := endsWord (p.rest.drop 1)
  if p.column == 0 && c == '%' then s.readDirective?
  else if p.atMark '-' then s.readMark? .documentStart
  else if p.atMark '.' then s.readMark? .documentEnd
  else if c == '[' then s.readOpening? .flowSequence
  else if c == '\x7b' then s.readOpening? .flowMapping
  else if c == ']' then s.readClosing? .flowSequenceEnd
  else if c == '\x7d' then s.readClosing? .flowMappingEnd
  else if c == ',' then s.readComma?
  else if c == '-' && gapAfter then s.readItem?
  else if c == '?' && (s.inFlow || gapAfter) then s.readKey?
  else if c == ':' && (s.inFlow || gapAfter) then s.readValue?
  else if c == '*' then s.readName? .reference
  else if c == '&' then s.readName? .anchor
  else if c == '!' then s.readTag?
  else if c == '|' && !s.inFlow then s.readBlock? .literal
  else if c == '>' && !s.inFlow then s.readBlock? .folded
  else if c == '\'' || c == '"' then s.readQuoted? c
  else if (!isGap c && !indicators.contains c) || c == '-' || (!s.inFlow && (c == '?' || c == ':')) then
    s.readPlain?
  else none

/-- Reads what comes next. -/
def next? (s : LexerState) : Option LexerState := do
  let s ← (goToToken s.place.fuel s).expire?
  let s := s.close s.place.column
  match s.place.next? with
  | none => s.readEnd?
  | some c => s.readToken? c

/-- Reads tokens up to the end of the text, or up to the place where it goes wrong: then the first
`settled` tokens count. -/
def readFrom : Nat → Nat → LexerState → List Token
  | 0, settled, s => s.tokens.reverse.take settled
  | fuel + 1, settled, s =>
    match s.expire? with
    | none => s.tokens.reverse.take settled
    | some s =>
      if s.tokens.head? == some .textEnd then s.tokens.reverse
      else
        match s.next? with
        | none => s.tokens.reverse.take s.settled
        | some t => readFrom fuel s.settled t

end LexerState

/-- The tokens of a text, the last of which is its end unless it goes wrong. -/
def tokens (text : List Char) : List Token :=
  let text := if text.head? == some byteOrderMark then text.drop 1 else text
  if text.all isAllowed then
    let p : Cursor := ⟨text, 0, 0, 0⟩
    LexerState.readFrom (p.fuel + 1) 0 { place := p }
  else []

end Vigil.Yaml
