import Vigil.Pattern.Bracket
import Vigil.Pattern.Expr

/-! # Reading expressions

`read?` reads the text of a regular expression. A text is a choice between sequences of pieces, and a
piece is an atom with at most one quantifier. Flags set inside a capturing group stay in force after it,
while those of `(?flags:...)` end with it. A brace that does not begin a quantifier stands for itself, and
so does a closing bracket outside a class. The fuel of the readers is more than the number of steps a text
of its length can take. -/

namespace Vigil.Pattern

open Vigil.Text

/-- What letters after `(?` switch on and off. -/
structure Flags where
  fold : Bool
  multiline : Bool := false
  anyNewline : Bool
  swapGreed : Bool := false
  ignoreBlanks : Bool := false

/-- The rest of the text and what is known from the part already read: the flags in force, the number of
groups, those with names, and the groups referred to. -/
structure Cursor where
  rest : List Char
  flags : Flags
  groups : Nat := 0
  names : List (String × Nat) := []
  references : List Nat := []
  usesNumbers : Bool := false

/-- Reads from a cursor; an ill-formed text has no result. -/
abbrev Reader := StateT Cursor Option

namespace Reader

/-- Groups may be nested to one level less. -/
def depthLimit : Nat := 64

/-- The first number that does not fit a machine word. -/
def wordLimit : Nat := Nat.pow 2 64

/-! ### Blanks and comments -/

/-- The text after the bracket that ends a comment. -/
def skipComment : List Char → Option (List Char)
  | [] => none
  | ')' :: rest => some rest
  | '\\' :: _ :: rest => skipComment rest
  | _ :: rest => skipComment rest

/-- The text after blanks and comments; blanks and line comments count only if they are ignored. -/
def skipBlanksFrom (ignored : Bool) : Nat → List Char → Option (List Char)
  | 0, cs => some cs
  | fuel + 1, cs =>
    match cs with
    | '(' :: '?' :: '#' :: rest => (skipComment rest).bind (skipBlanksFrom ignored fuel)
    | '#' :: rest =>
      if ignored then skipBlanksFrom ignored fuel ((rest.dropWhile (· != '\n')).drop 1) else some cs
    | c :: rest =>
      if ignored && (c == ' ' || c == '\r' || c == '\n' || c == '\t') then
        skipBlanksFrom ignored fuel rest
      else some cs
    | [] => some []

/-- The text after blanks and comments under some flags. -/
def skipped (flags : Flags) (cs : List Char) : Option (List Char) :=
  skipBlanksFrom flags.ignoreBlanks (cs.length + 1) cs

/-- Skips blanks and comments. -/
def skipBlanks : Reader Unit := do
  let cursor ← get
  let rest ← skipped cursor.flags cursor.rest
  set { cursor with rest }

/-! ### Parts -/

/-- Takes the rest of the text. -/
def rest : Reader (List Char) := return (← get).rest

/-- Goes on at another place. -/
def goTo (rest : List Char) : Reader Unit := modify fun cursor => { cursor with rest }

/-- Takes the bracket that closes a group. -/
def closeGroup : Reader Unit := do
  skipBlanks
  match ← rest with
  | ')' :: after => goTo after
  | _ => failure

/-- Reads a number in decimal that fits a machine word. -/
def number? (cs : List Char) : Option (Nat × List Char) :=
  let digits := cs.takeWhile Char.isDigit
  let value := decimalValue digits
  if digits.isEmpty || wordLimit ≤ value then none else some (value, cs.dropWhile Char.isDigit)

/-- Characters of the names of groups. -/
def isNameCharacter (c : Char) : Bool := isAlphanumeric c || c == '_'

/-- Reads a name and the text that closes it. -/
def name? (close : Char) (cs : List Char) : Option (List Char × List Char) :=
  let name := cs.takeWhile isNameCharacter
  match name, cs.dropWhile isNameCharacter with
  | [], _ => none
  | _, c :: after => if c == close then some (name, after) else none
  | _, [] => none

/-- Notes a reference to a group. -/
def refer (group : Nat) : Reader Expr := do
  modify fun cursor => { cursor with references := group :: cursor.references }
  return .reference group

/-- Reads the number of a group, which has to be less than half the size of the text. -/
def numberedReference (size : Nat) : Reader Expr := do
  let (group, after) ← number? (← rest)
  if group < size / 2 then
    goTo after
    modify fun cursor => { cursor with usesNumbers := true }
    refer group
  else failure

/-- The group that `-n` or `+n` stands for, counted from the groups opened so far. -/
def relativeGroup? (groups : Nat) (cs : List Char) (close : Char) : Option (Nat × List Char) :=
  match cs with
  | sign :: digits =>
    match number? digits with
    | some (n, c :: after) =>
      if n == 0 || c != close then none
      else if sign == '+' then some (groups + n, after)
      else if sign == '-' && n ≤ groups + 1 then some (groups + 1 - n, after)
      else none
    | _ => none
  | [] => none

/-- Reads a reference by name, by number or, if allowed, by distance, and what closes it. -/
def namedReference (close : Char) (relative : Bool) : Reader Expr := do
  let cursor ← get
  match name? close cursor.rest with
  | some (name, after) =>
    goTo after
    match cursor.names.lookup (String.ofList name) with
    | some group => refer group
    | none =>
      match number? name with
      | some (group, []) => refer group
      | _ => failure
  | none =>
    if relative then
      let (group, after) ← relativeGroup? cursor.groups cursor.rest close
      goTo after
      refer group
    else failure

/-- Opens a group, named or not. -/
def openGroup (name : Option (List Char)) : Reader Unit :=
  modify fun cursor =>
    let groups := cursor.groups + 1
    { cursor with
      groups
      names := match name with
        | some n => (String.ofList n, groups) :: cursor.names
        | none => cursor.names }

/-! ### Escapes -/

/-- A character by itself, with or without regard to case. -/
def literal (c : Char) : Reader Expr := return .literal c (← get).flags.fold

/-- The character with a number in hexadecimal. -/
def ofHex? (digits : List Char) : Option Char :=
  let n := hexValue digits
  if h : n.isValidChar then some (Char.ofNatAux n h) else none

/-- Reads the number of a character: as many digits as given, or up to eight in braces. -/
def hexEscape (width : Nat) : Reader Expr := do
  let cs ← rest
  if (cs.take width).length == width && (cs.take width).all isHexDigit then
    goTo (cs.drop width)
    literal (← ofHex? (cs.take width))
  else
    match cs with
    | '\x7b' :: inner =>
      let digits := inner.takeWhile isHexDigit
      match inner.dropWhile isHexDigit with
      | '\x7d' :: after =>
        if digits.isEmpty || 8 < digits.length then failure
        else
          goTo after
          literal (← ofHex? digits)
      | _ => failure
    | _ => failure

/-- Reads the name of a property, a letter or a text in braces. -/
def propertyEscape (negated : Bool) : Reader Expr := do
  let (content, after) ← match ← rest with
    | '\x7b' :: inner =>
      match inner.dropWhile (· != '\x7d') with
      | _ :: after => pure (inner.takeWhile (· != '\x7d'), after)
      | [] => failure
    | c :: after => pure ([c], after)
    | [] => failure
  goTo after
  let (s, other) ← propertyClass? content
  return .set (.complementIf (negated != other) (.foldedIf (← get).flags.fold s))

/-- The digits of hexadecimal numbers. -/
def hexDigitClass : CharClass := Bracket.ofRanges [('0', '9'), ('A', 'F'), ('a', 'f')]

/-- The class that a letter stands for in any place. -/
def letterClass? : Char → Option CharClass
  | 'd' => some .decimalDigit
  | 'D' => some (.complement .decimalDigit)
  | 's' => some .blank
  | 'S' => some (.complement .blank)
  | 'w' => some .word
  | 'W' => some (.complement .word)
  | 'h' => some hexDigitClass
  | 'H' => some (.complement hexDigitClass)
  | _ => none

/-- The control character that a letter stands for. -/
def control? : Char → Option Char
  | 'a' => some '\x07'
  | 'b' => some '\x08'
  | 'f' => some '\x0C'
  | 'n' => some '\n'
  | 'r' => some '\r'
  | 't' => some '\t'
  | 'v' => some '\x0B'
  | 'e' => some '\x1B'
  | _ => none

/-- What a letter or sign stands for outside classes only. -/
def outsideEscape? : Char → Option Expr
  | 'A' => some (.assertion .textStart)
  | 'z' => some (.assertion .textEnd)
  | 'b' => some (.assertion .wordBoundary)
  | 'B' => some (.assertion .noWordBoundary)
  | '<' => some (.assertion .wordStart)
  | '>' => some (.assertion .wordEnd)
  | 'K' => some .resetStart
  | 'G' => some .searchStart
  | _ => none

/-- Letters that mean something outside classes and stand for themselves inside. -/
def lettersOfClass : List Char := ['k', 'A', 'z', 'b', 'B', 'K', 'G']

/-- Reads what follows a backslash. -/
def escape (size : Nat) (inClass : Bool) : Reader Expr := do
  match ← rest with
  | [] => failure
  | c :: after =>
    if c.isDigit then numberedReference size
    else if c == 'k' && !inClass then
      match after with
      | '\'' :: name => goTo name; namedReference '\'' true
      | '<' :: name => goTo name; namedReference '>' true
      | _ => failure
    else
      goTo after
      match (if inClass then none else outsideEscape? c), letterClass? c, control? c with
      | some e, _, _ =>
        if (c == 'b' || c == 'B') && after.head? == some '\x7b' then failure else return e
      | none, some s, _ => return .set s
      | none, none, some control => return .literal control false
      | none, none, none =>
        if c == 'x' then hexEscape 2
        else if c == 'u' then hexEscape 4
        else if c == 'U' then hexEscape 8
        else if (c == 'p' || c == 'P') && !after.isEmpty then propertyEscape (c == 'P')
        else if c.isAlpha && !lettersOfClass.contains c then failure
        else return .literal c false

/-! ### Classes -/

/-- Characters that an escape keeps from delimiting inside a class. -/
def isSpecial (c : Char) : Bool := "\\.+*?()|[]\x7b\x7d^$#".toList.contains c

/-- Reads the signs of a class up to the bracket that closes it; `nesting` brackets are open. -/
def signs (size : Nat) : Nat → Nat → Reader (List Sign)
  | 0, _ => failure
  | fuel + 1, nesting => do
    match ← rest with
    | [] => failure
    | '\\' :: after =>
      goTo after
      let sign ← match ← escape size true with
        | .literal c _ => pure (if isSpecial c then Sign.escaped c else Sign.plain c)
        | .set s => pure (Sign.class s)
        | _ => failure
      return sign :: (← signs size fuel nesting)
    | '[' :: after =>
      goTo after
      return .plain '[' :: (← signs size fuel (nesting + 1))
    | ']' :: after =>
      goTo after
      if nesting ≤ 1 then return [.plain ']']
      else return .plain ']' :: (← signs size fuel (nesting - 1))
    | c :: after =>
      goTo after
      return .plain c :: (← signs size fuel nesting)

/-- Takes a character if it comes next, as a sign. -/
def takeSign (c : Char) : Reader (List Sign) := do
  match ← rest with
  | d :: after => if d == c then goTo after; return [.plain c] else return []
  | [] => return []

/-- Reads a class after its opening bracket. -/
def bracket (size : Nat) : Reader Expr := do
  let caret ← takeSign '^'
  let closing ← takeSign ']'
  let others ← signs size ((← rest).length + 1) 1
  return .set (← Bracket.read? (← get).flags.fold (caret ++ closing ++ others))

/-! ### Quantifiers -/

/-- Reads what a brace quantifier says after its brace. -/
def braces? (skip : List Char → Option (List Char)) (cs : List Char) :
    Option ((Nat × Option Nat) × List Char) := do
  let cs ← skip cs
  let (least, cs) ← match cs with
    | ',' :: _ => some (0, cs)
    | _ => number? cs
  let cs ← skip cs
  match cs with
  | '\x7d' :: after => some ((least, some least), after)
  | ',' :: after =>
    let cs ← skip after
    let (most, cs) := match number? cs with
      | some (n, after) => (if n + 1 == wordLimit then none else some n, after)
      | none => (none, cs)
    match ← skip cs with
    | '\x7d' :: after => some ((least, most), after)
    | _ => none
  | _ => none

/-- The bounds that a quantifier sets, with the text after it. -/
def quantifier? (flags : Flags) : List Char → Option ((Nat × Option Nat) × List Char)
  | '?' :: after => some ((0, some 1), after)
  | '*' :: after => some ((0, none), after)
  | '+' :: after => some ((1, none), after)
  | '\x7b' :: after => braces? (skipped flags) after
  | _ => none

/-- Conditions on a place and nothing at all cannot be repeated. -/
def isRepeatable : Expr → Bool
  | .look _ _ _ | .empty | .assertion _ => false
  | _ => true

/-- Reads the quantifier of an atom, if it has one. -/
def quantified (e : Expr) : Reader Expr := do
  skipBlanks
  let cursor ← get
  match quantifier? cursor.flags cursor.rest with
  | none => return e
  | some ((least, most), after) =>
    if !isRepeatable e then failure
    goTo after
    skipBlanks
    let (lazy, after) := match ← rest with
      | '?' :: after => (true, after)
      | after => (false, after)
    let e := Expr.repetition e least most (lazy == cursor.flags.swapGreed)
    match after with
    | '+' :: after => goTo after; return .atomic e
    | _ => goTo after; return e

/-! ### Expressions -/

/-- Several pieces in a row, those that match nothing left out. -/
def joined : List Expr → Expr
  | [] => .empty
  | [e] => e
  | es => .sequence es

/-- Whether an expression matches nothing but the empty text by its form. -/
def isEmpty : Expr → Bool
  | .empty => true
  | _ => false

/-- Switches a flag; letters without meaning have no result. -/
def switched (flags : Flags) (on : Bool) : Char → Option Flags
  | 'i' => some { flags with fold := on }
  | 'm' => some { flags with multiline := on }
  | 's' => some { flags with anyNewline := on }
  | 'U' => some { flags with swapGreed := on }
  | 'x' => some { flags with ignoreBlanks := on }
  | 'u' => if on then some flags else none
  | _ => none

/-- Reads the letters after `(?`; the result tells whether a colon ended them. `last` is the character
before. -/
def flagLetters : Nat → Bool → Char → Reader Bool
  | 0, _, _ => failure
  | fuel + 1, off, last => do
    let before ← rest
    skipBlanks
    let after ← rest
    let last := if after.length == before.length then last else ' '
    match after with
    | [] => failure
    | c :: after =>
      goTo after
      if c == ')' then
        if last == '?' || (off && last == '-') then failure else return false
      else if c == ':' then
        if off && last == '-' then failure else return true
      else if c == '-' then
        if off then failure else flagLetters fuel true c
      else
        let cursor ← get
        set { cursor with flags := ← switched cursor.flags (!off) c }
        flagLetters fuel off c

/-- The parts of a conditional. -/
def conditional (condition : Expr) (branches : Expr) : Expr :=
  let condition := match condition with
    | .reference group => .groupMatched group
    | e => e
  let (yes, no) := match branches with
    | .choice (yes :: [no]) => (yes, no)
    | .choice (yes :: others) => (yes, .choice others)
    | e => (e, .empty)
  if isEmpty yes && isEmpty no then condition else .conditional condition yes no

mutual

/-- Reads a choice. -/
def choice (size : Nat) : Nat → Nat → Reader Expr
  | 0, _ => failure
  | fuel + 1, depth => do
    let e ← sequence size fuel depth []
    skipBlanks
    match ← rest with
    | '|' :: _ => return .choice (e :: (← alternatives size fuel depth))
    | _ =>
      let cursor ← get
      if cursor.usesNumbers && !cursor.names.isEmpty then failure else return e

/-- Reads the further alternatives of a choice. -/
def alternatives (size : Nat) : Nat → Nat → Reader (List Expr)
  | 0, _ => failure
  | fuel + 1, depth => do
    match ← rest with
    | '|' :: after =>
      goTo after
      let e ← sequence size fuel depth []
      skipBlanks
      return e :: (← alternatives size fuel depth)
    | _ => return []

/-- Reads pieces up to a place where none begins; `before` holds those read, the last first. -/
def sequence (size : Nat) : Nat → Nat → List Expr → Reader Expr
  | 0, _, _ => failure
  | fuel + 1, depth, before => do
    let start ← rest
    if start.isEmpty then return joined before.reverse
    else
      let e ← atom size fuel depth
      let e ← quantified e
      if (← rest).length == start.length then return joined before.reverse
      else sequence size fuel depth (if isEmpty e then before else e :: before)

/-- Reads an atom. -/
def atom (size : Nat) : Nat → Nat → Reader Expr
  | 0, _ => failure
  | fuel + 1, depth => do
    skipBlanks
    let flags := (← get).flags
    match ← rest with
    | [] => return .empty
    | c :: after =>
      if c == '+' || c == '*' || c == '?' || c == '|' || c == ')' then return .empty
      else
        goTo after
        if c == '.' then return .any flags.anyNewline
        else if c == '^' then
          return .assertion (if flags.multiline then .lineStart else .textStart)
        else if c == '$' then
          return .assertion (if flags.multiline then .lineEnd else .textEnd)
        else if c == '(' then group size fuel (depth + 1)
        else if c == '\\' then escape size false
        else if c == '[' then bracket size
        else literal c

/-- Reads a group after its opening bracket. -/
def group (size : Nat) : Nat → Nat → Reader Expr
  | 0, _ => failure
  | fuel + 1, depth => do
    if depthLimit ≤ depth then failure
    skipBlanks
    let enclosed (build : Expr → Expr) (after : List Char) : Reader Expr := do
      goTo after
      let e ← choice size fuel depth
      closeGroup
      return build e
    let named (close : Char) (cs : List Char) : Reader Expr := do
      let (name, after) ← name? close cs
      openGroup (some name)
      enclosed .group after
    match ← rest with
    | '?' :: '=' :: after => enclosed (.look false false) after
    | '?' :: '!' :: after => enclosed (.look false true) after
    | '?' :: '<' :: '=' :: after => enclosed (.look true false) after
    | '?' :: '<' :: '!' :: after => enclosed (.look true true) after
    | '?' :: '<' :: after => named '>' after
    | '?' :: '\'' :: after => named '\'' after
    | '?' :: 'P' :: '<' :: after => named '>' after
    | '?' :: 'P' :: '=' :: after => goTo after; namedReference ')' false
    | '?' :: '>' :: after => enclosed .atomic after
    | '?' :: '(' :: after => goTo after; branches size fuel depth
    | '?' :: after =>
      let flags := (← get).flags
      goTo after
      if ← flagLetters (after.length + 1) false '?' then
        let e ← choice size fuel depth
        match ← rest with
        | ')' :: after =>
          modify fun cursor => { cursor with rest := after, flags }
          return e
        | _ => failure
      else return .empty
    | after =>
      openGroup none
      enclosed .group after

/-- Reads a conditional after `(?(`. -/
def branches (size : Nat) : Nat → Nat → Reader Expr
  | 0, _ => failure
  | fuel + 1, depth => do
    let condition ← match ← rest with
      | [] => failure
      | '\'' :: after => goTo after; namedReference '\'' true
      | '<' :: after => goTo after; namedReference '>' true
      | c :: _ => if c.isDigit then numberedReference size else choice size fuel depth
    closeGroup
    let start ← rest
    let e ← choice size fuel depth
    if (← rest).length == start.length then
      match condition with
      | .reference g => closeGroup; return .groupMatched g
      | _ => failure
    else
      closeGroup
      return conditional condition e

end

end Reader

/-- Reads a whole text under some flags; the result holds the expression and the groups referred to. -/
def read? (flags : Flags) (text : List Char) (size : Nat) : Option (Expr × List Nat) :=
  match (Reader.choice size (8 * text.length + 8) 0).run ⟨text, flags, 0, [], [], false⟩ with
  | some (e, cursor) => if cursor.rest.isEmpty then some (e, cursor.references) else none
  | none => none

end Vigil.Pattern
