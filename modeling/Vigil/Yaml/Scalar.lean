import Vigil.Text.Digits
import Vigil.Yaml.Cursor

/-! # Scalars

A scalar is written plainly, between quotes, or as a block of lines. In plain and quoted scalars a `Gap`
between words is one space, unless it holds several line breaks: then all but the first stay. A block keeps
its lines; in a folded block a single break between two lines that begin with no blank becomes a space. -/

namespace Vigil.Yaml

open Vigil.Text

/-- How a scalar is written. -/
inductive ScalarStyle
  | plain
  | quoted
  | literal
  | folded
deriving DecidableEq

/-- What a reader of scalars gives: characters, and the place after them. -/
abbrev Reading := List Char × Cursor

/-! ### Gaps -/

/-- Blanks and line breaks between words: the blanks before the first break; whether there is a break, and
how it is kept; and the breaks after it. -/
structure Gap where
  blanks : List Char := []
  broken : Bool := false
  first : List Char := []
  others : List Char := []

namespace Gap

/-- What stands for a gap in the text of a scalar. -/
def text (g : Gap) : List Char :=
  if !g.broken then g.blanks
  else if g.first == ['\n'] then (if g.others.isEmpty then [' '] else g.others)
  else g.first ++ g.others

/-- Adds a line break. -/
def addBreak (g : Gap) (lineBreak : List Char) : Gap :=
  if g.broken then { g with others := g.others ++ lineBreak }
  else { g with blanks := [], broken := true, first := lineBreak }

end Gap

/-- Reads a gap to its end. A tab may not stand left of the margin. -/
def gapFrom (margin : Int) : Nat → Gap → Cursor → Option (Gap × Cursor)
  | 0, _, _ => none
  | fuel + 1, g, p =>
    if p.atBlank then
      if !g.broken then gapFrom margin fuel { g with blanks := g.blanks ++ p.rest.take 1 } (p.drop 1)
      else if p.startsWith '\t' && (p.column : Int) < margin then none
      else gapFrom margin fuel g (p.drop 1)
    else if p.atBreak then gapFrom margin fuel (g.addBreak p.lineBreak) p.nextLine
    else some (g, p)

/-! ### Plain scalars -/

/-- Brackets and commas end a plain scalar inside brackets. -/
def isFlowIndicator (c : Char) : Bool :=
  c == ',' || c == '[' || c == ']' || c == '\x7b' || c == '\x7d'

/-- A word of a plain scalar. Inside brackets, a colon may not be followed by one of the indicators
there. -/
def plainWord? (inFlow : Bool) : List Char → Option (List Char)
  | [] => some []
  | c :: rest =>
    if isGap c || (inFlow && isFlowIndicator c) then some []
    else if c == ':' then
      if inFlow && rest.head?.any (fun d => isFlowIndicator d || d == '?') then none
      else if endsWord rest then some []
      else (plainWord? inFlow rest).map (c :: ·)
    else (plainWord? inFlow rest).map (c :: ·)

/-- Reads a plain scalar; `before` holds its characters so far, the last first, and `gap` what follows
them. Also gives whether it ends with a line break. -/
def plainFrom (inFlow : Bool) (margin : Int) :
    Nat → List Char → Gap → Cursor → Option (Reading × Bool)
  | 0, _, _, _ => none
  | fuel + 1, before, gap, p =>
    let done : Reading × Bool := ((before.reverse, p), gap.broken)
    if p.atDocumentMark || p.startsWith '#' then some done
    else do
      let word ← plainWord? inFlow p.rest
      if word.isEmpty then some done
      else
        let before := word.reverse ++ gap.text.reverse ++ before
        let p := p.drop word.length
        if p.rest.isEmpty || !p.atGap then some ((before.reverse, p), false)
        else
          let (gap, p) ← gapFrom margin p.fuel {} p
          if !inFlow && (p.column : Int) < margin then some ((before.reverse, p), gap.broken)
          else plainFrom inFlow margin fuel before gap p

/-- Reads a plain scalar whose lines may not stand left of the margin. -/
def plain? (inFlow : Bool) (margin : Int) (p : Cursor) : Option (Reading × Bool) :=
  plainFrom inFlow margin p.fuel [] {} p

/-! ### Quoted scalars -/

/-- The characters that letters after a backslash stand for. -/
def escapes : List (Char × Char) :=
  [('0', '\x00'), ('a', '\x07'), ('b', '\x08'), ('t', '\t'), ('\t', '\t'), ('n', '\n'), ('v', '\x0B'),
    ('f', '\x0C'), ('r', '\r'), ('e', '\x1B'), (' ', ' '), ('"', '"'), ('/', '/'), ('\\', '\\'),
    ('N', '\x85'), ('_', '\xA0'), ('L', '\u2028'), ('P', '\u2029')]

/-- The numbers of digits of the escapes that give the number of a character. -/
def escapeWidths : List (Char × Nat) := [('x', 2), ('u', 4), ('U', 8)]

/-- The character that the text after a backslash stands for, and the length of that text. -/
def escape? : List Char → Option (Char × Nat)
  | [] => none
  | c :: rest =>
    match escapes.lookup c, escapeWidths.lookup c with
    | some d, _ => some (d, 1)
    | none, some width =>
      let digits := rest.take width
      let n := hexValue digits
      if digits.length == width && digits.all isHexDigit && n.isValidChar then
        some (Char.ofNat n, width + 1)
      else none
    | none, none => none

/-- Reads a quoted scalar after its opening quote; `before` holds its characters so far, the last
first. -/
def quotedFrom (quote : Char) : Nat → List Char → Cursor → Option Reading
  | 0, _, _ => none
  | fuel + 1, before, p =>
    if p.atDocumentMark then none
    else
      match p.rest with
      | [] => none
      | c :: rest =>
        if isGap c then do
          let (gap, p) ← gapFrom 0 p.fuel {} p
          quotedFrom quote fuel (gap.text.reverse ++ before) p
        else if c == quote then
          if quote == '\'' && rest.head? == some '\'' then quotedFrom quote fuel (c :: before) (p.drop 2)
          else some (before.reverse, p.drop 1)
        else if quote == '"' && c == '\\' then
          if (p.drop 1).atBreak then do
            let (gap, p) ← gapFrom 0 p.fuel { broken := true } (p.drop 1).nextLine
            quotedFrom quote fuel (gap.text.reverse ++ before) p
          else do
            let (d, length) ← escape? rest
            quotedFrom quote fuel (d :: before) (p.drop (length + 1))
        else quotedFrom quote fuel (c :: before) (p.drop 1)

/-- Reads a quoted scalar. -/
def quoted? (quote : Char) (p : Cursor) : Option Reading :=
  quotedFrom quote p.fuel [] (p.drop 1)

/-! ### Blocks -/

/-- What becomes of the line breaks at the end of a block: none is kept, the first or all. -/
inductive Chomping
  | strip
  | clip
  | keep

/-- The sign of a way to treat the breaks at the end. -/
def chomping? : Option Char → Option Chomping
  | some '+' => some .keep
  | some '-' => some .strip
  | _ => none

/-- Reads a digit for the indentation; 0 stands for none, and the digit 0 is an error. -/
def increment? (p : Cursor) : Option (Nat × Cursor) :=
  match p.next? with
  | some c =>
    if c == '0' then none
    else if c.isDigit then some (digitValue c, p.drop 1)
    else some (0, p)
  | none => some (0, p)

/-- Reads the signs after the one that begins a block: how it ends and how far it is indented. -/
def blockSigns? (p : Cursor) : Option (Chomping × Nat × Cursor) :=
  match chomping? p.next? with
  | some chomping => (increment? (p.drop 1)).map fun (n, p) => (chomping, n, p)
  | none => do
    let (n, p) ← increment? p
    match n, chomping? p.next? with
    | 0, _ => return (.clip, 0, p)
    | n, some chomping => return (chomping, n, p.drop 1)
    | n, none => return (.clip, n, p)

/-- Goes over indentation and empty lines, up to the given indentation, or any if it is 0. Gives the line
breaks and the widest indentation. A tab may not stand in the indentation. -/
def emptyLinesFrom (indent : Nat) : Nat → Nat → List Char → Cursor → Option (Nat × Reading)
  | 0, _, _, _ => none
  | fuel + 1, widest, breaks, p =>
    let spaces := (p.takeWhile (· == ' ')).length
    let p := p.drop (if indent = 0 then spaces else min spaces (indent - p.column))
    let widest := max widest p.column
    if (indent = 0 || p.column < indent) && p.startsWith '\t' then none
    else if p.atBreak then emptyLinesFrom indent fuel widest (breaks ++ p.lineBreak) p.nextLine
    else some (widest, breaks, p)

/-- What stands between a line that ends with `lineBreak` and the next one, before the breaks of empty
lines. -/
def blockJoint (style : ScalarStyle) (lineBreak breaks : List Char) (blankAround : Bool) : List Char :=
  if style == .folded && lineBreak == ['\n'] && !blankAround then
    (if breaks.isEmpty then [' '] else [])
  else lineBreak

/-- Reads the lines of a block; `before` holds their characters so far, the last first, `lineBreak` the
break after them, `breaks` those of empty lines. -/
def blockLinesFrom (style : ScalarStyle) (chomping : Chomping) (indent : Nat) :
    Nat → List Char → Bool → List Char → List Char → Cursor → Option Reading
  | 0, _, _, _, _, _ => none
  | fuel + 1, before, beganBlank, lineBreak, breaks, p =>
    if p.column == indent && !p.rest.isEmpty then do
      let joint := blockJoint style lineBreak breaks (beganBlank || p.atBlank)
      let line := p.takeWhile fun c => !isBreak c
      let before := line.reverse ++ breaks.reverse ++ joint.reverse ++ before
      let last := p.drop line.length
      let (_, breaks, next) ← emptyLinesFrom indent last.fuel 0 [] last.nextLine
      blockLinesFrom style chomping indent fuel before p.atBlank last.lineBreak breaks next
    else
      let ending := match chomping with
        | .strip => []
        | .clip => lineBreak
        | .keep => lineBreak ++ breaks
      some (before.reverse ++ ending, p)

/-- Reads a block after the sign that begins it. The lines are indented more than `parent`. -/
def block? (style : ScalarStyle) (parent : Int) (p : Cursor) : Option Reading := do
  let (chomping, increment, p) ← blockSigns? p
  let p := p.dropWhile isBlank
  let p := if p.startsWith '#' then p.dropWhile fun c => !isBreak c else p
  if !p.rest.isEmpty && !p.atBreak then none
  else
    let given := if increment = 0 then 0 else (max parent 0).toNat + increment
    let (widest, breaks, p) ← emptyLinesFrom given p.fuel 0 [] p.nextLine
    let indent := if given = 0 then max (max widest (parent + 1).toNat) 1 else given
    blockLinesFrom style chomping indent p.fuel [] false [] breaks p

end Vigil.Yaml
