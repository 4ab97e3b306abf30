/-! # Places in a text

A `Cursor` is a place in a text: what is left to read, and how much has been read, in characters, in lines
and in characters of the line. It moves over characters (`drop`, `dropWhile`) or over a line break
(`nextLine`), and it can look ahead for a gap, the end of the text, or a mark between documents. -/

namespace Vigil.Yaml

/-! ### Characters -/

/-- Spaces and tabs. -/
def isBlank (c : Char) : Bool := c == ' ' || c == '\t'

/-- Line breaks: those of ASCII, the next-line character and the separators of lines and paragraphs. -/
def isBreak (c : Char) : Bool :=
  c == '\n' || c == '\r' || c == '\x85' || c == '\u2028' || c == '\u2029'

/-- Blanks and line breaks. -/
def isGap (c : Char) : Bool := isBlank c || isBreak c

/-- Characters of the names of anchors, tag handles and directives. -/
def isNameCharacter (c : Char) : Bool := c.isAlphanum || c == '_' || c == '-'

/-- Characters that a text may hold. -/
def isAllowed (c : Char) : Bool :=
  let n := c.toNat
  n == 9 || n == 10 || n == 13 || (32 ≤ n && n ≤ 126) || n == 0x85 ||
    (0xA0 ≤ n && n != 0xFEFF && n != 0xFFFE && n != 0xFFFF)

/-- The mark of the byte order, which may begin a text. -/
def byteOrderMark : Char := '\uFEFF'

/-- Whether a gap or the end of the text comes next. -/
def endsWord : List Char → Bool
  | [] => true
  | c :: _ => isGap c

/-! ### Places -/

/-- A place in a text. -/
structure Cursor where
  rest : List Char
  index : Nat := 0
  line : Nat := 0
  column : Nat := 0

namespace Cursor

/-- Moves over `n` characters of the line. -/
def drop (p : Cursor) (n : Nat) : Cursor :=
  { p with rest := p.rest.drop n, index := p.index + n, column := p.column + n }

/-- The characters up to the first for which `f` fails. -/
def takeWhile (p : Cursor) (f : Char → Bool) : List Char := p.rest.takeWhile f

/-- Moves to the first character for which `f` fails. -/
def dropWhile (p : Cursor) (f : Char → Bool) : Cursor := p.drop (p.takeWhile f).length

/-- The next character. -/
def next? (p : Cursor) : Option Char := p.rest.head?

/-- Whether `c` comes next. -/
def startsWith (p : Cursor) (c : Char) : Bool := p.next? == some c

/-- Whether a blank comes next. -/
def atBlank (p : Cursor) : Bool := p.next?.any isBlank

/-- Whether a line break comes next. -/
def atBreak (p : Cursor) : Bool := p.next?.any isBreak

/-- Whether a gap or the end of the text comes next. -/
def atGap (p : Cursor) : Bool := endsWord p.rest

/-- Moves over a line break, if one comes next. -/
def nextLine (p : Cursor) : Cursor :=
  match p.rest with
  | '\r' :: '\n' :: rest => ⟨rest, p.index + 2, p.line + 1, 0⟩
  | c :: rest => if isBreak c then ⟨rest, p.index + 1, p.line + 1, 0⟩ else p
  | [] => p

/-- The line break that comes next, as texts keep it: separators stay, all others become one
character. -/
def lineBreak (p : Cursor) : List Char :=
  match p.rest with
  | c :: _ => if c == '\u2028' || c == '\u2029' then [c] else if isBreak c then ['\n'] else []
  | [] => []

/-- Whether three of the given character begin a line and nothing is joined to them. -/
def atMark (p : Cursor) (c : Char) : Bool :=
  p.column == 0 && (match p.rest with
    | a :: b :: d :: rest => a == c && b == c && d == c && endsWord rest
    | _ => false)

/-- Whether a line begins with a mark between documents. -/
def atDocumentMark (p : Cursor) : Bool := p.atMark '-' || p.atMark '.'

/-- More than the number of steps that a loop over the rest of the text takes. -/
def fuel (p : Cursor) : Nat := p.rest.length + 1

end Cursor

end Vigil.Yaml
