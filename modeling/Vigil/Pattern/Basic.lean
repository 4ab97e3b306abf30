import Vigil.Pattern.Machine
import Vigil.Pattern.Reader
import Vigil.Text.Casing

/-! # Patterns

A pattern is what a text is compared with: one text, with or without regard to case, or a regular
expression that has to match from the first character to the last. In a wildcard pattern a star stands for
any text and all else for itself: its expression is written from the escaped parts between the stars, and
read as any other. Plain expressions always give an answer; the search for a hard one may give up, which
counts as no match. -/

namespace Vigil

open Vigil.Text Vigil.Pattern

/-- What a text is compared with. -/
inductive Pattern
  | exact (text : List Char) (cased : Bool)
  | plain (n : Node)
  | hard (program : Program)

namespace Pattern

/-! ### Making patterns -/

/-- A text by itself; without regard to case both texts are compared in lower case. -/
def ofText (text : List Char) (cased : Bool) : Pattern :=
  .exact (if cased then text else lower text) cased

/-- The pattern of an expression, whose references point to groups opened before them. -/
def ofExpr? (e : Expr) (referenced : List Nat) : Option Pattern :=
  if !e.referencesOpened 1 then none
  else if e.isHard referenced 1 then (Program.ofExpr? referenced e).map .hard
  else ((Node.ofExpr? 1 e).bind Node.checked).map .plain

/-- The number of bytes of a text. -/
def byteSize (text : List Char) : Nat := (text.map Char.utf8Size).foldl (· + ·) 0

/-- The pattern of an expression by itself, which may match anywhere. A full stop stands for any character.
The text of the flags counts for the size of the expression. -/
def compile? (text : List Char) (cased : Bool) : Option Pattern :=
  let flagsSize := if cased then 4 else 5
  match read? { fold := !cased, anyNewline := true } text (byteSize text + flagsSize) with
  | some (e, referenced) => ofExpr? e referenced
  | none => none

/-- The pattern of an expression between the ends of the text. -/
def ofBody? (body : List Char) (cased : Bool) : Option Pattern := compile? ('^' :: (body ++ ['$'])) cased

/-- A text with a backslash before each character that has a meaning in expressions. -/
def escaped (cs : List Char) : List Char :=
  cs.flatMap fun c => if Reader.isSpecial c then ['\\', c] else [c]

/-- The expression for any text. -/
def anyText : List Char := ['.', '*']

/-- The parts of a text between the stars in it. -/
def partsAtStars : List Char → List (List Char)
  | [] => [[]]
  | c :: cs =>
    if c = '*' then [] :: partsAtStars cs
    else match partsAtStars cs with
      | part :: parts => (c :: part) :: parts
      | [] => [[c]]

/-- A text in which every star stands for any text. -/
def wildcard? (text : List Char) (cased : Bool) : Option Pattern :=
  if text.contains '*' then ofBody? (anyText.intercalate ((partsAtStars text).map escaped)) cased
  else some (ofText text cased)

/-- A text at the start. -/
def startsWith? (text : List Char) (cased : Bool) : Option Pattern :=
  ofBody? (escaped text ++ anyText) cased

/-- A text at the end. -/
def endsWith? (text : List Char) (cased : Bool) : Option Pattern :=
  ofBody? (anyText ++ escaped text) cased

/-- A text anywhere. -/
def contains? (text : List Char) (cased : Bool) : Option Pattern :=
  ofBody? (anyText ++ escaped text ++ anyText) cased

/-- The pattern of a regular expression, which is put in a group. -/
def regex? (text : List Char) (cased : Bool) : Option Pattern :=
  ofBody? ("(?:".toList ++ text ++ ")".toList) cased

/-! ### Matching -/

/-- Compares a text with a pattern. -/
def compare (p : Pattern) (text : List Char) : Outcome :=
  let outcome (b : Bool) : Outcome := if b then .found else .absent
  match p with
  | .exact expected cased => outcome (expected == if cased then text else lower text)
  | .plain n => outcome (n.occursIn text)
  | .hard program => program.search text

/-- Whether a text matches. -/
def isMatch (p : Pattern) (text : List Char) : Bool := p.compare text = .found

/-- Whether the search gives up. -/
def givesUp (p : Pattern) (text : List Char) : Bool := p.compare text = .gaveUp

end Pattern

end Vigil
