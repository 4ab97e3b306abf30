import Vigil.Query.Error
import Vigil.Query.Token
import Vigil.Text.Casing
import Vigil.Text.Character
import Vigil.Text.Digits

/-! # Reading tokens

`tokens?` reads a text character by character (`step`): what has been read is kept as the tokens that are
complete, the last first, and the one that is not (`Pending`). Between tokens nothing is pending, so that a
text followed by a blank and another text has the tokens of the one and then those of the other. -/

namespace Vigil.Query

open Vigil.Text

/-- A token that is not complete, its characters in reverse. Offsets say where a text or sign begins. -/
inductive Pending
  | nothing
  | sign (c : Char) (start : Nat)
  | text (start : Nat) (before : List Char)
  | escape (start : Nat) (before : List Char)
  | number (before : List Char)
  | word (before : List Char)

/-- What has been read: the number of bytes, the complete tokens, the last first, and the one that is
not. -/
structure LexerState where
  offset : Nat := 0
  complete : List Token := []
  pending : Pending := .nothing

/-- Letters and the underscore begin a word. -/
def beginsWord (c : Char) : Bool := isAlphabetic c || c == '_'

/-- Letters, digits, underscores and dots go on with a word. -/
def continuesWord (c : Char) : Bool := isAlphanumeric c || c == '_' || c == '.'

/-- The number that digits denote, after a sign or not, if it fits. -/
def integer? : List Char → Option Int64
  | [] => none
  | '-' :: [] => none
  | '-' :: digits =>
    let size := decimalValue digits
    if size ≤ Nat.pow 2 63 then some (Int64.ofInt (-(size : Int))) else none
  | digits =>
    let size := decimalValue digits
    if size < Nat.pow 2 63 then some (Int64.ofInt size) else none

/-- The token of a word: keywords are known in any case. -/
def wordToken (cs : List Char) : Token :=
  match String.ofList (lower cs) with
  | "not" => .negation
  | "and" => .conjunction
  | "or" => .disjunction
  | "where" => .head
  | "in" => .member true
  | "in~" => .member false
  | "true" => .literal (.boolean true)
  | "false" => .literal (.boolean false)
  | "null" => .literal .null
  | _ => .identifier (String.ofList cs)

/-- The character after a backslash in a text; other than the four escapes it is kept with the
backslash. -/
def unescape : Char → List Char
  | '"' => ['"']
  | '\\' => ['\\']
  | 'n' => ['\n']
  | 't' => ['\t']
  | c => ['\\', c]

namespace LexerState

/-- Adds a complete token. -/
def emit (s : LexerState) (t : Token) : LexerState :=
  { s with complete := t :: s.complete, pending := .nothing }

/-- Completes a number or a word. -/
def close (s : LexerState) : Except QueryError LexerState :=
  match s.pending with
  | .number before =>
    match integer? before.reverse with
    | some i => .ok (s.emit (.literal (.integer i)))
    | none => .error (.invalidNumber (String.ofList before.reverse))
  | .word before => .ok (s.emit (wordToken before.reverse))
  | _ => .ok s

/-- Reads a character that begins a token, or a blank. -/
def begin (s : LexerState) (c : Char) : Except QueryError LexerState :=
  if isBlank c then .ok { s with pending := .nothing }
  else if c == '(' then .ok (s.emit .opening)
  else if c == ')' then .ok (s.emit .closing)
  else if c == ',' then .ok (s.emit .comma)
  else if c == ':' then .ok (s.emit (.comparison .similar))
  else if c == '=' || c == '!' then .ok { s with pending := .sign c s.offset }
  else if c == '"' then .ok { s with pending := .text s.offset [] }
  else if c.isDigit || c == '-' then .ok { s with pending := .number [c] }
  else if beginsWord c then .ok { s with pending := .word [c] }
  else .error (.unexpectedCharacter c s.offset)

/-- Reads a character, its bytes not yet counted. -/
def read (s : LexerState) (c : Char) : Except QueryError LexerState :=
  match s.pending with
  | .nothing => s.begin c
  | .sign sign start =>
    if c == '=' then .ok (s.emit (.comparison (if sign == '=' then .equal else .unequal)))
    else .error (.unexpectedCharacter sign start)
  | .text start before =>
    if c == '"' then .ok (s.emit (.literal (.text (String.ofList before.reverse))))
    else if c == '\\' then .ok { s with pending := .escape start before }
    else .ok { s with pending := .text start (c :: before) }
  | .escape start before =>
    .ok { s with pending := .text start ((unescape c).reverse ++ before) }
  | .number before =>
    if c.isDigit then .ok { s with pending := .number (c :: before) }
    else s.close.bind fun s => s.begin c
  | .word before =>
    if continuesWord c then .ok { s with pending := .word (c :: before) }
    else if c == '~' then .ok (s.emit (wordToken (c :: before).reverse))
    else s.close.bind fun s => s.begin c

/-- Reads a character. -/
def step (s : LexerState) (c : Char) : Except QueryError LexerState :=
  (s.read c).map fun s => { s with offset := s.offset + c.utf8Size }

/-- The tokens, if none is incomplete at the end. -/
def finish (s : LexerState) : Except QueryError (List Token) :=
  match s.pending with
  | .sign sign start => .error (.unexpectedCharacter sign start)
  | .text start _ => .error (.unterminatedText start)
  | .escape start _ => .error (.unterminatedText start)
  | _ => s.close.map fun s => s.complete.reverse

end LexerState

/-- The tokens of a text. -/
def tokens? (text : List Char) : Except QueryError (List Token) :=
  (text.foldlM LexerState.step {}).bind LexerState.finish

end Vigil.Query
