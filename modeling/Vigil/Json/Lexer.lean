import Vigil.Json.Basic
import Vigil.Text.Digits

/-! # JSON texts: blanks, words, texts and numbers

The parts of a JSON text that hold no other. An error tells a text that ends too early from one that is
malformed, and both from one that does not fit what is asked for. Whole numbers beyond 64 bits and numbers
with a fraction or an exponent become floating point numbers: at most 64 bits of digits are kept, and the
power of ten is applied to them in floating point arithmetic. -/

namespace Vigil

open Vigil.Decimal Vigil.Text

/-- Why a text is not the JSON that is asked for. -/
inductive JsonError
  | malformed
  | endsEarly
  | mismatch (message : String)
deriving DecidableEq

namespace Json

/-- What a reader gives: a value and the text after it. -/
abbrev Read (α : Type) := α × List Char

/-- Blanks of JSON. -/
def isBlank (c : Char) : Bool := c == ' ' || c == '\n' || c == '\t' || c == '\r'

/-- The text after blanks. -/
def skipBlanks (cs : List Char) : List Char := cs.dropWhile isBlank

/-- The text after the rest of a word. -/
def word? : List Char → List Char → Except JsonError (List Char)
  | [], cs => .ok cs
  | _ :: _, [] => .error .endsEarly
  | expected :: others, c :: cs => if c = expected then word? others cs else .error .malformed

/-! ### Texts -/

/-- Reads four hexadecimal digits; four bytes have to be there. -/
def hexUnit? (cs : List Char) : Except JsonError (Read Nat) :=
  let digits := cs.take 4
  if digits.length == 4 && digits.all isHexDigit then
    .ok (hexValue digits, cs.drop 4)
  else if (digits.map Char.utf8Size).foldl (· + ·) 0 < 4 then .error .endsEarly
  else .error .malformed

/-- The character that a letter after a backslash stands for. -/
def escaped? : Char → Option Char
  | '"' => some '"'
  | '\\' => some '\\'
  | '/' => some '/'
  | 'b' => some '\x08'
  | 'f' => some '\x0C'
  | 'n' => some '\n'
  | 'r' => some '\r'
  | 't' => some '\t'
  | _ => none

/-- Reads the second half of a pair, whose first half is `high`. -/
def lowHalf? (high : Nat) : List Char → Except JsonError (Read Char)
  | [] => .error .endsEarly
  | '\\' :: [] => .error .endsEarly
  | '\\' :: 'u' :: rest => do
    let (low, rest) ← hexUnit? rest
    if 0xDC00 ≤ low ∧ low ≤ 0xDFFF then
      return (Char.ofNat ((high - 0xD800) * 0x400 + (low - 0xDC00) + 0x10000), rest)
    else .error .malformed
  | _ => .error .malformed

/-- Reads what follows a backslash. -/
def escape? : List Char → Except JsonError (Read Char)
  | [] => .error .endsEarly
  | 'u' :: rest => do
    let (n, rest) ← hexUnit? rest
    if 0xDC00 ≤ n ∧ n ≤ 0xDFFF then .error .malformed
    else if 0xD800 ≤ n ∧ n ≤ 0xDBFF then lowHalf? n rest
    else return (Char.ofNat n, rest)
  | c :: rest =>
    match escaped? c with
    | some d => .ok (d, rest)
    | none => .error .malformed

/-- Reads a text after its opening quote; `before` holds its characters so far, the last first. -/
def textFrom : Nat → List Char → List Char → Except JsonError (Read String)
  | 0, _, _ => .error .endsEarly
  | fuel + 1, before, cs =>
    match cs with
    | [] => .error .endsEarly
    | '"' :: rest => .ok (String.ofList before.reverse, rest)
    | '\\' :: rest => do
      let (c, rest) ← escape? rest
      textFrom fuel (c :: before) rest
    | c :: rest => if c.toNat < 32 then .error .malformed else textFrom fuel (c :: before) rest

/-- Reads a text after its opening quote. -/
def text? (cs : List Char) : Except JsonError (Read String) := textFrom (cs.length + 1) [] cs

/-! ### Numbers -/

/-- The first number that does not fit 64 bits. -/
def wholeLimit : Nat := Nat.pow 2 64

/-- The largest power of ten below infinity. -/
def greatestPower : Nat := 308

/-- Reads digits on to a number as long as it fits 64 bits; also tells how many were read and whether a
digit is left. -/
def digitsFrom (n count : Nat) : List Char → Nat × Nat × List Char
  | [] => (n, count, [])
  | c :: rest =>
    if c.isDigit && n * 10 + digitValue c < wholeLimit then
      digitsFrom (n * 10 + digitValue c) (count + 1) rest
    else (n, count, c :: rest)

/-- The text after digits, with their number. -/
def skipDigits (cs : List Char) : Nat × List Char :=
  ((cs.takeWhile Char.isDigit).length, cs.dropWhile Char.isDigit)

/-- Multiplies by a power of ten in floating point arithmetic, in steps of at most `greatestPower`; the
fuel is more than the number of steps. -/
def scaleFrom : Nat → Binary64 → Int → Option Binary64
  | 0, x, _ => some x
  | fuel + 1, x, exponent =>
    if exponent.natAbs ≤ greatestPower then
      let power := Binary64.ofNat (Nat.pow 10 exponent.natAbs)
      if 0 ≤ exponent then
        let y := x.mul power
        if y.isInfinite then none else some y
      else some (x.div power)
    else if x.isZero then some x
    else if 0 ≤ exponent then none
    else scaleFrom fuel (x.div (Binary64.ofNat (Nat.pow 10 greatestPower))) (exponent + greatestPower)

/-- The floating point number of digits and a power of ten; too large a number is an error. -/
def float? (negative : Bool) (digits : Nat) (exponent : Int) : Except JsonError JsonNumber :=
  match scaleFrom 8 (Binary64.ofNat digits) exponent with
  | some x => .ok (.float (if negative then x.neg else x))
  | none => .error .malformed

/-- The bounds of exponents. -/
def exponentLimit : Nat := Nat.pow 2 31

/-- Reads the digits of an exponent; `none` stands for one beyond the bounds. -/
def exponentDigits (n : Nat) : List Char → Option Nat × List Char
  | [] => (some n, [])
  | c :: rest =>
    if c.isDigit then
      if n * 10 + digitValue c < exponentLimit then exponentDigits (n * 10 + digitValue c) rest
      else (none, (c :: rest).dropWhile Char.isDigit)
    else (some n, c :: rest)

/-- Reads an exponent after its letter. -/
def exponent? (negative : Bool) (digits : Nat) (start : Int) (cs : List Char) :
    Except JsonError (Read JsonNumber) :=
  let (down, cs) := match cs with
    | '+' :: rest => (false, rest)
    | '-' :: rest => (true, rest)
    | _ => (false, cs)
  match cs with
  | [] => .error .endsEarly
  | c :: _ =>
    if !c.isDigit then .error .malformed
    else
      match exponentDigits 0 cs with
      | (some n, rest) =>
        (float? negative digits (if down then start - n else start + n)).map (·, rest)
      | (none, rest) =>
        if digits != 0 && !down then .error .malformed
        else .ok (.float (Binary64.signed negative 0), rest)

/-- Reads what follows the digits of a floating point number. -/
def exponentOrEnd? (negative : Bool) (digits : Nat) (exponent : Int) :
    List Char → Except JsonError (Read JsonNumber)
  | 'e' :: rest => exponent? negative digits exponent rest
  | 'E' :: rest => exponent? negative digits exponent rest
  | cs => (float? negative digits exponent).map (·, cs)

/-- Reads a fraction after its point. -/
def fraction? (negative : Bool) (digits : Nat) (exponent : Int) (cs : List Char) :
    Except JsonError (Read JsonNumber) :=
  let (digits, count, rest) := digitsFrom digits 0 cs
  let more := skipDigits rest
  if count == 0 && more.1 == 0 then
    if rest.isEmpty then .error .endsEarly else .error .malformed
  else exponentOrEnd? negative digits (exponent - count) more.2

/-- A whole number; a negative one that is zero or does not fit becomes a floating point number. -/
def ofWhole (negative : Bool) (n : Nat) : JsonNumber :=
  if !negative then .whole (UInt64.ofNat n)
  else if n = 0 ∨ Nat.pow 2 63 < n then .float (Binary64.ofNat n).neg
  else .negative (Int64.ofInt (-(n : Int)))

/-- Reads what follows the digits of a whole number that fits 64 bits. -/
def wholeEnd? (negative : Bool) (n : Nat) : List Char → Except JsonError (Read JsonNumber)
  | '.' :: rest => fraction? negative n 0 rest
  | 'e' :: rest => exponent? negative n 0 rest
  | 'E' :: rest => exponent? negative n 0 rest
  | cs => .ok (ofWhole negative n, cs)

/-- Reads a number after its sign. -/
def number? (negative : Bool) : List Char → Except JsonError (Read JsonNumber)
  | [] => .error .endsEarly
  | '0' :: rest =>
    match rest with
    | c :: _ => if c.isDigit then .error .malformed else wholeEnd? negative 0 rest
    | [] => wholeEnd? negative 0 rest
  | c :: rest =>
    if !c.isDigit then .error .malformed
    else
      let (n, _, rest) := digitsFrom 0 0 (c :: rest)
      let (surplus, rest) := skipDigits rest
      if surplus = 0 then wholeEnd? negative n rest
      else
        match rest with
        | '.' :: rest => fraction? negative n surplus rest
        | rest => exponentOrEnd? negative n surplus rest

end Json

end Vigil
