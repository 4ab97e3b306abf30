import Vigil.Decimal.Shortest
import Vigil.Text.Quoted
import Vigil.Yaml.Scalar

/-! # What scalars denote

A plain scalar can denote nothing, a truth value, a whole number of at most 128 bits or a finite or infinite
floating point number; otherwise it denotes its own text, as every other scalar does. A tag can demand one of
these kinds. -/

namespace Vigil.Yaml

open Vigil.Decimal Vigil.Text

/-- What a scalar denotes. -/
inductive Atom
  | null
  | boolean (b : Bool)
  | integer (i : Int)
  | float (f : Binary64)
  | text (s : String)
deriving DecidableEq

/-! ### Tags -/

/-- The tags that demand a kind. -/
def nullTag : String := "tag:yaml.org,2002:null"

@[inherit_doc nullTag]
def booleanTag : String := "tag:yaml.org,2002:bool"

@[inherit_doc nullTag]
def integerTag : String := "tag:yaml.org,2002:int"

@[inherit_doc nullTag]
def floatTag : String := "tag:yaml.org,2002:float"

/-- The name of a local tag, which is written with one exclamation mark. -/
def localTag? (tag : Option String) : Option String :=
  match tag.map String.toList with
  | some ('!' :: name) => some (String.ofList name)
  | _ => none

/-! ### Plain scalars -/

/-- Whether a text is a word for nothing. -/
def isNull (s : String) : Bool := s == "null" || s == "Null" || s == "NULL" || s == "~"

/-- The truth value of a text. -/
def boolean? (s : String) : Option Bool :=
  if s == "true" || s == "True" || s == "TRUE" then some true
  else if s == "false" || s == "False" || s == "FALSE" then some false
  else none

/-- The number that digits of a base denote. -/
def digits? (base : Nat) (cs : List Char) : Option Nat :=
  let isDigit (c : Char) : Bool := isHexDigit c && hexDigitValue c < base
  if !cs.isEmpty && cs.all isDigit then
    some (cs.foldl (fun n c => n * base + hexDigitValue c) 0)
  else none

/-- Whether digits begin with a zero that they do not need. -/
def hasLeadingZero : List Char → Bool
  | '0' :: c :: rest => (c :: rest).all Char.isDigit
  | _ => false

/-- The size of a whole number without its sign. -/
def magnitude? : List Char → Option Nat
  | '0' :: 'x' :: rest => digits? 16 rest
  | '0' :: 'o' :: rest => digits? 8 rest
  | '0' :: 'b' :: rest => digits? 2 rest
  | cs => if hasLeadingZero cs then none else digits? 10 cs

/-- The whole number that a text denotes, if it fits 128 bits. -/
def integer? : List Char → Option Int
  | '-' :: cs => (magnitude? cs).bind fun n => if n ≤ Nat.pow 2 127 then some (-(n : Int)) else none
  | '+' :: cs => (magnitude? cs).bind fun n => if n < Nat.pow 2 128 then some (n : Int) else none
  | cs => (magnitude? cs).bind fun n => if n < Nat.pow 2 128 then some (n : Int) else none

/-- The exponent after the digits of a number; no text stands for zero. -/
def exponent? : List Char → Option Int
  | [] => some 0
  | c :: rest =>
    if c == 'e' || c == 'E' then
      match rest with
      | '-' :: cs => (digits? 10 cs).map fun n => -(n : Int)
      | '+' :: cs => (digits? 10 cs).map fun n => (n : Int)
      | cs => (digits? 10 cs).map fun n => (n : Int)
    else none

/-- The finite floating point number that digits denote, with a point among them or not, and an exponent or
not. -/
def decimal? (negative : Bool) (cs : List Char) : Option Binary64 :=
  let whole := cs.takeWhile Char.isDigit
  let rest := cs.drop whole.length
  let (fraction, rest) := match rest with
    | '.' :: others => (others.takeWhile Char.isDigit, others.dropWhile Char.isDigit)
    | _ => ([], rest)
  match digits? 10 (whole ++ fraction), exponent? rest with
  | some n, some e =>
    let f := Binary64.ofDecimal negative n (e - fraction.length)
    if f.isFinite then some f else none
  | _, _ => none

/-- Whether a text is a word for infinity. -/
def isInfinity (cs : List Char) : Bool :=
  cs == ".inf".toList || cs == ".Inf".toList || cs == ".INF".toList

/-- The floating point number that a text denotes. -/
def float? (cs : List Char) : Option Binary64 :=
  if cs == ".nan".toList || cs == ".NaN".toList || cs == ".NAN".toList then some Binary64.nan
  else
    match cs with
    | '-' :: rest => if isInfinity rest then some (Binary64.infinity true) else decimal? true rest
    | '+' :: rest => if isInfinity rest then some (Binary64.infinity false) else decimal? false rest
    | rest => if isInfinity rest then some (Binary64.infinity false) else decimal? false rest

/-- Whether a text consists of a sign, or none, and digits with a zero that they do not need. -/
def isPadded : List Char → Bool
  | '-' :: cs => hasLeadingZero cs
  | '+' :: cs => hasLeadingZero cs
  | cs => hasLeadingZero cs

/-- What a plain scalar denotes. -/
def Atom.ofPlain (s : String) : Atom :=
  if s.isEmpty || isNull s then .null
  else
    match boolean? s, integer? s.toList with
    | some b, _ => .boolean b
    | none, some i => .integer i
    | none, none =>
      if isPadded s.toList then .text s
      else
        match float? s.toList with
        | some f => .float f
        | none => .text s

/-- What a scalar denotes, or why it is not what its tag demands. -/
def atom? (style : ScalarStyle) (tag : Option String) (s : String) : Except String Atom :=
  let demand (a : Option Atom) (kind : String) : Except String Atom :=
    match a with
    | some a => .ok a
    | none => .error ("invalid value: string " ++ quoted s ++ ", expected " ++ kind)
  if tag == some booleanTag then demand ((boolean? s).map .boolean) "a boolean"
  else if tag == some integerTag then demand ((integer? s.toList).map .integer) "an integer"
  else if tag == some floatTag then demand ((float? s.toList).map .float) "a float"
  else if tag == some nullTag then demand (if isNull s then some .null else none) "null"
  else if style == .plain && (tag.isNone || (localTag? tag).isSome) then .ok (.ofPlain s)
  else .ok (.text s)

/-! ### Messages -/

/-- Whether a whole number fits 64 bits, with a sign or without. -/
def fits64 (i : Int) : Bool := -(Int.pow 2 63) ≤ i && i < Int.pow 2 64

/-- A whole number with its kind. -/
def describeInteger (i : Int) : String :=
  "integer \x60" ++ toString i ++ "\x60" ++
    (if fits64 i then "" else if 0 ≤ i then " as u128" else " as i128")

/-- Floating point numbers in messages are never split into digits and a power of ten. -/
def Atom.style : DecimalStyle := ⟨-1100, 400⟩

/-- How messages call what a scalar denotes. -/
def Atom.describe : Atom → String
  | .null => "unit value"
  | .boolean b => "boolean \x60" ++ (if b then "true" else "false") ++ "\x60"
  | .integer i => describeInteger i
  | .float f => "floating point \x60" ++ style.render f ++ "\x60"
  | .text s => "string " ++ quoted s

end Vigil.Yaml
