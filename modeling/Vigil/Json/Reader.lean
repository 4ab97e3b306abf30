import Vigil.Json.Lexer

/-! # Reading JSON

`read?` reads a whole text. Arrays and objects can be nested up to a limit. `skip?` passes over a value
whose content does not matter: it has to be well-formed, but its numbers may be too large, its texts may
hold half a pair, and it may be nested to any depth. -/

namespace Vigil.Json

/-- One more than the number of arrays and objects that can be open. -/
def depthLimit : Nat := 128

/-- Reads the colon after a name. -/
def colon? (cs : List Char) : Except JsonError (List Char) :=
  match skipBlanks cs with
  | [] => .error .endsEarly
  | ':' :: rest => .ok rest
  | _ => .error .malformed

/-- Goes to the next item of an array, or behind its end. -/
def nextItem? (first : Bool) (cs : List Char) : Except JsonError (Read Bool) :=
  match skipBlanks cs with
  | [] => .error .endsEarly
  | ']' :: rest => .ok (false, rest)
  | ',' :: rest =>
    if first then .ok (true, ',' :: rest)
    else match skipBlanks rest with
      | [] => .error .endsEarly
      | ']' :: _ => .error .malformed
      | rest => .ok (true, rest)
  | rest => if first then .ok (true, rest) else .error .malformed

/-- Goes behind the quote of the next name of an object, or behind its end. -/
def nextName? (first : Bool) (cs : List Char) : Except JsonError (Read Bool) :=
  match skipBlanks cs with
  | [] => .error .endsEarly
  | '\x7d' :: rest => .ok (false, rest)
  | '"' :: rest => if first then .ok (true, rest) else .error .malformed
  | ',' :: rest =>
    if first then .error .malformed
    else match skipBlanks rest with
      | [] => .error .endsEarly
      | '"' :: rest => .ok (true, rest)
      | _ => .error .malformed
  | _ => .error .malformed

mutual

/-- Reads a value; `depth` arrays and objects are open. -/
def value? : Nat → Nat → List Char → Except JsonError (Read Json)
  | 0, _, _ => .error .endsEarly
  | fuel + 1, depth, cs =>
    match skipBlanks cs with
    | [] => .error .endsEarly
    | 'n' :: rest => (word? ['u', 'l', 'l'] rest).map fun rest => (.null, rest)
    | 't' :: rest => (word? ['r', 'u', 'e'] rest).map fun rest => (.boolean true, rest)
    | 'f' :: rest => (word? ['a', 'l', 's', 'e'] rest).map fun rest => (.boolean false, rest)
    | '-' :: rest => (number? true rest).map fun (n, rest) => (.number n, rest)
    | '"' :: rest => (text? rest).map fun (s, rest) => (.text s, rest)
    | '[' :: rest =>
      if depthLimit ≤ depth + 1 then .error .malformed
      else (items? fuel (depth + 1) true rest).map fun (items, rest) => (.array items, rest)
    | '\x7b' :: rest =>
      if depthLimit ≤ depth + 1 then .error .malformed
      else (members? fuel (depth + 1) true rest).map fun (members, rest) =>
        (ofMembers members, rest)
    | c :: rest =>
      if c.isDigit then (number? false (c :: rest)).map fun (n, rest) => (.number n, rest)
      else .error .malformed

/-- Reads the items of an array up to its end. -/
def items? : Nat → Nat → Bool → List Char → Except JsonError (Read (List Json))
  | 0, _, _, _ => .error .endsEarly
  | fuel + 1, depth, first, cs => do
    let (more, rest) ← nextItem? first cs
    if more then
      let (v, rest) ← value? fuel depth rest
      let (vs, rest) ← items? fuel depth false rest
      return (v :: vs, rest)
    else return ([], rest)

/-- Reads the members of an object up to its end. -/
def members? : Nat → Nat → Bool → List Char → Except JsonError (Read (List (String × Json)))
  | 0, _, _, _ => .error .endsEarly
  | fuel + 1, depth, first, cs => do
    let (more, rest) ← nextName? first cs
    if more then
      let (name, rest) ← text? rest
      let rest ← colon? rest
      let (v, rest) ← value? fuel depth rest
      let (others, rest) ← members? fuel depth false rest
      return ((name, v) :: others, rest)
    else return ([], rest)

end

/-- Twice as much fuel as a text has characters, and some more. -/
def fuelOf (cs : List Char) : Nat := 2 * cs.length + 4

/-- Nothing but blanks may follow. -/
def atEnd (cs : List Char) : Except JsonError Unit :=
  if (skipBlanks cs).isEmpty then .ok () else .error .malformed

/-- Reads a text that holds one value. -/
def read? (text : String) : Except JsonError Json := do
  let (v, rest) ← value? (fuelOf text.toList) 0 text.toList
  atEnd rest
  return v

/-! ### Values that do not matter -/

/-- Passes over a text after its opening quote. -/
def skipText : Nat → List Char → Except JsonError (List Char)
  | 0, _ => .error .endsEarly
  | fuel + 1, cs =>
    match cs with
    | [] => .error .endsEarly
    | '"' :: rest => .ok rest
    | '\\' :: [] => .error .endsEarly
    | '\\' :: 'u' :: rest => do
      let (_, rest) ← hexUnit? rest
      skipText fuel rest
    | '\\' :: c :: rest => if (escaped? c).isSome then skipText fuel rest else .error .malformed
    | c :: rest => if c.toNat < 32 then .error .malformed else skipText fuel rest

/-- Passes over an exponent after its letter. -/
def skipExponent (cs : List Char) : Except JsonError (List Char) :=
  let cs := match cs with
    | '+' :: rest => rest
    | '-' :: rest => rest
    | _ => cs
  match skipDigits cs with
  | (0, _) => .error .malformed
  | (_, rest) => .ok rest

/-- Passes over an exponent, if there is one. -/
def skipExponentOrEnd : List Char → Except JsonError (List Char)
  | 'e' :: rest => skipExponent rest
  | 'E' :: rest => skipExponent rest
  | cs => .ok cs

/-- Passes over a number after its sign. -/
def skipNumber (cs : List Char) : Except JsonError (List Char) := do
  let rest ← match cs with
    | '0' :: rest =>
      match skipDigits rest with
      | (0, _) => .ok rest
      | _ => .error .malformed
    | _ =>
      match skipDigits cs with
      | (0, _) => .error .malformed
      | (_, rest) => .ok rest
  match rest with
  | '.' :: rest =>
    match skipDigits rest with
    | (0, _) => .error .malformed
    | (_, rest) => skipExponentOrEnd rest
  | rest => skipExponentOrEnd rest

mutual

/-- Passes over a value. -/
def skip? : Nat → List Char → Except JsonError (List Char)
  | 0, _ => .error .endsEarly
  | fuel + 1, cs =>
    match skipBlanks cs with
    | [] => .error .endsEarly
    | 'n' :: rest => word? ['u', 'l', 'l'] rest
    | 't' :: rest => word? ['r', 'u', 'e'] rest
    | 'f' :: rest => word? ['a', 'l', 's', 'e'] rest
    | '-' :: rest => skipNumber rest
    | '"' :: rest => skipText (rest.length + 1) rest
    | '[' :: rest => skipItems fuel true rest
    | '\x7b' :: rest => skipMembers fuel true rest
    | c :: rest => if c.isDigit then skipNumber (c :: rest) else .error .malformed

/-- Passes over the items of an array and its end. -/
def skipItems : Nat → Bool → List Char → Except JsonError (List Char)
  | 0, _, _ => .error .endsEarly
  | fuel + 1, first, cs => do
    let (more, rest) ← nextItem? first cs
    if more then
      let rest ← skip? fuel rest
      skipItems fuel false rest
    else return rest

/-- Passes over the members of an object and its end. -/
def skipMembers : Nat → Bool → List Char → Except JsonError (List Char)
  | 0, _, _ => .error .endsEarly
  | fuel + 1, first, cs => do
    let (more, rest) ← nextName? first cs
    if more then
      let rest ← skipText (rest.length + 1) rest
      let rest ← colon? rest
      let rest ← skip? fuel rest
      skipMembers fuel false rest
    else return rest

end

end Vigil.Json
