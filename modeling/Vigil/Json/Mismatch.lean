import Vigil.Json.Reader

/-! # JSON of the wrong shape

The message for a value that is not of the kind asked for names the kind that is there. Arrays and objects
are not read for it. -/

namespace Vigil.Json

open Vigil.Text

/-- A number with its kind. -/
def describeKind : JsonNumber → String
  | .float f => "floating point \x60" ++ JsonNumber.style.render f ++ "\x60"
  | n => "integer \x60" ++ n.render ++ "\x60"

/-- The kind of the value that comes next, with the value if it has no parts. -/
def nextKind? (cs : List Char) : Except JsonError String :=
  match cs with
  | [] => .error .endsEarly
  | 'n' :: rest => (word? ['u', 'l', 'l'] rest).map fun _ => "null"
  | 't' :: rest => (word? ['r', 'u', 'e'] rest).map fun _ => "boolean \x60true\x60"
  | 'f' :: rest => (word? ['a', 'l', 's', 'e'] rest).map fun _ => "boolean \x60false\x60"
  | '-' :: rest => (number? true rest).map fun (n, _) => describeKind n
  | '"' :: rest => (text? rest).map fun (s, _) => "string " ++ quoted s
  | '[' :: _ => .ok "sequence"
  | '\x7b' :: _ => .ok "map"
  | c :: rest =>
    if c.isDigit then (number? false (c :: rest)).map fun (n, _) => describeKind n
    else .error .malformed

/-- The error for a value that is not what is asked for. -/
def mismatch (expected : String) (cs : List Char) : JsonError :=
  match nextKind? cs with
  | .ok kind => .mismatch ("invalid type: " ++ kind ++ ", expected " ++ expected)
  | .error e => e

end Vigil.Json
