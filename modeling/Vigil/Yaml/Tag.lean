import Vigil.Yaml.Token

/-! # Tags, anchors and directives

A tag is written `!<name>`, or as a handle and a suffix: the handle stands for the beginning of a name, as a
directive says. Names may hold characters as percent signs with the bytes of their encoding. -/

namespace Vigil.Yaml

open Vigil.Text

/-! ### Names -/

/-- Reads the name of an anchor after its sign. -/
def anchorName? (p : Cursor) : Option (String × Cursor) :=
  let name := p.takeWhile isNameCharacter
  let p := p.drop name.length
  let ends := p.atGap || p.next?.any fun c => "?:,]\x7d%@\x60".toList.contains c
  if !name.isEmpty && ends then some (String.ofList name, p) else none

/-- Reads a percent sign and the two digits of a byte. -/
def percentByte? : List Char → Option (Nat × List Char)
  | '%' :: c :: d :: rest =>
    if isHexDigit c && isHexDigit d then some (hexValue [c, d], rest) else none
  | _ => none

/-- Reads `n` further bytes of the encoding of a character. -/
def percentBytesFrom (value : Nat) : Nat → List Char → Option (Char × List Char)
  | 0, cs => some (Char.ofNat value, cs)
  | n + 1, cs => do
    let (byte, rest) ← percentByte? cs
    if byte / 64 = 2 then percentBytesFrom (value * 64 + byte % 64) n rest else none

/-- Reads a character that is written as the bytes of its encoding. -/
def percentCharacter? (cs : List Char) : Option (Char × List Char) := do
  let (byte, rest) ← percentByte? cs
  if byte < 0x80 then percentBytesFrom byte 0 rest
  else if 0xC0 ≤ byte ∧ byte < 0xE0 then percentBytesFrom (byte % 32) 1 rest
  else if 0xE0 ≤ byte ∧ byte < 0xF0 then percentBytesFrom (byte % 16) 2 rest
  else if 0xF0 ≤ byte ∧ byte < 0xF8 then percentBytesFrom (byte % 8) 3 rest
  else none

/-- Characters of the names of tags. -/
def isTagCharacter (verbatim : Bool) (c : Char) : Bool :=
  isNameCharacter c || ";/?:@&=+$.!~*'()".toList.contains c ||
    (verbatim && (c == ',' || c == '[' || c == ']'))

/-- Reads the name of a tag; `before` holds its characters so far, the last first. -/
def tagNameFrom (verbatim : Bool) : Nat → List Char → Cursor → Option Reading
  | 0, _, _ => none
  | fuel + 1, before, p =>
    match p.rest with
    | [] => some (before.reverse, p)
    | c :: _ =>
      if c == '%' then do
        let (d, rest) ← percentCharacter? p.rest
        tagNameFrom verbatim fuel (d :: before) (p.drop (p.rest.length - rest.length))
      else if isTagCharacter verbatim c then tagNameFrom verbatim fuel (c :: before) (p.drop 1)
      else some (before.reverse, p)

/-- Reads the name of a tag. -/
def tagName? (verbatim : Bool) (p : Cursor) : Option Reading := tagNameFrom verbatim p.fuel [] p

/-- Reads a handle: an exclamation mark, and a name up to another one if there is one. -/
def tagHandle? (p : Cursor) : Option Reading :=
  if p.startsWith '!' then
    let name := (p.drop 1).takeWhile isNameCharacter
    let p := p.drop (name.length + 1)
    if p.startsWith '!' then some ('!' :: name ++ ['!'], p.drop 1) else some ('!' :: name, p)
  else none

/-! ### Tags -/

/-- Reads a tag without looking at what follows it. -/
def bareTag? (p : Cursor) : Option (Token × Cursor) :=
  if (p.drop 1).startsWith '<' then do
    let (name, p) ← tagName? true (p.drop 2)
    if !name.isEmpty && p.startsWith '>' then some (.tag "" (String.ofList name), p.drop 1) else none
  else do
    let (handle, p) ← tagHandle? p
    let (suffix, p) ← tagName? false p
    if 1 < handle.length && handle.getLast? == some '!' then
      if suffix.isEmpty then none
      else some (.tag (String.ofList handle) (String.ofList suffix), p)
    else
      let suffix := handle.drop 1 ++ suffix
      if suffix.isEmpty then some (.tag "" "!", p) else some (.tag "!" (String.ofList suffix), p)

/-- Reads a tag. A gap has to follow it, or a comma inside brackets. -/
def tag? (inFlow : Bool) (p : Cursor) : Option (Token × Cursor) := do
  let (t, p) ← bareTag? p
  if p.atGap || (inFlow && p.startsWith ',') then some (t, p) else none

/-! ### Directives -/

/-- The greatest number of digits in a version. -/
def versionDigits : Nat := 9

/-- Reads a number of a version. -/
def versionNumber? (p : Cursor) : Option (Nat × Cursor) :=
  let digits := p.takeWhile Char.isDigit
  if digits.isEmpty || versionDigits < digits.length then none
  else some (decimalValue digits, p.drop digits.length)

/-- Reads the two numbers of a version. -/
def version? (p : Cursor) : Option (Token × Cursor) := do
  let (major, p) ← versionNumber? (p.dropWhile isBlank)
  if p.startsWith '.' then
    let (minor, p) ← versionNumber? (p.drop 1)
    some (.version major minor, p)
  else none

/-- Reads a handle of tags and what it stands for. -/
def tagHandleRule? (p : Cursor) : Option (Token × Cursor) := do
  let (handle, p) ← tagHandle? (p.dropWhile isBlank)
  if handle != ['!'] && (handle.length == 1 || handle.getLast? != some '!') then none
  else if !p.atBlank then none
  else
    let (target, p) ← tagName? true (p.dropWhile isBlank)
    if !target.isEmpty && p.atGap then
      some (.tagHandle (String.ofList handle) (String.ofList target), p)
    else none

/-- Reads a directive, with the line break after it. -/
def directive? (p : Cursor) : Option (Token × Cursor) := do
  let name := (p.drop 1).takeWhile isNameCharacter
  let p := p.drop (name.length + 1)
  let (t, p) ←
    if !p.atGap then none
    else if name == "YAML".toList then version? p
    else if name == "TAG".toList then tagHandleRule? p
    else none
  let p := p.dropWhile isBlank
  let p := if p.startsWith '#' then p.dropWhile fun c => !isBreak c else p
  if p.rest.isEmpty || p.atBreak then some (t, p.nextLine) else none

end Vigil.Yaml
