import Vigil.Pattern.CharClass
import Vigil.Unicode.Property

/-! # Properties by name

What a pattern may write after `\p`: a category, a script or a property of its own, or the name of a
property, a sign and a value. Names are compared without case, blanks, underscores and hyphens, and a
leading `is` does not count. -/

namespace Vigil.Pattern

open Vigil.Text Vigil.Unicode

/-- A name as it is compared. -/
def normalName (name : List Char) : String :=
  let start := (name.take 2).map asciiLower == ['i', 's']
  let kept := ((if start then name.drop 2 else name).filter fun c =>
    c.toNat < 128 && c != ' ' && c != '_' && c != '-').map asciiLower
  if start && kept == ['c'] then "isc" else String.ofList kept

/-- The names of each general category and the codes it covers. -/
def categoryNames : List (List String × List String) := [
  (["c", "other"], ["Cc", "Cf", "Cn", "Co"]),
  (["cc", "control", "cntrl"], ["Cc"]),
  (["cf", "format"], ["Cf"]),
  (["cn", "unassigned"], ["Cn"]),
  (["co", "privateuse"], ["Co"]),
  (["l", "letter"], ["Lu", "Ll", "Lt", "Lm", "Lo"]),
  (["lc", "casedletter"], ["Lu", "Ll", "Lt"]),
  (["ll", "lowercaseletter"], ["Ll"]),
  (["lm", "modifierletter"], ["Lm"]),
  (["lo", "otherletter"], ["Lo"]),
  (["lt", "titlecaseletter"], ["Lt"]),
  (["lu", "uppercaseletter"], ["Lu"]),
  (["m", "mark", "combiningmark"], ["Mn", "Mc", "Me"]),
  (["mc", "spacingmark"], ["Mc"]),
  (["me", "enclosingmark"], ["Me"]),
  (["mn", "nonspacingmark"], ["Mn"]),
  (["n", "number"], ["Nd", "Nl", "No"]),
  (["nd", "decimalnumber", "digit"], ["Nd"]),
  (["nl", "letternumber"], ["Nl"]),
  (["no", "othernumber"], ["No"]),
  (["p", "punctuation", "punct"], ["Pc", "Pd", "Ps", "Pe", "Pi", "Pf", "Po"]),
  (["pc", "connectorpunctuation"], ["Pc"]),
  (["pd", "dashpunctuation"], ["Pd"]),
  (["pe", "closepunctuation"], ["Pe"]),
  (["pf", "finalpunctuation"], ["Pf"]),
  (["pi", "initialpunctuation"], ["Pi"]),
  (["po", "otherpunctuation"], ["Po"]),
  (["ps", "openpunctuation"], ["Ps"]),
  (["s", "symbol"], ["Sm", "Sc", "Sk", "So"]),
  (["sc", "currencysymbol"], ["Sc"]),
  (["sk", "modifiersymbol"], ["Sk"]),
  (["sm", "mathsymbol"], ["Sm"]),
  (["so", "othersymbol"], ["So"]),
  (["z", "separator"], ["Zs", "Zl", "Zp"]),
  (["zl", "lineseparator"], ["Zl"]),
  (["zp", "paragraphseparator"], ["Zp"]),
  (["zs", "spaceseparator"], ["Zs"])]

/-- The versions of the character set, the oldest first. -/
def versions : List String := ["1.1", "2.0", "2.1", "3.0", "3.1", "3.2", "4.0", "4.1", "5.0", "5.1",
  "5.2", "6.0", "6.1", "6.2", "6.3", "7.0", "8.0", "9.0", "10.0", "11.0", "12.0", "12.1", "13.0",
  "14.0", "15.0", "15.1", "16.0"]

/-- The class of a general category. -/
def categoryClass? (name : String) : Option CharClass :=
  match name with
  | "any" => some .everything
  | "assigned" => some (.complement (.categories ["Cn"]))
  | "ascii" => some (.range (Char.ofNat 0) (Char.ofNat 127))
  | _ => (categoryNames.find? fun (names, _) => names.contains name).map fun (_, codes) =>
      .categories codes

/-- The code of a script. -/
def scriptCode? (name : String) : Option String :=
  (scriptNames.find? fun (code, names) =>
    code != "Zzzz" && code != "Hrkt" &&
      (normalName code.toList == name || names.any fun n => normalName n.toList == name)).map (·.1)

/-- The class of a property that a character has or lacks. -/
def binaryClass? (name : String) : Option CharClass :=
  (binaryProperties.find? fun (names, _) => names.contains name).map fun (_, text) =>
    .ranges (.parse text)

/-- The class of a name by itself: a property, a category or a script, in this order, except that three
short names of properties mean categories. -/
def namedClass? (name : String) : Option CharClass :=
  let property :=
    if name == "cf" || name == "sc" || name == "lc" then none else binaryClass? name
  match property, categoryClass? name, scriptCode? name with
  | some c, _, _ => some c
  | none, some c, _ => some c
  | none, none, code => code.map .script

/-- The characters assigned up to a version. -/
def ageClass? (value : String) : Option CharClass :=
  let spellings (v : String) : List String := [v, "v" ++ v.replace "." ""]
  (versions.findIdx? fun v => (spellings v).contains value).map fun i => .ages (versions.take (i + 1))

/-- The class of a property with a value. -/
def valueClass? (property value : String) : Option CharClass :=
  if ["gc", "generalcategory", "category"].contains property then categoryClass? value
  else if ["sc", "script"].contains property then (scriptCode? value).map .script
  else if ["scx", "scriptextensions"].contains property then (scriptCode? value).map .scriptExtension
  else if property == "age" then ageClass? value
  else none

/-- Splits a text at the first place where `sign` stands. -/
def splitAtSign (sign : List Char) : List Char → Option (List Char × List Char)
  | [] => none
  | c :: rest =>
    if sign.isPrefixOf (c :: rest) then some ([], (c :: rest).drop sign.length)
    else (splitAtSign sign rest).map fun (before, after) => (c :: before, after)

/-- The class of what stands between the braces, and whether the sign there takes its complement. -/
def propertyClass? (content : List Char) : Option (CharClass × Bool) :=
  match splitAtSign ['!', '='] content, splitAtSign [':'] content, splitAtSign ['='] content with
  | some (p, v), _, _ => (valueClass? (normalName p) (normalName v)).map (·, true)
  | none, some (p, v), _ => (valueClass? (normalName p) (normalName v)).map (·, false)
  | none, none, some (p, v) => (valueClass? (normalName p) (normalName v)).map (·, false)
  | none, none, none => (namedClass? (normalName content)).map (·, false)

end Vigil.Pattern
