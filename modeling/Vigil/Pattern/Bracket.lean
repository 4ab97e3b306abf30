import Vigil.Pattern.PropertyName

/-! # Classes in brackets

What stands between square brackets: characters, ranges, named classes and nested brackets, joined by
`&&`, `--` and `~~`, which associate to the left and bind weaker than listing. `Bracket.read?` works on
signs: an escaped character is a sign that only stands for itself, while a plain one may delimit. When
case does not count, each bracket and each operand is closed under folding before it is complemented or
joined. -/

namespace Vigil.Pattern

/-- What a bracket is written with. -/
inductive Sign
  | plain (c : Char)
  | escaped (c : Char)
  | class (s : CharClass)

namespace Bracket

/-- The operators between operands. -/
inductive Operator
  | intersection
  | difference
  | symmetricDifference

/-- The class that an operator makes of two. -/
def Operator.apply : Operator → CharClass → CharClass → CharClass
  | .intersection => .intersection
  | .difference => .difference
  | .symmetricDifference => .symmetricDifference

/-- An open bracket: whether it begins with `^`, the operand before the last operator, and what has been
listed since. -/
structure Level where
  negated : Bool
  left : Option (Operator × CharClass) := none
  listed : CharClass := .nothing

/-- The classes of ASCII characters that have a name. -/
def asciiClasses : List (String × List (Char × Char)) := [
  ("alnum", [('0', '9'), ('A', 'Z'), ('a', 'z')]),
  ("alpha", [('A', 'Z'), ('a', 'z')]),
  ("ascii", [('\x00', '\x7F')]),
  ("blank", [('\t', '\t'), (' ', ' ')]),
  ("cntrl", [('\x00', '\x1F'), ('\x7F', '\x7F')]),
  ("digit", [('0', '9')]),
  ("graph", [('!', '~')]),
  ("lower", [('a', 'z')]),
  ("print", [(' ', '~')]),
  ("punct", [('!', '/'), (':', '@'), ('[', '\x60'), ('\x7b', '~')]),
  ("space", [('\t', '\r'), (' ', ' ')]),
  ("upper", [('A', 'Z')]),
  ("word", [('0', '9'), ('A', 'Z'), ('_', '_'), ('a', 'z')]),
  ("xdigit", [('0', '9'), ('A', 'F'), ('a', 'f')])]

/-- The union of ranges. -/
def ofRanges (rs : List (Char × Char)) : CharClass :=
  .unionAll (rs.map fun (first, last) => .range first last)

/-- The characters up to the next colon and the signs from there on; escapes do not occur in a name. -/
def readName : List Sign → Option (List Char × List Sign)
  | [] => none
  | .plain ':' :: rest => some ([], .plain ':' :: rest)
  | .plain c :: rest => (readName rest).map fun (name, after) => (c :: name, after)
  | _ :: _ => none

/-- Reads what follows the bracket in `[:name:]` or `[:^name:]`. -/
def readNamed (fold : Bool) (signs : List Sign) : Option (CharClass × List Sign) :=
  let (negated, signs) := match signs with
    | .plain ':' :: .plain '^' :: rest => (true, some rest)
    | .plain ':' :: rest => (false, some rest)
    | _ => (false, none)
  match signs.bind readName with
  | some (name, .plain ':' :: .plain ']' :: rest) =>
    (asciiClasses.lookup (String.ofList name)).map fun ranges =>
      (.complementIf negated (.foldedIf fold (ofRanges ranges)), rest)
  | _ => none

/-- Opens a bracket: after `^`, hyphens stand for themselves, and so does a closing bracket that comes
first. -/
def openLevel (signs : List Sign) : Level × List Sign :=
  let (negated, signs) := match signs with
    | .plain '^' :: rest => (true, rest)
    | _ => (false, signs)
  let isHyphen : Sign → Bool
    | .plain '-' => true
    | _ => false
  match signs.takeWhile isHyphen, signs.dropWhile isHyphen with
  | [], .plain ']' :: rest => (⟨negated, none, .char ']'⟩, rest)
  | [], rest => (⟨negated, none, .nothing⟩, rest)
  | _ :: _, rest => (⟨negated, none, .char '-'⟩, rest)

/-- Adds a class to what is listed. -/
def Level.add (level : Level) (s : CharClass) : Level :=
  { level with listed := .union level.listed s }

/-- Applies the last operator. -/
def Level.joined (fold : Bool) (level : Level) : CharClass :=
  match level.left with
  | none => level.listed
  | some (o, left) => o.apply (.foldedIf fold left) (.foldedIf fold level.listed)

/-- The class of a bracket that closes. -/
def Level.close (fold : Bool) (level : Level) : CharClass :=
  .complementIf level.negated (.foldedIf fold (level.joined fold))

/-- Begins another operand. -/
def Level.operator (fold : Bool) (level : Level) (o : Operator) : Level :=
  { level with left := some (o, level.joined fold), listed := .nothing }

/-- The character that a sign stands for as the end of a range. -/
def Sign.char? : Sign → Option Char
  | .plain c => some c
  | .escaped c => some c
  | .class _ => none

/-- The class of a sign by itself. -/
def Sign.toClass : Sign → CharClass
  | .plain c => .char c
  | .escaped c => .char c
  | .class s => s

/-- Reads signs inside brackets, the innermost open one first, up to the one that closes the outermost;
what follows it is not looked at. The fuel bounds the number of steps. -/
def readFrom (fold : Bool) : Nat → List Level → List Sign → Option (CharClass × List Sign)
  | 0, _, _ => none
  | _ + 1, [], _ => none
  | _ + 1, _ :: _, [] => none
  | fuel + 1, level :: outer, first :: rest =>
    let listed (s : CharClass) := readFrom fold fuel (level.add s :: outer)
    let joined (o : Operator) := readFrom fold fuel (level.operator fold o :: outer)
    match first, rest with
    | .plain '[', _ =>
      match readNamed fold rest with
      | some (s, after) => listed s after
      | none =>
        let (inner, after) := openLevel rest
        readFrom fold fuel (inner :: level :: outer) after
    | .plain ']', _ =>
      match outer with
      | [] => some (level.close fold, rest)
      | parent :: others => readFrom fold fuel (parent.add (level.close fold) :: others) rest
    | .plain '&', .plain '&' :: after => joined .intersection after
    | .plain '-', .plain '-' :: after => joined .difference after
    | .plain '~', .plain '~' :: after => joined .symmetricDifference after
    | _, .plain '-' :: .plain ']' :: _ => listed (Sign.toClass first) rest
    | _, .plain '-' :: .plain '-' :: _ => listed (Sign.toClass first) rest
    | _, .plain '-' :: second :: after =>
      match Sign.char? first, Sign.char? second with
      | some a, some b => if a ≤ b then listed (.range a b) after else none
      | _, _ => none
    | _, _ => listed (Sign.toClass first) rest

/-- Reads the signs that follow an opening bracket, all of which belong to it. -/
def read? (fold : Bool) (signs : List Sign) : Option CharClass :=
  let (level, rest) := openLevel signs
  match readFrom fold (signs.length + 1) [level] rest with
  | some (s, []) => some s
  | _ => none

end Bracket

end Vigil.Pattern
