import Vigil.Unicode.Alphabetic
import Vigil.Unicode.Numeric
import Vigil.Unicode.DecimalDigit
import Vigil.Unicode.WordCharacter
import Vigil.Unicode.Category

/-! # Classes of characters

The classes that names, blanks and patterns are made of. Each is decided at once for an ASCII character
and by its table for all others. `trim` removes the blanks around a text; what it leaves neither starts
nor ends with one. -/

namespace Vigil.Text

open Vigil.Unicode

/-- Blanks: the characters with the property White_Space. -/
def isBlank (c : Char) : Bool :=
  let n := c.toNat
  (9 ≤ n && n ≤ 13) || n == 32 || n == 0x85 || n == 0xA0 || n == 0x1680 ||
    (0x2000 ≤ n && n ≤ 0x200A) || n == 0x2028 || n == 0x2029 || n == 0x202F || n == 0x205F ||
    n == 0x3000

/-- Characters with the property Alphabetic. -/
def isAlphabetic (c : Char) : Bool :=
  if c.toNat < 128 then c.isAlpha else alphabeticRanges.contains c.toNat

/-- Digits and other numbers of any script. -/
def isNumeric (c : Char) : Bool :=
  if c.toNat < 128 then c.isDigit else numericRanges.contains c.toNat

/-- Alphabetic characters and numbers. -/
def isAlphanumeric (c : Char) : Bool := isAlphabetic c || isNumeric c

/-- Digits of the decimal systems of all scripts. -/
def isDecimalDigit (c : Char) : Bool :=
  if c.toNat < 128 then c.isDigit else decimalDigitRanges.contains c.toNat

/-- Characters that words consist of. -/
def isWordCharacter (c : Char) : Bool :=
  if c.toNat < 128 then c.isAlphanum || c == '_' else wordRanges.contains c.toNat

/-- Characters shown as themselves: assigned, not reserved for private use, and neither a control, a
format character nor a separator other than the space. -/
def isPrintable (c : Char) : Bool :=
  if c.toNat < 128 then 32 ≤ c.toNat && c.toNat < 127
  else !((generalCategory c.toNat).startsWith "C" || (generalCategory c.toNat).startsWith "Z")

/-- Removes the blanks around a text. -/
def trim (cs : List Char) : List Char :=
  ((cs.dropWhile isBlank).reverse.dropWhile isBlank).reverse

end Vigil.Text
