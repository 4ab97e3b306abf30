/-! # Digits

The numbers that digits denote: decimal digits are those of ASCII, and hexadecimal digits may be letters of
either case. Digits that a number does not need may stand before the others. -/

namespace Vigil.Text

/-- The value of a decimal digit. -/
def digitValue (c : Char) : Nat := c.toNat - '0'.toNat

/-- The number that decimal digits denote, the highest first. -/
def decimalValue (digits : List Char) : Nat := digits.foldl (fun n d => n * 10 + digitValue d) 0

/-- Hexadecimal digits. -/
def isHexDigit (c : Char) : Bool :=
  c.isDigit || ('a' ≤ c && c ≤ 'f') || ('A' ≤ c && c ≤ 'F')

/-- The value of a hexadecimal digit; other characters count as zero. -/
def hexDigitValue (c : Char) : Nat :=
  if c.isDigit then digitValue c
  else if 'A' ≤ c ∧ c ≤ 'F' then c.toNat - 'A'.toNat + 10
  else if 'a' ≤ c ∧ c ≤ 'f' then c.toNat - 'a'.toNat + 10
  else 0

/-- The number that hexadecimal digits denote, the highest first. -/
def hexValue (digits : List Char) : Nat :=
  digits.foldl (fun n d => n * 16 + hexDigitValue d) 0

end Vigil.Text
