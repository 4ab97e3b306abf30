import Vigil.Text.Character
import Vigil.Unicode.GraphemeExtend

/-! # Quoted text

A text between double quotes on one line: quotes, backslashes, the usual control characters and the null
character are escaped by a letter, and every other character that is not printable or that combines with
the one before it by its number in hexadecimal. -/

namespace Vigil.Text

/-- The digits of a number in hexadecimal, in small letters. -/
def hexDigits (n : Nat) : List Char := Nat.toDigits 16 n

/-- Characters that combine with the one before them. -/
def extendsGrapheme (c : Char) : Bool :=
  128 ≤ c.toNat && Vigil.Unicode.graphemeExtendRanges.contains c.toNat

/-- A character as it is written between quotes. -/
def quoteChar (c : Char) : List Char :=
  if c = '"' then ['\\', '"']
  else if c = '\\' then ['\\', '\\']
  else if c = '\n' then ['\\', 'n']
  else if c = '\t' then ['\\', 't']
  else if c = '\r' then ['\\', 'r']
  else if c.toNat = 0 then ['\\', '0']
  else if extendsGrapheme c || !isPrintable c then
    ['\\', 'u', '\x7b'] ++ hexDigits c.toNat ++ ['\x7d']
  else [c]

/-- A text between double quotes. -/
def quote (cs : List Char) : List Char := '"' :: (cs.flatMap quoteChar ++ ['"'])

/-- A text between double quotes. -/
def quoted (s : String) : String := String.ofList (quote s.toList)

end Vigil.Text
