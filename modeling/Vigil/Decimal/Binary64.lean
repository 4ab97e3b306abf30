/-! # Binary floating point

A number of double precision is its 64 bits: sign, eleven bits of exponent and 52 bits of fraction. Every
finite one is a whole number times a power of two, and results are computed exactly and rounded once, a
half to the even neighbour (`ofRatio`). `equal` is numerical equality: a value that is not a number
equals nothing, and the two zeros equal each other. -/

namespace Vigil.Decimal

/-- A floating point number of double precision. -/
structure Binary64 where
  bits : UInt64
deriving DecidableEq, Inhabited

namespace Binary64

/-! ### Parts -/

/-- The sign bit. -/
def negative (x : Binary64) : Bool := x.bits.toNat / Nat.pow 2 63 == 1

/-- The exponent as it is stored. -/
def exponentField (x : Binary64) : Nat := x.bits.toNat / Nat.pow 2 52 % 2048

/-- The bits after the point. -/
def fraction (x : Binary64) : Nat := x.bits.toNat % Nat.pow 2 52

/-- Not a number. -/
def isNaN (x : Binary64) : Bool := x.exponentField == 2047 && x.fraction != 0

/-- One of the two infinities. -/
def isInfinite (x : Binary64) : Bool := x.exponentField == 2047 && x.fraction == 0

/-- Neither infinite nor not a number. -/
def isFinite (x : Binary64) : Bool := x.exponentField != 2047

/-- One of the two zeros. -/
def isZero (x : Binary64) : Bool := x.exponentField == 0 && x.fraction == 0

/-- The whole number `m` in the size `m * 2 ^ q` of a finite number. -/
def significand (x : Binary64) : Nat :=
  if x.exponentField = 0 then x.fraction else Nat.pow 2 52 + x.fraction

/-- The power `q` in the size `m * 2 ^ q` of a finite number. -/
def power (x : Binary64) : Int := max 1 (x.exponentField : Int) - 1075

/-- Numerical equality. -/
def equal (x y : Binary64) : Bool :=
  !x.isNaN && !y.isNaN && (x.bits == y.bits || (x.isZero && y.isZero))

/-! ### Rounding -/

/-- The quotient rounded to a whole number, a half to the even one. -/
def roundHalfEven (num den : Nat) : Nat :=
  let q := num / den
  let r := num % den
  if den < 2 * r || (2 * r == den && q % 2 == 1) then q + 1 else q

/-- Puts a sign before the bits of a size. -/
def signed (negative : Bool) (size : Nat) : Binary64 :=
  ⟨UInt64.ofNat (if negative then Nat.pow 2 63 + size else size)⟩

/-- The size of infinity. -/
def infinitySize : Nat := 2047 * Nat.pow 2 52

/-- The quotient `num / den * 2 ^ (-q)` as a quotient of whole numbers. -/
def scaled (num den : Nat) (q : Int) : Nat × Nat :=
  if 0 ≤ q then (num, den * Nat.pow 2 q.toNat) else (num * Nat.pow 2 (-q).toNat, den)

/-- The number nearest to a quotient; infinite when the quotient is too large. -/
def ofRatio (negative : Bool) (num den : Nat) : Binary64 :=
  if num = 0 ∨ den = 0 then signed negative 0
  else
    let guess : Int := max (-1074) ((num.log2 : Int) - den.log2 - 53)
    let (n, d) := scaled num den guess
    let q := if Nat.pow 2 53 ≤ n / d then guess + 1 else guess
    let (n, d) := scaled num den q
    let size := (q + 1074).toNat * Nat.pow 2 52 + roundHalfEven n d
    signed negative (min size infinitySize)

/-- The number nearest to a whole number. -/
def ofNat (n : Nat) : Binary64 := ofRatio false n 1

/-- The size of a finite number as a quotient. -/
def ratio (x : Binary64) : Nat × Nat :=
  if 0 ≤ x.power then (x.significand * Nat.pow 2 x.power.toNat, 1)
  else (x.significand, Nat.pow 2 (-x.power).toNat)

/-- The product of two finite numbers. -/
def mul (x y : Binary64) : Binary64 :=
  ofRatio (x.negative != y.negative) (x.ratio.1 * y.ratio.1) (x.ratio.2 * y.ratio.2)

/-- The quotient of two finite numbers, the second of which is not zero. -/
def div (x y : Binary64) : Binary64 :=
  ofRatio (x.negative != y.negative) (x.ratio.1 * y.ratio.2) (x.ratio.2 * y.ratio.1)

/-- The number with the other sign. -/
def neg (x : Binary64) : Binary64 := signed (!x.negative) (x.bits.toNat % Nat.pow 2 63)

/-- The number nearest to `digits * 10 ^ exponent`. Exponents far outside the range give infinity or
zero without computing the power. -/
def ofDecimal (negative : Bool) (digits : Nat) (exponent : Int) : Binary64 :=
  if digits = 0 then signed negative 0
  else if 310 < exponent then signed negative infinitySize
  else if exponent < -350 - (digits.log2 : Int) then signed negative 0
  else if 0 ≤ exponent then ofRatio negative (digits * Nat.pow 10 exponent.toNat) 1
  else ofRatio negative digits (Nat.pow 10 (-exponent).toNat)

/-- The value that is not a number. -/
def nan : Binary64 := ⟨0x7FF8000000000000⟩

/-- Infinity of either sign. -/
def infinity (negative : Bool) : Binary64 := signed negative infinitySize

end Binary64

end Vigil.Decimal
