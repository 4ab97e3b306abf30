import Vigil.Decimal.Binary64

/-! # The shortest decimal text of a number

A finite number is written with the fewest digits that are read back as the same number, and among those
with the digits nearest to it. `shortest` finds them: for one digit, two digits, and so on it looks at the
two neighbours of the number on the grid with that many digits and takes the first that lies in the
interval of reals that round to the number. A `DecimalStyle` then says where the point goes and when a power
of ten is split off. -/

namespace Vigil.Decimal

/-- The decimal digits of a number, the highest first. -/
def natDigits (n : Nat) : List Char := Nat.toDigits 10 n

/-- A positive number `0.d₁d₂… * 10 ^ point`. -/
structure Digits where
  digits : List Char
  point : Int
deriving Inhabited

/-- Powers of ten with any exponent as a quotient. -/
def tenTo (e : Int) : Nat × Nat :=
  if 0 ≤ e then (Nat.pow 10 e.toNat, 1) else (1, Nat.pow 10 (-e).toNat)

/-- The least `p` with `num / den < 10 ^ p`, searched upwards from a lower bound. -/
def pointOf (num den : Nat) : Nat → Int → Int
  | 0, p => p
  | fuel + 1, p =>
    let (a, b) := tenTo p
    if num * b < den * a then p else pointOf num den fuel (p + 1)

/-- The two ends of the reals that round to `m * 2 ^ q`, as whole multiples of `2 ^ (q - 2)`. -/
def roundingInterval (m : Nat) (lowest : Bool) : Nat × Nat :=
  (if m == Nat.pow 2 52 && !lowest then 4 * m - 1 else 4 * m - 2, 4 * m + 2)

/-- Removes the zeros at the end of the digits. -/
def Digits.normal (d : Digits) : Digits :=
  { d with digits := (d.digits.reverse.dropWhile (· == '0')).reverse }

/-- Tries one digit, then two, and so on; `low` and `high` bound the interval over `den`, its ends
belonging to it when `closed`. -/
def shortestFrom (num den low high : Nat) (closed : Bool) (point : Int) : Nat → Nat → Digits
  | 0, n =>
    let (a, b) := tenTo (point - n)
    ⟨natDigits (num * b / (den * a)), point⟩
  | fuel + 1, n =>
    let (a, b) := tenTo (point - n)
    let below := num * b / (den * a)
    let inside (c : Nat) : Bool :=
      if closed then low * b ≤ c * a * den && c * a * den ≤ high * b
      else low * b < c * a * den && c * a * den < high * b
    let place (c : Nat) : Digits :=
      let ds := natDigits c
      ⟨ds, point - n + ds.length⟩
    let distanceBelow := num * b - below * a * den
    let distanceAbove := (below + 1) * a * den - num * b
    match inside below && below != 0, inside (below + 1) with
    | true, true =>
      if distanceBelow < distanceAbove || (distanceBelow == distanceAbove && below % 2 == 0) then
        place below
      else place (below + 1)
    | true, false => place below
    | false, true => place (below + 1)
    | false, false => shortestFrom num den low high closed point fuel (n + 1)

/-- The fewest digits that read back as a finite number other than zero. -/
def shortest (x : Binary64) : Digits :=
  let m := x.significand
  let q := x.power - 2
  let (low, high) := roundingInterval m (x.exponentField ≤ 1)
  let (a, b) := if 0 ≤ q then (Nat.pow 2 q.toNat, 1) else (1, Nat.pow 2 (-q).toNat)
  let num := 4 * m * a
  let start : Int := ((num.log2 : Int) - b.log2 - 1) * 30103 / 100000 - 1
  let point := pointOf num b 8 start
  (shortestFrom num b (low * a) (high * a) (m % 2 == 0) point 17 1).normal

/-- How numbers are written: the positions of the point for which no power of ten is split off, and the
texts of what is not finite. -/
structure DecimalStyle where
  leastPoint : Int
  greatestPoint : Int
deriving Inhabited

/-- Digits with the point among them, with a zero on either side of it where no digit stands. -/
def Digits.positional (d : Digits) : List Char :=
  let n := d.digits.length
  if d.point ≤ 0 then '0' :: '.' :: (List.replicate (-d.point).toNat '0' ++ d.digits)
  else if (n : Int) ≤ d.point then d.digits ++ List.replicate (d.point.toNat - n) '0' ++ ['.', '0']
  else d.digits.take d.point.toNat ++ '.' :: d.digits.drop d.point.toNat

/-- Digits with the point after the first and the power of ten split off. -/
def Digits.scientific (d : Digits) : List Char :=
  let e := d.point - 1
  let exponent := 'e' :: (if e < 0 then '-' :: natDigits (-e).toNat else natDigits e.toNat)
  match d.digits with
  | first :: second :: rest => first :: '.' :: second :: rest ++ exponent
  | ds => ds ++ exponent

/-- The text of a number. -/
def DecimalStyle.render (style : DecimalStyle) (x : Binary64) : String :=
  if x.isNaN then "NaN"
  else
    let size :=
      if x.isInfinite then "inf".toList
      else if x.isZero then "0.0".toList
      else
        let d := shortest x
        if style.leastPoint ≤ d.point && d.point ≤ style.greatestPoint then d.positional
        else d.scientific
    String.ofList (if x.negative then '-' :: size else size)

end Vigil.Decimal
