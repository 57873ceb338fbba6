import CodeBehind.Number.Binary64

/-!
The shortest decimal text of a number.

`shortest` finds the fewest significant digits that still read back as the same number, and among
those the nearest. It tries the decimal grids from coarse to fine; on each grid only the two
neighbours of the number can lie inside the interval of reals that round to it. `decimalText` sets
the digits out, with an exponent where the number is very large or very small.
-/

namespace CodeBehind.Number

/-- A positive decimal number: `digits * 10 ^ exponent`. -/
structure Decimal where
  digits : Nat
  exponent : Int
deriving DecidableEq, Repr

/-- The reals that round to a number, scaled by `scale`: from `low` to `high` with the number itself
at `value`. The ends belong to it when `closed`. -/
structure RoundingInterval where
  scale : Nat
  low : Nat
  value : Nat
  high : Nat
  closed : Bool

/-- The reals that round to `mantissa * 2 ^ exponent`. Below a power of two the grid is twice as
fine. -/
def roundingInterval (mantissa : Nat) (exponent : Int) : RoundingInterval :=
  let shift := (2 - exponent).toNat
  let ulp := twoTo (exponent + shift).toNat
  let below := if mantissa = twoTo 52 ∧ Binary64.minExponent < exponent then ulp / 4 else ulp / 2
  { scale := twoTo shift
    low := mantissa * ulp - below
    value := mantissa * ulp
    high := mantissa * ulp + ulp / 2
    closed := mantissa % 2 == 0 }

/-- How many zeros follow the point before the first digit of `value / scale`, which is less than
one. -/
def leadingZeros (value scale : Nat) : Nat → Nat
  | 0 => 0
  | fuel + 1 => if value * 10 < scale then leadingZeros (value * 10) scale fuel + 1 else 0

/-- The place of the first digit of `value / scale`, counted from the point. -/
def leadingPlace (value scale : Nat) : Int :=
  if scale ≤ value then (Nat.toDigits 10 (value / scale)).length
  else -(leadingZeros value scale 400)

/-- The decimal number of the grid `10 ^ unit` nearest to the interval's number among those inside
the interval. -/
def onGrid? (i : RoundingInterval) (unit : Int) : Option Decimal :=
  let up := tenTo (-unit).toNat
  let down := i.scale * tenTo unit.toNat
  let inside (d : Nat) : Bool :=
    let x := d * down
    if i.closed then i.low * up ≤ x && x ≤ i.high * up else i.low * up < x && x < i.high * up
  let floor := i.value * up / down
  let below := i.value * up - floor * down
  let above := (floor + 1) * down - i.value * up
  let pick (d : Nat) : Option Decimal := some ⟨d, unit⟩
  match inside floor, inside (floor + 1) with
  | false, false => none
  | true, false => pick floor
  | false, true => pick (floor + 1)
  | true, true =>
    if below < above then pick floor
    else if above < below then pick (floor + 1)
    else pick (if floor % 2 = 0 then floor else floor + 1)

/-- The first of the next `fuel` grids, each ten times finer, that has a number to offer. -/
def firstGrid? (i : RoundingInterval) (unit : Int) : Nat → Option Decimal
  | 0 => none
  | fuel + 1 =>
    match onGrid? i unit with
    | some d => some d
    | none => firstGrid? i (unit - 1) fuel

/-- The shortest decimal that reads back as the positive number `mantissa * 2 ^ exponent`. -/
def shortest (mantissa : Nat) (exponent : Int) : Decimal :=
  let i := roundingInterval mantissa exponent
  (firstGrid? i (leadingPlace i.value i.scale - 1) 17).getD ⟨0, 0⟩

def dropZeros (ds : List Char) : List Char :=
  (ds.reverse.dropWhile (· == '0')).reverse

def exponentText (e : Int) : List Char :=
  (if e < 0 then '-' else '+') ::
    (if e.natAbs < 10 then ['0'] else []) ++ Nat.toDigits 10 e.natAbs

/-- Sets out a decimal number: with a point from `0.0001` up to sixteen places before the point, and
with one digit before the point and an exponent beyond. -/
def decimalText (d : Decimal) : List Char :=
  let all := Nat.toDigits 10 d.digits
  let place := (all.length : Int) + d.exponent
  let ds := dropZeros all
  if place ≤ -4 ∨ 16 < place then
    ds.take 1 ++ (if ds.length ≤ 1 then [] else '.' :: ds.drop 1) ++
      'e' :: exponentText (place - 1)
  else if place ≤ 0 then
    '0' :: '.' :: List.replicate (-place).toNat '0' ++ ds
  else
    let whole := place.toNat
    ds.take whole ++ List.replicate (whole - ds.length) '0' ++
      '.' :: (if ds.length ≤ whole then ['0'] else ds.drop whole)

def Binary64.text : Binary64 → List Char
  | .nan => "nan".toList
  | .infinite negative => (if negative then "-inf" else "inf").toList
  | .finite negative mantissa exponent =>
    (if negative then ['-'] else []) ++
      (if mantissa = 0 then "0.0".toList else decimalText (shortest mantissa exponent))

end CodeBehind.Number
