/-!
Binary floating point.

Numbers with a fraction are kept in the 64-bit binary format, as an exact mantissa and exponent, so
that reading and writing them is arithmetic on natural numbers. `ofRatio` rounds a quotient to the
nearest number of the format, an exact half to the even mantissa.
-/

namespace CodeBehind.Number

/-- A number of the format: `± mantissa * 2 ^ exponent`, an infinity, or no number at all. -/
inductive Binary64 where
  | finite (negative : Bool) (mantissa : Nat) (exponent : Int)
  | infinite (negative : Bool)
  | nan
deriving DecidableEq, Repr, BEq, Inhabited

def twoTo (n : Nat) : Nat :=
  Nat.pow 2 n

def tenTo (n : Nat) : Nat :=
  Nat.pow 10 n

namespace Binary64

def minExponent : Int := -1074

def maxExponent : Int := 971

def zero (negative : Bool) : Binary64 :=
  .finite negative 0 minExponent

/-- The quotient of two naturals rounded to the nearest, an exact half to the even one. -/
def roundDiv (num den : Nat) : Nat :=
  let q := num / den
  let r := num % den
  if 2 * r < den then q
  else if den < 2 * r then q + 1
  else if q % 2 = 0 then q else q + 1

/-- `num / den` divided by `2 ^ e` and rounded to the nearest. -/
def mantissaAt (num den : Nat) (e : Int) : Nat :=
  if 0 ≤ e then roundDiv num (den * twoTo e.toNat) else roundDiv (num * twoTo (-e).toNat) den

/-- `2 ^ 53 ≤ num / (den * 2 ^ e)`, without rounding. -/
def exceeds (num den : Nat) (e : Int) : Bool :=
  if 0 ≤ e then den * twoTo e.toNat * twoTo 53 ≤ num
  else den * twoTo 53 ≤ num * twoTo (-e).toNat

/-- The exponent in which the mantissa of `num / den` has 53 bits, or the least one. -/
def exponentFor (num den : Nat) : Int :=
  let guess : Int := (num.log2 : Int) - (den.log2 : Int) - 53
  let e := if exceeds num den guess then guess + 1 else guess
  let e := if exceeds num den e then e + 1 else e
  max e minExponent

/-- The number nearest to `± num / den`, for a positive `den`. -/
def ofRatio (negative : Bool) (num den : Nat) : Binary64 :=
  if num = 0 then zero negative
  else
    let e := exponentFor num den
    let m := mantissaAt num den e
    let (m, e) := if m = twoTo 53 then (twoTo 52, e + 1) else (m, e)
    if maxExponent < e then .infinite negative
    else if m = 0 then zero negative
    else .finite negative m e

/-- The number nearest to `± digits * 10 ^ exponent`. Exponents far outside the format are decided
by size alone. -/
def ofDecimal (negative : Bool) (digits : Nat) (exponent : Int) : Binary64 :=
  let magnitude := ((Nat.toDigits 10 digits).length : Int) + exponent
  if digits = 0 ∨ magnitude < -400 then zero negative
  else if 400 < magnitude then .infinite negative
  else if 0 ≤ exponent then ofRatio negative (digits * tenTo exponent.toNat) 1
  else ofRatio negative digits (tenTo (-exponent).toNat)

/-- The number as a quotient of an integer and a positive natural, if it is finite. -/
def ratio? : Binary64 → Option (Int × Nat)
  | .finite negative m e =>
    let n : Int := if negative then -m else m
    some (if 0 ≤ e then (n * twoTo e.toNat, 1) else (n, twoTo (-e).toNat))
  | _ => none

def isZero : Binary64 → Bool
  | .finite _ m _ => m == 0
  | _ => false

end Binary64

end CodeBehind.Number
