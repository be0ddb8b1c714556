/-!
Binary numbers of 64 bits, held exactly.

A finite number is a sign, a mantissa and a power of two.  Arithmetic on the machine's
own floating point type tells a proof nothing, so a number here is its mantissa and
exponent, and a ratio is rounded to the nearest number by division of naturals, a
tie going to the even mantissa.
-/

namespace CardLogic

inductive Binary64 where
  | nan
  | infinite (negative : Bool)
  /-- `mantissa * 2 ^ exponent`, where the mantissa is below `2 ^ 53`, the exponent is at
  least -1074, and one of the two is as small as it can be. -/
  | finite (negative : Bool) (mantissa : Nat) (exponent : Int)
  deriving DecidableEq, Repr

namespace Binary64

def minExponent : Int := -1074

def maxExponent : Int := 971

def fullMantissa : Nat := Nat.pow 2 52

def zero (negative : Bool) : Binary64 := finite negative 0 minExponent

def isZero : Binary64 → Bool
  | finite _ 0 _ => true
  | _ => false

def isPositive : Binary64 → Bool
  | finite false m _ => m ≠ 0
  | infinite false => true
  | _ => false

/-- The natural nearest to `num / den`, of two the even one. -/
def roundDiv (num den : Nat) : Nat :=
  let low := num / den
  let rest := num % den
  if 2 * rest < den ∨ (2 * rest = den ∧ low % 2 = 0) then low else low + 1

/-- `num / (den * 2 ^ e)` as a pair of naturals. -/
def scaleDown (num den : Nat) (e : Int) : Nat × Nat :=
  (num * Nat.pow 2 (-e).toNat, den * Nat.pow 2 e.toNat)

/-- The exponent `e` with `2 ^ e ≤ num / den < 2 ^ (e + 1)`, both numbers positive. -/
def floorLog2 (num den : Nat) : Int :=
  let e : Int := (num.log2 : Int) - (den.log2 : Int)
  let (n, d) := scaleDown num den e
  if d ≤ n then e else e - 1

/-- The number nearest to `num / den`, of two the one with the even mantissa. -/
def ofRatio (negative : Bool) (num den : Nat) : Binary64 :=
  if num = 0 then zero negative
  else
    let e := max (floorLog2 num den - 52) minExponent
    let (n, d) := scaleDown num den e
    let m := roundDiv n d
    let (m, e) := if m = 2 * fullMantissa then (fullMantissa, e + 1) else (m, e)
    if maxExponent < e then infinite negative else finite negative m e

/-- The number nearest to `digits * 10 ^ exponent`.  Outside the exponents that can
matter the answer is known before any power is computed. -/
def ofDecimal (negative : Bool) (digits : Nat) (exponent : Int) : Binary64 :=
  if digits = 0 then zero negative
  else
    let size := (Nat.toDigits 10 digits).length + exponent
    if 310 < size then infinite negative
    else if size < -330 then zero negative
    else ofRatio negative (digits * Nat.pow 10 exponent.toNat) (Nat.pow 10 (-exponent).toNat)

end Binary64

end CardLogic
