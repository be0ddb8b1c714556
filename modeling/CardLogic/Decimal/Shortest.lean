import CardLogic.Decimal.Binary64

/-!
The shortest decimal text of a binary number.

The numbers that round to a given one fill an interval.  With one digit, with two,
and so on, the decimal grid has two points around the number; the first grid with a
point in the interval gives the digits, and of two points the nearer one.  How the
digits are laid out is a matter of its own and stands in a `Layout`.
-/

namespace CardLogic.Decimal

structure Digits where
  digits : Nat
  exponent : Int
  deriving DecidableEq, Repr

def Digits.trim (fuel : Nat) (d : Digits) : Digits :=
  match fuel with
  | 0 => d
  | fuel + 1 =>
    if d.digits ≠ 0 ∧ d.digits % 10 = 0 then
      Digits.trim fuel ⟨d.digits / 10, d.exponent + 1⟩
    else d

/-- Whether `a * 10 ^ x ≤ b * 2 ^ y`. -/
def leScaled (a : Nat) (x : Int) (b : Nat) (y : Int) : Bool :=
  a * Nat.pow 10 x.toNat * Nat.pow 2 (-y).toNat ≤ b * Nat.pow 2 y.toNat * Nat.pow 10 (-x).toNat

/-- Whether `b * 2 ^ y ≤ a * 10 ^ x`. -/
def geScaled (a : Nat) (x : Int) (b : Nat) (y : Int) : Bool :=
  b * Nat.pow 2 y.toNat * Nat.pow 10 (-x).toNat ≤ a * Nat.pow 10 x.toNat * Nat.pow 2 (-y).toNat

/-- Whether the decimal `a * 10 ^ x` rounds to the number `m * 2 ^ e`.  The interval is
measured in quarters of the last binary place, for below a power of two the places
are half as wide; its ends belong to it if the mantissa is even. -/
def roundsTo (m : Nat) (e : Int) (a : Nat) (x : Int) : Bool :=
  let below := if m = Binary64.fullMantissa ∧ Binary64.minExponent < e then 1 else 2
  let low := 4 * m - below
  let high := 4 * m + 2
  let fromLow := geScaled a x low (e - 2)
  let toHigh := leScaled a x high (e - 2)
  if m % 2 = 0 then fromLow && toHigh
  else fromLow && toHigh && !leScaled a x low (e - 2) && !geScaled a x high (e - 2)

/-- The exponent `k` with `10 ^ (k - 1) ≤ num / den < 10 ^ k`, both numbers positive. -/
def decimalSize (num den : Nat) : Int :=
  if den ≤ num then (Nat.toDigits 10 (num / den)).length
  else
    let t := (Nat.toDigits 10 (den / num)).length
    if den ≤ num * Nat.pow 10 (t - 1) then 2 - (t : Int) else 1 - (t : Int)

/-- The point of the grid of step `10 ^ x` that rounds to `m * 2 ^ e`, if there is one;
of two the nearer, of two equally near the even one. -/
def gridPoint? (m : Nat) (e x : Int) (num den : Nat) : Option Digits :=
  let n := num * Nat.pow 10 (-x).toNat
  let d := den * Nat.pow 10 x.toNat
  let low := n / d
  match roundsTo m e low x, roundsTo m e (low + 1) x with
  | true, false => some ⟨low, x⟩
  | false, true => some ⟨low + 1, x⟩
  | true, true => some ⟨Binary64.roundDiv n d, x⟩
  | false, false => none

def shortest (m : Nat) (e : Int) : Digits :=
  let num := m * Nat.pow 2 e.toNat
  let den := Nat.pow 2 (-e).toNat
  let k := decimalSize num den
  let found := (List.range 17).findSome? fun (i : Nat) =>
    gridPoint? m e (k - ((i : Int) + 1)) num den
  (found.getD ⟨num / den, 0⟩).trim 20

structure Layout where
  /-- The least exponent of the first digit that is written without an exponent. -/
  positionalFrom : Int
  /-- The greatest such exponent. -/
  positionalTo : Int
  /-- The least number of digits of a written exponent. -/
  exponentWidth : Nat
  notANumber : String
  infinity : String

def padZeros (width : Nat) (s : List Char) : List Char :=
  List.replicate (width - s.length) '0' ++ s

namespace Layout

/-- Digits with the point `point` places after the first of them; a number without
fraction ends in a point and a zero. -/
def positional (ds : List Char) (point : Int) : List Char :=
  if point ≤ 0 then '0' :: '.' :: List.replicate (-point).toNat '0' ++ ds
  else
    let n := point.toNat
    if ds.length ≤ n then ds ++ List.replicate (n - ds.length) '0' ++ ['.', '0']
    else ds.take n ++ '.' :: ds.drop n

/-- Digits with one of them before the point, and an exponent with its sign. -/
def scientific (l : Layout) (ds : List Char) (exponent : Int) : List Char :=
  let tail := ds.drop 1
  ds.take 1 ++ (if tail = [] then [] else '.' :: tail) ++ 'e'
    :: (if exponent < 0 then '-' else '+')
    :: padZeros l.exponentWidth (Nat.toDigits 10 exponent.natAbs)

def magnitude (l : Layout) (d : Digits) : List Char :=
  let ds := Nat.toDigits 10 d.digits
  let exponent := d.exponent + ds.length - 1
  if l.positionalFrom ≤ exponent ∧ exponent ≤ l.positionalTo then
    positional ds (exponent + 1)
  else l.scientific ds exponent

def render (l : Layout) : Binary64 → String
  | .nan => l.notANumber
  | .infinite negative => (if negative then "-" else "") ++ l.infinity
  | .finite negative m e =>
    let text := if m = 0 then ['0', '.', '0'] else l.magnitude (shortest m e)
    (if negative then "-" else "") ++ String.ofList text

end Layout

def plain : Layout where
  positionalFrom := -4
  positionalTo := 15
  exponentWidth := 2
  notANumber := "nan"
  infinity := "inf"

end CardLogic.Decimal
