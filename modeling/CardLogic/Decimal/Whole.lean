/-!
Whole numbers in decimal digits.

A number is shown with as many digits as it takes, but text that others may read is made of
numbers of a bounded number of digits, and numbers are read from no more.
-/

namespace CardLogic.Decimal

def natChars (n : Nat) : List Char := Nat.toDigits 10 n

def intChars (n : Int) : List Char :=
  if n < 0 then '-' :: natChars n.natAbs else natChars n.natAbs

def showNat (n : Nat) : String := String.ofList (natChars n)

def showInt (n : Int) : String := String.ofList (intChars n)

def digitLimit : Nat := 4300

/-- Digits that are too many for a number.  Those that were read are counted, with the zeros
in front. -/
structure TooManyDigits where
  count : Option Nat
  deriving DecidableEq, Repr

def TooManyDigits.message (e : TooManyDigits) : String :=
  "Exceeds the limit (" ++ showNat digitLimit ++ " digits) for integer string conversion"
    ++ (match e.count with
        | some n => ": value has " ++ showNat n ++ " digits"
        | none => "")
    ++ "; use sys.set_int_max_str_digits() to increase the limit"

/-- Whether a number has no more digits than are written. -/
def isShort (n : Int) : Bool := (natChars n.natAbs).length ≤ digitLimit

def writeInt (n : Int) : Except TooManyDigits String :=
  if isShort n then .ok (showInt n) else .error ⟨none⟩

def ofDigits (ds : List Char) : Except TooManyDigits Nat :=
  if digitLimit < ds.length then .error ⟨some ds.length⟩ else .ok (Nat.ofDigitChars 10 ds 0)

/-- The digits of a number give the number back. -/
theorem ofDigitChars_natChars (n : Nat) : Nat.ofDigitChars 10 (natChars n) 0 = n :=
  Nat.ofDigitChars_toDigits (by omega) (by omega)

end CardLogic.Decimal
