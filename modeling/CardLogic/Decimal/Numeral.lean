import CardLogic.Decimal.Binary64
import CardLogic.Decimal.Whole
import CardLogic.Text.Blank
import CardLogic.Text.Digit
import CardLogic.Text.Quoted

/-!
Numbers as a user writes them.

Digits of every script count, blanks may stand around a number, and a single
underscore may stand between two digits.  A whole number is a sign and digits; any
other number may have a point, an exponent, or be infinite or not a number.
-/

namespace CardLogic.Decimal

open Text

/-- A text in which digits of every script have become ASCII digits and blanks beyond
ASCII have become spaces.  No other character beyond ASCII can stand in a number. -/
def toAscii (s : List Char) : List Char :=
  s.map fun c =>
    if c.toNat < 0x7F then c
    else if isBlank c then ' '
    else
      match digitValue? c with
      | some d => Char.ofNat (48 + d)
      | none => '?'

/-- The blanks that may stand around a number.  The information separators are not
among them. -/
def isMargin (c : Char) : Bool := c = ' ' || (9 ≤ c.toNat && c.toNat ≤ 13)

def trimMargin (s : List Char) : List Char :=
  ((s.dropWhile isMargin).reverse.dropWhile isMargin).reverse

/-- The text without its underscores, if each stands between two digits. -/
def dropUnderscores : (previous : Char) → List Char → Option (List Char)
  | p, [] => if p = '_' then none else some []
  | p, c :: s =>
    if c = '_' then if p.isDigit then dropUnderscores c s else none
    else if p = '_' ∧ !c.isDigit then none
    else (dropUnderscores c s).map (c :: ·)

/-- A sign, if there is one, and the rest. -/
def cutSign : List Char → Bool × List Char
  | '-' :: s => (true, s)
  | '+' :: s => (false, s)
  | s => (false, s)

def cutDigits (s : List Char) : List Char × List Char :=
  (s.takeWhile Char.isDigit, s.dropWhile Char.isDigit)

/-- The exponent that ends a number; nothing at all is the exponent zero. -/
def readExponent : List Char → Option Int
  | [] => some 0
  | c :: s =>
    if c = 'e' ∨ c = 'E' then
      let (negative, s) := cutSign s
      let (ds, rest) := cutDigits s
      if ds = [] ∨ rest ≠ [] then none
      else
        let n := Nat.ofDigitChars 10 ds 0
        some (if negative then -(n : Int) else n)
    else none

/-- Digits with an optional point among or around them, and an optional exponent. -/
def readUnsigned (negative : Bool) (s : List Char) : Option Binary64 :=
  let (whole, s) := cutDigits s
  let (fraction, s) :=
    match s with
    | '.' :: t => cutDigits t
    | _ => ([], s)
  if whole = [] ∧ fraction = [] then none
  else
    (readExponent s).map fun e =>
      Binary64.ofDecimal negative (Nat.ofDigitChars 10 (whole ++ fraction) 0)
        (e - fraction.length)

/-- A number as a user writes it. -/
def readReal? (text : String) : Option Binary64 :=
  match dropUnderscores ' ' (trimMargin (toAscii text.toList)) with
  | none => none
  | some s =>
    let (negative, s) := cutSign s
    let word := String.ofList (s.map Char.toLower)
    if word = "inf" ∨ word = "infinity" then some (.infinite negative)
    else if word = "nan" then some .nan
    else readUnsigned negative s

inductive WholeError where
  | malformed (text : String)
  | tooManyDigits (e : TooManyDigits)
  deriving DecidableEq, Repr

/-- The text is shown up to a limit. -/
def WholeError.message : WholeError → String
  | malformed text =>
    "invalid literal for int() with base 10: "
      ++ String.ofList ((Text.quoted text).take 200)
  | tooManyDigits e => e.message

/-- A whole number as a user writes it.  That there are too many digits is found out
before what follows them is looked at. -/
def readWhole (text : String) : Except WholeError Int :=
  let (negative, s) := cutSign (trimMargin (toAscii text.toList))
  let run := s.takeWhile fun c => c.isDigit || c = '_'
  match dropUnderscores ' ' run with
  | none => .error (.malformed text)
  | some ds =>
    match ofDigits ds with
    | .error e => .error (.tooManyDigits e)
    | .ok n =>
      if ds = [] ∨ s.drop run.length ≠ [] then .error (.malformed text)
      else .ok (if negative then -(n : Int) else n)

end CardLogic.Decimal
