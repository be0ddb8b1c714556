import CardLogic.Text.Basic
import CardLogic.Text.Printable

/-!
Text shown in quotes, so that a reader sees every character.

The quotes are single, unless the text holds a single quote and no double one;
then they are double and nothing inside needs a backslash for its quote.
-/

namespace CardLogic.Text

def hexDigit (n : Nat) : Char :=
  if n < 10 then Char.ofNat (48 + n) else Char.ofNat (87 + n)

def hexDigits : (width : Nat) → Nat → List Char
  | 0, _ => []
  | width + 1, n => hexDigits width (n / 16) ++ [hexDigit (n % 16)]

/-- One character inside quotes of the given kind. -/
def showChar (quote c : Char) : List Char :=
  if c = quote ∨ c = '\\' then ['\\', c]
  else if c = '\n' then ['\\', 'n']
  else if c = '\r' then ['\\', 'r']
  else if c = '\t' then ['\\', 't']
  else if isPrintable c then [c]
  else if c.toNat < 0x100 then '\\' :: 'x' :: hexDigits 2 c.toNat
  else if c.toNat < 0x10000 then '\\' :: 'u' :: hexDigits 4 c.toNat
  else '\\' :: 'U' :: hexDigits 8 c.toNat

/-- A half by its number. -/
def showHalf (n : Fin 0x800) : List Char :=
  '\\' :: 'u' :: hexDigits 4 (CodePoint.half n).toNat

def showCodePoint (quote : Char) : CodePoint → List Char
  | .char c => showChar quote c
  | .half n => showHalf n

/-- The kind of quotes that fits a text best. -/
def quoteFor (s : Text) : Char :=
  if .char '\'' ∈ s ∧ .char '"' ∉ s then '"' else '\''

def quoted (s : Text) : List Char :=
  let q := quoteFor s
  q :: s.flatMap (showCodePoint q) ++ [q]

end CardLogic.Text
