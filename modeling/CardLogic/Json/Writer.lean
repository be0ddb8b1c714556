import CardLogic.Decimal.Shortest
import CardLogic.Decimal.Whole
import CardLogic.Text.Quoted
import CardLogic.Value.Basic

/-!
Values written as JSON, each item and each field on a line of its own.

Only what has to be escaped is: quotes, backslashes and control characters.  A half is
written as it stands, and a whole number of too many digits not at all.
-/

namespace CardLogic.Json

/-- Numbers in a file; the two that the format lacks have names of their own. -/
def numbers : Decimal.Layout :=
  { Decimal.plain with notANumber := "NaN", infinity := "Infinity" }

def escapeChar (c : Char) : List Char :=
  if c = '"' ∨ c = '\\' then ['\\', c]
  else if c = '\n' then ['\\', 'n']
  else if c = '\r' then ['\\', 'r']
  else if c = '\t' then ['\\', 't']
  else if c = '\x08' then ['\\', 'b']
  else if c = '\x0c' then ['\\', 'f']
  else if c.toNat < 0x20 then '\\' :: 'u' :: Text.hexDigits 4 c.toNat
  else [c]

def escapeCodePoint : CodePoint → Text
  | .char c => .ofChars (escapeChar c)
  | .half n => [.half n]

def writeText (s : Text) : Text := .char '"' :: s.flatMap escapeCodePoint ++ [.char '"']

/-- A new line, indented by two spaces for each level. -/
def newLine (level : Nat) : Text := .char '\n' :: List.replicate (2 * level) (.char ' ')

mutual

/-- A value that stands on a line of the given level. -/
def writeAt (level : Nat) : Value → Text
  | .null => "null"
  | .bool b => if b then "true" else "false"
  | .whole n => .ofChars (Decimal.intChars n)
  | .real x => numbers.render x
  | .text s => writeText s
  | .list items =>
    if items.isEmpty then ['[', ']']
    else .char '[' :: writeItems (level + 1) items ++ newLine level ++ [.char ']']
  | .object fields =>
    if fields.isEmpty then ['\x7b', '\x7d']
    else .char '\x7b' :: writeFields (level + 1) fields ++ newLine level ++ [.char '\x7d']

def writeItems (level : Nat) : List Value → Text
  | [] => []
  | [v] => newLine level ++ writeAt level v
  | v :: vs => newLine level ++ writeAt level v ++ .char ',' :: writeItems level vs

def writeFields (level : Nat) : List (Text × Value) → Text
  | [] => []
  | [(n, v)] => newLine level ++ writeText n ++ [.char ':', .char ' '] ++ writeAt level v
  | (n, v) :: fs =>
    newLine level ++ writeText n ++ [.char ':', .char ' '] ++ writeAt level v
      ++ .char ',' :: writeFields level fs

end

def write (v : Value) : Except Decimal.TooManyDigits Text :=
  if v.isWritable then .ok (writeAt 0 v ++ [.char '\n']) else .error ⟨none⟩

end CardLogic.Json
