import CardLogic.Text.Basic

/-!
Blank characters, and text without them at its ends.

`isBlank` is the Unicode notion of white space together with the four
information separators U+001C to U+001F.  Everything in the library that skips
white space skips these characters: around the arguments of a fact, at the ends
of a line, and after a fact's closing parenthesis.
-/

namespace CardLogic.Text

variable {α : Type} [HasCode α]

/-- White space, and the information separators. -/
def isBlank (c : α) : Bool :=
  let n := code c
  (9 ≤ n && n ≤ 13) || (0x1C ≤ n && n ≤ 0x20) || n == 0x85 || n == 0xA0 || n == 0x1680
    || (0x2000 ≤ n && n ≤ 0x200A) || n == 0x2028 || n == 0x2029 || n == 0x202F
    || n == 0x205F || n == 0x3000

def allBlank (s : List α) : Bool := s.all isBlank

def stripStart (s : List α) : List α := s.dropWhile isBlank

def stripEnd (s : List α) : List α := (s.reverse.dropWhile isBlank).reverse

def strip (s : List α) : List α := stripEnd (stripStart s)

end CardLogic.Text
