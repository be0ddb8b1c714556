import CardLogic.CommandLine.Constant
import CardLogic.Text.Alphanumeric
import CardLogic.Text.Blank

/-!
Handlers in marks.

A mark may name a handler, whose value is the name of an action, a constant in round
brackets, or one after the other.  Any other constant is a value too.
-/

namespace CardLogic.CommandLine.Handler

open Text

def isActionChar (c : Char) : Bool := isAlphanumeric c || c = '_' || c = '.'

/-- Whether a text is a pair of brackets on one line, whatever they hold. -/
def isBracketed (s : List Char) : Bool :=
  s.head? = some '(' && s.getLast? = some ')' && !s.contains '\n'

def isValue (value : List Char) : Bool :=
  let value := strip value
  let arguments := value.dropWhile isActionChar
  if arguments = [] then true
  else if isBracketed arguments then Constant.isConstant arguments
  else Constant.isConstant value

end CardLogic.CommandLine.Handler
