import CardLogic.Text.Blank
import CardLogic.Text.Lines

/-!
Text literals of the logic program, and the cutting of an argument list.

A literal stands in double quotes; inside it a backslash, a double quote and a
line feed are written with a backslash, so a literal never spans two lines.  The
argument list is cut at the commas outside literals.  `unescape_escape` says that
no text is lost in a literal.
-/

namespace CardLogic.Literal

open Text

/-! ## One literal -/

/-- A code point as it is written inside a literal. -/
def escapeChar (c : CodePoint) : Text :=
  if c = '\\' then ['\\', '\\']
  else if c = '"' then ['\\', '"']
  else if c = '\n' then ['\\', 'n']
  else [c]

def escape (s : Text) : Text := s.flatMap escapeChar

/-- Inside a literal a backslash makes the next character stand for itself, `n`
excepted; a backslash at the very end stands for itself. -/
def unescape : Text → Text
  | [] => []
  | '\\' :: c :: s => (if c = 'n' then '\n' else c) :: unescape s
  | c :: s => c :: unescape s

/-- The text between two double quotes, if the whole text is that. -/
def body? : Text → Option Text
  | '"' :: s => if s.getLast? = some (.char '"') then some s.dropLast else none
  | _ => none

def quote (s : Text) : Text := .char '"' :: escape s ++ [.char '"']

/-- What a written argument means: the content of a literal, and any other text as
it stands, both without the blanks around them. -/
def unquote (s : Text) : Text :=
  let t := strip s
  match body? t with
  | some inner => unescape inner
  | none => t

/-! ## An argument list -/

/-- Where a scan of an argument list stands. -/
inductive Scan where
  | outside
  | inLiteral
  | afterBackslash
  deriving DecidableEq, Repr

/-- The scan moved over one code point.  Outside literals a backslash is a character
like any other. -/
def Scan.next : Scan → CodePoint → Scan
  | .outside, c => if c = '"' then .inLiteral else .outside
  | .inLiteral, c =>
    if c = '\\' then .afterBackslash else if c = '"' then .outside else .inLiteral
  | .afterBackslash, _ => .inLiteral

/-- The text cut at its commas outside literals; there is always a last piece. -/
def cutAtCommas : Scan → Text → List Text
  | _, [] => [[]]
  | m, c :: s =>
    if m = .outside ∧ c = ',' then [] :: cutAtCommas .outside s
    else consFirst c (cutAtCommas (m.next c) s)

/-- The written arguments, without the blanks around each.  A list of nothing but
blanks has no arguments. -/
def splitArgs (s : Text) : List Text :=
  let pieces := (cutAtCommas .outside s).map strip
  if pieces = [[]] then [] else pieces

/-! ## Reading a literal back -/

theorem unescape_escapeChar_append (c : CodePoint) (s : Text) :
    unescape (escapeChar c ++ s) = c :: unescape s := by
  unfold escapeChar
  split
  · next h => subst h; simp [unescape]
  · split
    · next h => subst h; simp [unescape]
    · split
      · next h => subst h; simp [unescape]
      · next h _ _ => simp [unescape, h]

/-- Every text is read back from its literal. -/
theorem unescape_escape (s : Text) : unescape (escape s) = s := by
  induction s with
  | nil => rfl
  | cons c s ih =>
    rw [escape, List.flatMap_cons, unescape_escapeChar_append]
    exact congrArg (c :: ·) ih

end CardLogic.Literal
