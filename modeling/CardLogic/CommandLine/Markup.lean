import CardLogic.CommandLine.Emoji
import CardLogic.CommandLine.Handler
import CardLogic.CommandLine.Style

/-!
Texts with marks.

A mark stands in brackets.  It is the name or the description of a style, which lasts until
the mark with the same style after a slash; a slash alone ends the style that began last.
After an equals sign a mark may have a value.  A terminal without colours shows the text
alone, but every mark that ends a style has to find it.

Backslashes before a mark stand for half as many, and one that is left over makes the
mark plain text.  Before a bracket that opens no mark one backslash is dropped.
-/

namespace CardLogic.CommandLine.Markup

inductive Token where
  | char (c : Char)
  /-- Characters that no code of an emoji reaches into or out of. -/
  | apart (s : List Char)
  | mark (text : List Char)
  deriving DecidableEq, Repr

def startsMark (c : Char) : Bool := ('a' ≤ c && c ≤ 'z') || c = '#' || c = '/' || c = '@'

/-- The text of a mark whose opening bracket stands before a text. -/
def mark? : List Char → Option (List Char)
  | [] => none
  | c :: s =>
    let name := s.takeWhile fun d => d ≠ ']' && d ≠ '['
    if startsMark c && (s.drop name.length).head? = some ']' then some (c :: name) else none

def backslashes (n : Nat) : List Char := List.replicate n '\\'

def chars (s : List Char) : List Token := s.map .char

/-- The tokens of a text after some backslashes, without the characters that belong to a
mark before it. -/
def scan : (marked slashes : Nat) → List Char → List Token
  | _, slashes, [] => chars (backslashes slashes)
  | marked + 1, _, _ :: s => scan marked 0 s
  | 0, slashes, c :: s =>
    if c = '\\' then scan 0 (slashes + 1) s
    else if c = '[' then
      match mark? s with
      | none => chars (backslashes (slashes - 1)) ++ .char c :: scan 0 0 s
      | some m =>
        .apart (backslashes (slashes / 2))
          :: (if slashes % 2 = 0 then .mark m else .apart ('[' :: m ++ [']']))
          :: scan (m.length + 1) 0 s
    else chars (backslashes slashes) ++ .char c :: scan 0 0 s

/-! ## Styles that last -/

inductive Flaw where
  | unmatched
  /-- The value of a handler is none. -/
  | handler
  | share (e : Decimal.WholeError)
  deriving DecidableEq, Repr

/-- A style that lasts. -/
structure Lasting where
  /-- The one name that stands for all those of the style. -/
  name : List Char
  /-- What stands after the equals sign. -/
  value : Option (List Char)
  deriving DecidableEq, Repr

namespace Lasting

def isHandler (l : Lasting) : Bool := l.name.head? = some '@'

/-- A handler needs no value, but the one it has is checked when it ends. -/
def isSound (l : Lasting) : Bool :=
  !l.isHandler || (l.value.filter (· ≠ [])).all Handler.isValue

def description (l : Lasting) : List Char :=
  match l.value with
  | none => l.name
  | some v => l.name ++ ' ' :: v

end Lasting

def canonicalName (name : List Char) : Except Flaw (List Char) :=
  (Style.canonicalName name).mapError .share

/-- The name in a mark and the value, which an equals sign parts from it. -/
def nameAndValue (m : List Char) : List Char × Option (List Char) :=
  let name := m.takeWhile (· ≠ '=')
  (name, (m.drop name.length).tail?)

def opened (m : List Char) : Except Flaw Lasting :=
  let (name, value) := nameAndValue m
  (canonicalName name).map fun name => ⟨name, value⟩

/-- The style that a mark ends, given what stands after its slash, and those that last. -/
def ended (lasting : List Lasting) (m : List Char) : Except Flaw (Lasting × List Lasting) := do
  let name := Text.strip (nameAndValue m).1
  let found ←
    if name = [] then pure lasting.head?
    else do
      let name ← canonicalName name
      pure (lasting.find? (·.name = name))
  match found with
  | some l => pure (l, lasting.erase l)
  | none => throw .unmatched

def after (lasting : List Lasting) : List Char → Except Flaw (List Lasting)
  | '/' :: m => do
    let (l, lasting) ← ended lasting m
    if l.isSound then pure lasting else throw .handler
  | m => (opened m).map (· :: lasting)

/-! ## What is shown -/

/-- What is shown of some tokens, if every end of a style finds one that lasts.  Emoji are
looked for between marks; `run` is what has been read since the last one, backwards. -/
def shown (lasting : List Lasting) (run : List Char) : List Token → Except Flaw (List Char)
  | [] => .ok (Emoji.replaced run.reverse)
  | .char c :: ts => shown lasting (c :: run) ts
  | .apart s :: ts => do
    let rest ← shown lasting [] ts
    pure (Emoji.replaced run.reverse ++ Emoji.replaced s ++ rest)
  | .mark m :: ts => do
    let lasting ← after lasting m
    let rest ← shown lasting [] ts
    pure (Emoji.replaced run.reverse ++ rest)

def tokens (text : String) : List Token := scan 0 0 text.toList

def plainText (text : String) : Except Flaw String :=
  (shown [] [] (tokens text)).map String.ofList

/-- Whether the styles of a text can be looked up, which is done when it is printed. -/
def checkStyles (text : String) : Except Flaw Unit :=
  (tokens text).forM fun
    | .mark ('/' :: _) => pure ()
    | .mark m => do
      let l ← opened m
      (Style.check l.description).mapError .share
    | _ => pure ()

def styled (style text : String) : String := "[" ++ style ++ "]" ++ text ++ "[/" ++ style ++ "]"

end CardLogic.CommandLine.Markup
