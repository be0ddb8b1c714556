import CardLogic.CommandLine.EmojiNames
import CardLogic.Text.Blank
import CardLogic.Text.Lines
import CardLogic.Text.Lower
import CardLogic.Text.Width

/-!
Emoji written by name.

A name between two colons becomes its emoji, in whatever letters it is written.  A word
after the name may ask for the emoji as text or as a picture.  Where no emoji has the
name, all stays as it is, and the second colon opens no further name.
-/

namespace CardLogic.CommandLine.Emoji

open Text

/-! ## Names -/

/-- Words in turn as names and what they name. -/
def pairs : List (List Char) → List (List Char × List Char)
  | name :: emoji :: ws => (name, emoji) :: pairs ws
  | _ => []

def table (rows : List String) : List (List Char × List Char) :=
  rows.flatMap fun row => pairs (pieces ' ' row.toList)

def toned : List (List Char × List Char) := table tonedRows

def untoned : List (List Char × List Char) := table untonedRows

/-- An emoji in a tone, which stands after the first character, in the place of a
selector. -/
def inTone (tone : Char) : List Char → List Char
  | [] => []
  | c :: s => c :: tone :: (if s.head? = some emojiSelector then s.tail else s)

/-- The text before an end. -/
def withoutEnd? (ending s : List Char) : Option (List Char) :=
  if ending.isSuffixOf s then some (s.take (s.length - ending.length)) else none

def named? (name : List Char) : Option (List Char) :=
  (untoned.lookup name).or <|
    (toned.lookup name).or <|
      (toneWords.zip tones).findSome? fun (word, tone) => do
        let base ← withoutEnd? ("_" ++ word ++ "_skin_tone").toList name
        let emoji ← toned.lookup base
        pure (inTone tone emoji)

/-! ## Codes -/

def textSelector : Char := '\ufe0e'

/-- The ways to show an emoji, with the ends that ask for them. -/
def manners : List (String × Char) := [("-emoji", emojiSelector), ("-text", textSelector)]

/-- What the text between two colons stands for. -/
def ofCode? (code : List Char) : Option (List Char) :=
  let asked := manners.findSome? fun (ending, selector) =>
    (withoutEnd? ending.toList code).map (·, selector)
  match asked with
  | some (name, selector) => (named? (lower name)).map (· ++ [selector])
  | none => named? (lower code)

/-- The text between a colon and the next, if no blank stands between them.  The first
colon stands before the text given. -/
def code? (s : List Char) : Option (List Char) :=
  let code := s.takeWhile fun c => c ≠ ':' && !isBlank c
  if (s.drop code.length).head? = some ':' then some code else none

/-- A text with emoji for their codes, without the characters that belong to a code
before it. -/
def replacedAfter : (passed : Nat) → List Char → List Char
  | _, [] => []
  | passed + 1, _ :: s => replacedAfter passed s
  | 0, c :: s =>
    if c = ':' then
      match code? s with
      | none => c :: replacedAfter 0 s
      | some code =>
        (ofCode? code).getD (':' :: code ++ [':']) ++ replacedAfter (code.length + 1) s
    else c :: replacedAfter 0 s

def replaced (s : List Char) : List Char := replacedAfter 0 s

end CardLogic.CommandLine.Emoji
