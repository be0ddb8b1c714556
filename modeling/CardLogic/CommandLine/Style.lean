import CardLogic.CommandLine.Color
import CardLogic.Text.Blank

/-!
Styles of text.

A style is described in words: attributes, each of which may be denied, a colour, a
background and a link.  Words may come in any order, and of two that say the same thing
the later one counts.  So several descriptions mean one style; `Style.description` is the
one that stands for them all.
-/

namespace CardLogic.CommandLine

inductive Attribute where
  | bold
  | dim
  | italic
  | underline
  | blink
  | blink2
  | reverse
  | conceal
  | strike
  | underline2
  | frame
  | encircle
  | overline
  deriving DecidableEq, Repr

namespace Attribute

/-- The attributes in the order in which a description tells them. -/
def all : List Attribute :=
  [bold, dim, italic, underline, blink, blink2, reverse, conceal, strike, underline2, frame,
    encircle, overline]

def name : Attribute → String
  | bold => "bold"
  | dim => "dim"
  | italic => "italic"
  | underline => "underline"
  | blink => "blink"
  | blink2 => "blink2"
  | reverse => "reverse"
  | conceal => "conceal"
  | strike => "strike"
  | underline2 => "underline2"
  | frame => "frame"
  | encircle => "encircle"
  | overline => "overline"

def shortName? : Attribute → Option String
  | bold => some "b"
  | dim => some "d"
  | italic => some "i"
  | underline => some "u"
  | reverse => some "r"
  | conceal => some "c"
  | strike => some "s"
  | underline2 => some "uu"
  | overline => some "o"
  | _ => none

def ofWord? (word : List Char) : Option Attribute :=
  all.find? fun a => a.name.toList = word || a.shortName?.any (·.toList = word)

end Attribute

structure Style where
  /-- Which attributes the style has; of the others it says nothing if they are not in
  the list. -/
  attributes : List (Attribute × Bool)
  color : Option (List Char)
  background : Option (List Char)
  link : Option (List Char)
  deriving DecidableEq, Repr

namespace Style

open Text

def empty : Style := ⟨[], none, none, none⟩

/-! ## Reading -/

inductive Demand where
  | background
  | denied
  | link
  deriving DecidableEq, Repr

def Demand.ofWord? (word : List Char) : Option Demand :=
  [("on", background), ("not", denied), ("link", link)].findSome? fun (w, d) =>
    if w.toList = word then some d else none

/-- A description read so far, with the demand of its last word. -/
abbrev Draft := Style × Option Demand

def withAttribute (s : Style) (a : Attribute) (has : Bool) : Style :=
  { s with attributes := (a, has) :: s.attributes }

def readFree (s : Style) (word : List Char) : Except ColorError Draft :=
  match Demand.ofWord? word, Attribute.ofWord? word with
  | some d, _ => .ok (s, some d)
  | none, some a => .ok (s.withAttribute a true, none)
  | none, none => (Color.read word).map fun c => ({ s with color := some c }, none)

def readWord (draft : Draft) (word : List Char) : Except ColorError Draft :=
  match draft with
  | (s, none) => s.readFree (lower word)
  | (s, some .background) =>
    (Color.read word).map fun c => ({ s with background := some c }, none)
  | (s, some .denied) =>
    match Attribute.ofWord? word with
    | some a => .ok (s.withAttribute a false, none)
    | none => .error .unknown
  | (s, some .link) => .ok ({ s with link := some word }, none)

def words (text : List Char) : List (List Char) :=
  (text.splitBy fun c d => isBlank c = isBlank d).filter fun w => !allBlank w

/-- The style of a description.  The word for no style stands alone. -/
def read (text : List Char) : Except ColorError Style :=
  if strip text = "none".toList then .ok empty
  else do
    let (s, demand) ← (words text).foldlM readWord (empty, none)
    if demand = none then pure s else throw .unknown

/-! ## Writing -/

def attributeWords (s : Style) : List (List Char) :=
  Attribute.all.flatMap fun a =>
    match s.attributes.lookup a with
    | some true => [a.name.toList]
    | some false => ["not".toList, a.name.toList]
    | none => []

/-- The one description that stands for all those of a style. -/
def description (s : Style) : List Char :=
  let ws :=
    s.attributeWords ++ s.color.toList ++ (s.background.map ("on".toList ++ ' ' :: ·)).toList
      ++ (s.link.map ("link".toList ++ ' ' :: ·)).toList
  if ws = [] then "none".toList else joinPieces ' ' ws

/-- The name of a style that is described or named by a text: what describes no style is
a name, in small letters. -/
def canonicalName (text : List Char) : Except Decimal.WholeError (List Char) :=
  match read text with
  | .ok s => .ok s.description
  | .error .unknown => .ok (lower (strip text))
  | .error (.share e) => .error e

/-- Whether a style can be looked up by a description; a name is looked up in vain. -/
def check (text : List Char) : Except Decimal.WholeError Unit :=
  (canonicalName text).map fun _ => ()

end Style

end CardLogic.CommandLine
