import CardLogic.CommandLine.Word

/-!
What a command line asks for.

General options come first, then the name of a command, then the command's own options
and the project, in any order.  A separator may stand right before or right after the
project and nowhere else.  Help and the version are given as soon as they are asked for,
so only what stands before them can be a mistake; a word that may mean several options
is one wherever it stands.
-/

namespace CardLogic.CommandLine

inductive Command where
  /-- The program of a project, or its part for a card and the cards below it. -/
  | generate (project : String) (card : Option String)
  | run (project card : String)
  deriving DecidableEq, Repr

inductive Request where
  | help
  | version
  | misuse
  | command (verbose : Bool) (c : Command)
  deriving DecidableEq, Repr

/-- What was read after the name of a command. -/
structure Given where
  project : Option String := none
  card : Option String := none
  /-- The word read last is the project. -/
  atProject : Bool := false
  /-- Something was read that is not known. -/
  strays : Bool := false
  deriving DecidableEq, Repr

namespace Given

def plain (g : Given) (text : String) : Given :=
  if g.project.isNone then { g with project := some text, atProject := true }
  else { g with strays := true, atProject := false }

def separator (g : Given) : Given :=
  { g with strays := g.strays || (g.project.isSome && !g.atProject), atProject := false }

def stray (g : Given) : Given := { g with strays := true, atProject := false }

/-- One more wish, `next` being the word after it.  None but a card's can be granted. -/
def wish (next : String) (g : Given) : Ask → Given
  | .card key => { g with card := some key, atProject := false }
  | .cardNext => { g with card := some next, atProject := false }
  | _ => g.stray

def wishes (g : Given) (next : String) (asked : List Ask) : Given := asked.foldl (wish next) g

end Given

/-- Reads the words after the name of a command; help, if it is asked for, is nothing
but help. -/
def readGiven (g : Given) : List Word → Except Request Given
  | [] => .ok g
  | .refused :: _ => .error .misuse
  | .stray :: ws => readGiven g.stray ws
  | .separator :: ws => readGiven g.separator ws
  | .plain text :: ws => readGiven (g.plain text) ws
  | .asks asked :: .plain text :: ws =>
    if .help ∈ asked then .error .help
    else if .cardNext ∈ asked then readGiven (g.wishes text asked) ws
    else readGiven (g.wishes text asked) (.plain text :: ws)
  | .asks asked :: ws =>
    if .cardNext ∈ asked then .error .misuse
    else if .help ∈ asked then .error .help
    else readGiven (g.wishes "" asked) ws

def commandOf? (name : String) (g : Given) : Option Command :=
  match g.project with
  | none => none
  | some project =>
    if name = "generate" then some (.generate project g.card)
    else if name = "run" then g.card.map (.run project)
    else none

def isCommandName (name : String) : Bool := name = "generate" || name = "run"

/-- What a command's name and the words after it ask for.  `strays` says that something
before the name was not known. -/
def readCommand (verbose strays : Bool) (name : String) (texts : List String) : Request :=
  if !isCommandName name then .misuse
  else
    match Word.ofLine? commandOptions texts with
    | none => .misuse
    | some words =>
      match readGiven {} words with
      | .error r => r
      | .ok g =>
        if strays || g.strays then .misuse
        else
          match commandOf? name g with
          | some c => .command verbose c
          | none => .misuse

/-- The end that general options ask for, if one of them does. -/
def endOf? : List Ask → Option Request
  | [] => none
  | .help :: _ => some .help
  | .version :: _ => some .version
  | _ :: wishes => endOf? wishes

def readGeneral (verbose strays : Bool) : List String → Request
  | [] => .misuse
  | text :: texts =>
    match Word.ofChars? generalOptions text.toList with
    | some (.plain name) => readCommand verbose strays name texts
    | some .stray => readGeneral verbose true texts
    | some (.asks wishes) =>
      match endOf? wishes with
      | some r => r
      | none => readGeneral (verbose || .verbose ∈ wishes) strays texts
    | _ => .misuse

def Request.ofLine (texts : List String) : Request :=
  match Word.ofLine? generalOptions texts with
  | none => .misuse
  | some _ => readGeneral false false texts

end CardLogic.CommandLine
