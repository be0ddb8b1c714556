import CardLogic.Fact.Reader
import CardLogic.Log
import CardLogic.Text.Lines

/-!
The solver's output as derived fields.

The facts are the lines before the line that says the program is satisfiable.  That
word has to be the whole line, so a value that holds it ends nothing.  Lines that are
no facts about fields, such as remarks on the rules, are passed over.
-/

namespace CardLogic.Solver

open Text

structure Derived where
  cardKey : Text
  field : Text
  value : Text
  deriving DecidableEq, Repr

def satisfiableMark : Text := "SATISFIABLE"

def unsatisfiableMark : Text := "UNSATISFIABLE"

/-- What the first mark among some lines says, and the lines before it. -/
inductive Verdict where
  | satisfiable (before : List Text)
  | unsatisfiable
  | unmarked
  deriving DecidableEq, Repr

namespace Verdict

def after (line : Text) : Verdict → Verdict
  | satisfiable before => satisfiable (line :: before)
  | v => v

def ofLines : List Text → Verdict
  | [] => unmarked
  | l :: ls =>
    if strip l = satisfiableMark then satisfiable []
    else if strip l = unsatisfiableMark then unsatisfiable
    else (ofLines ls).after l

def ofOutput (output : Text) : Verdict := ofLines (lines output)

/-- The text of the facts, if the program is satisfiable. -/
def block? : Verdict → Option Text
  | satisfiable before => some (joinPieces (.char '\n') before)
  | _ => none

/-- An unsatisfiable program is worth a remark: no field was derived. -/
def remarks : Verdict → List LogRecord
  | unsatisfiable => [⟨.info, "Program niespełnialny (UNSATISFIABLE), brak wyliczonych pól"⟩]
  | _ => []

end Verdict

def isKeyChar (c : Char) : Bool :=
  ('A' ≤ c && c ≤ 'Z') || ('a' ≤ c && c ≤ 'z') || ('0' ≤ c && c ≤ '9') || c = '_'

/-- A text of key characters, and at least one.  A single line feed may follow them. -/
def isPlainKey (key : Text) : Bool :=
  let body := if key.getLast? = some (.char '\n') then key.dropLast else key
  body ≠ [] && body.all (·.is isKeyChar)

def Derived.ofFact? : Fact → Option Derived
  | .field key name value => if isPlainKey key then some ⟨key, name, value⟩ else none
  | .fieldType key name kind => if isPlainKey key then some ⟨key, name, kind⟩ else none
  | _ => none

def Derived.ofLine? (line : Text) : Option Derived :=
  (Fact.read? line).bind Derived.ofFact?

def derivedIn (text : Text) : List Derived :=
  ((pieces (.char '\n') text).filter fun l => !allBlank l).filterMap Derived.ofLine?

def derived (output : Text) : List Derived :=
  match (Verdict.ofOutput output).block? with
  | some block => derivedIn block
  | none => []

end CardLogic.Solver
