import CardLogic.Decimal.Whole
import CardLogic.Path
import CardLogic.Text.Quoted

/-!
What can go wrong with an entry of the file tree.

Most faults are the operating system's, which has a number for each.  The others are known
before it is asked: no entry has such a path, or no file can have such a text.
-/

namespace CardLogic

inductive Fault where
  | missing
  | busy
  | alreadyExists
  | notAFolder
  | isAFolder
  | nameTooLong
  /-- There is a null character in the path, which no name can have. -/
  | nullCharacter
  /-- There are halves in the text, which no file can hold. -/
  | notEncodable (halves : Text.Halves)
  /-- A number that was to be written is too long. -/
  | tooManyDigits (e : Decimal.TooManyDigits)
  deriving DecidableEq, Repr

namespace Fault

/-- The number that the operating system gives the fault, if the fault is one of its own. -/
def number? : Fault → Option Nat
  | missing => some 2
  | busy => some 16
  | alreadyExists => some 17
  | notAFolder => some 20
  | isAFolder => some 21
  | nameTooLong => some 36
  | nullCharacter => none
  | notEncodable _ => none
  | tooManyDigits _ => none

/-- Whether the fault is one that the operating system reports. -/
def isSystem (f : Fault) : Bool := f.number?.isSome

/-- Where the halves stand in a text; the first is told apart if it stands alone. -/
def halvesText (h : Text.Halves) : String :=
  let last := Decimal.showNat (h.position + h.more)
  if h.more = 0 then
    "character '" ++ String.ofList (Text.showHalf h.first) ++ "' in position " ++ last
  else "characters in position " ++ Decimal.showNat h.position ++ "-" ++ last

def text : Fault → String
  | missing => "No such file or directory"
  | busy => "Device or resource busy"
  | alreadyExists => "File exists"
  | notAFolder => "Not a directory"
  | isAFolder => "Is a directory"
  | nameTooLong => "File name too long"
  | nullCharacter => "embedded null byte"
  | notEncodable h => "'utf-8' codec can't encode " ++ halvesText h ++ ": surrogates not allowed"
  | tooManyDigits e => e.message

end Fault

structure FileError where
  fault : Fault
  path : Path
  /-- Where the entry was to go, if the step moves one. -/
  target : Option Path
  deriving DecidableEq, Repr

namespace FileError

def isSystem (e : FileError) : Bool := e.fault.isSystem

def paths (e : FileError) : String :=
  let shown (p : Path) := String.ofList (Text.quoted p.toString)
  shown e.path
    ++ (match e.target with
        | some p => " -> " ++ shown p
        | none => "")

def message (e : FileError) : String :=
  match e.fault.number? with
  | some n => "[Errno " ++ Decimal.showNat n ++ "] " ++ e.fault.text ++ ": " ++ e.paths
  | none => e.fault.text

end FileError

end CardLogic
