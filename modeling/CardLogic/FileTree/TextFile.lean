import CardLogic.Failure
import CardLogic.FileTree.Operations
import CardLogic.Text.Lines

/-!
Text files: UTF-8, with every line end read as a line feed.

A half has no form in UTF-8.  A file that is to hold one is opened, which empties it, and
then nothing can be written to it.
-/

namespace CardLogic

/-- What a file holds after a text was written to it. -/
def bytesOf (text : Text) : ByteArray :=
  if text.isWhole then text.toString.toUTF8 else ByteArray.empty

theorem bytesOf_of_half {text : Text} (h : text.isWhole = false) :
    bytesOf text = ByteArray.empty := by
  rw [bytesOf, h]
  rfl

def textOf? (content : ByteArray) : Option String :=
  (String.fromUTF8? content).map fun s => String.ofList (Text.unified s.toList)

namespace FileTree

def readText (t : FileTree) (p : Path) : Except Failure String :=
  match t.readBytes p with
  | .error e => .error (.file e)
  | .ok content =>
    match textOf? content with
    | some text => .ok text
    | none => .error (.notText p)

end FileTree

/-- A file with a text, new or in place of the file that was there. -/
def Disk.writeText (p : Path) (text : Text) : Disk Unit := do
  step (·.writeBytes p (bytesOf text))
  if let some halves := text.halves? then throw ⟨.notEncodable halves, p, none⟩

end CardLogic
