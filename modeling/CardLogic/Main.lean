import CardLogic.CommandLine.Place

/-!
The command line program.

The place to run at comes on standard input, see `CommandLine.placeOf?`.  What a command
prints goes to standard output and its log to standard error, and files and folders that
it makes, changes or removes are made, changed or removed on the disk.
-/

open CardLogic

partial def readAll (input : IO.FS.Stream) (text : String) : IO String := do
  let line ← input.getLine
  if line.isEmpty then return text
  readAll input (text ++ line)

/-- The same change on the disk. -/
def carryOut : String × Change → IO Unit
  | (path, .written content) => IO.FS.writeBinFile path content
  | (path, .folderMade) => IO.FS.createDirAll path
  | (path, .removed) => IO.FS.removeFile path

def main (words : List String) : IO UInt32 := do
  let text ← readAll (← IO.getStdin) ""
  match CommandLine.placeOf? text with
  | none =>
    IO.eprintln "Opis miejsca nie jest obiektem JSON"
    return 1
  | some (tree, solver) =>
    let values ← Solver.Settings.variableNames.filterMapM fun name => do
      return (← IO.getEnv name).map fun value => (name, value)
    let env : CommandLine.Environment :=
      { valueOf := fun name => values.lookup name, solver, tag := "cardcalc" }
    let request := CommandLine.Request.ofLine words
    let (code, message, output, w) : Nat × Option String × String × Workspace :=
      match request.report env ⟨tree, [], []⟩ with
      | .ok report w => (report.code, none, report.output, w)
      | .error e w => (1, some e.message, "", w)
    for record in w.log.filter (CommandLine.isTold request.isVerbose) do
      IO.eprintln record.text.toString
    for change in tree.changesBelow w.tree [] do
      carryOut change
    IO.print output
    if let some m := message then IO.eprintln m
    return UInt32.ofNat code
