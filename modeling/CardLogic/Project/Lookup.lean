import CardLogic.Project.Cards

/-!
Finding cards by key.

A look-up passes once over everything below the folder of all cards and takes every
folder that holds an entry with the name of a field file, wherever it lies.  Of several
folders with one name the first wins, in the order of the entries' paths: segment by
segment, so that what lies in a folder with a small name comes before the field file.
-/

namespace CardLogic.Project

mutual

/-- The folders at and below a folder that hold a field file, in the order of the
files' paths. -/
def cardFolders (path : Path) : Node → List (Path × Node)
  | .file _ => []
  | .folder entries => cardFoldersIn path (.folder entries) entries

/-- The same for some of the entries of the folder `whole` at a path. -/
def cardFoldersIn (path : Path) (whole : Node) : Entries → List (Path × Node)
  | [] => []
  | (n, d) :: es =>
    (if n = metadataName then [(path, whole)] else [])
      ++ cardFolders (path.child n) d ++ cardFoldersIn path whole es

end

/-- The keys to look for, each once and in order.  The empty text is no key. -/
def wanted (keys : List String) : List String :=
  ((keys.filter (· ≠ "")).eraseDups).mergeSort fun a b => decide (a ≤ b)

/-- The cards of some keys, read from these folders. -/
def readFound (folders : List (Path × Node)) :
    List String → Except Failure (List (String × CardTree))
  | [] => pure []
  | key :: keys =>
    match folders.find? fun f => f.1.name = key with
    | none => readFound folders keys
    | some (path, d) => do
      let tree ← readCard path d
      let found ← readFound folders keys
      pure ((key, tree) :: found)

/-- The cards of some keys, in the order of the keys; unknown keys are passed over. -/
def findCards (p : Project) (keys : List String) (t : FileTree) :
    Except Failure (List (String × CardTree)) :=
  if wanted keys = [] then .ok []
  else
    match t.entry? p.cardRoot with
    | .error e => .error (.file e)
    | .ok none => .ok []
    | .ok (some d) => readFound (cardFolders p.cardRoot d) (wanted keys)

def findCard? (p : Project) (key : String) (t : FileTree) : Except Failure (Option CardTree) :=
  (p.findCards [key] t).map (·.lookup key)

end CardLogic.Project
