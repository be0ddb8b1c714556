import CardLogic.FileTree.Basic

/-!
What became different between two states of a tree.

A listing names every entry by the text of its path, and a folder's text ends in a
slash.  So a folder that takes the place of a file is a file that went and a folder that
came.
-/

namespace CardLogic

mutual

/-- An entry and all entries below it; a file comes with its content. -/
def Node.listing (path : String) : Node → List (String × Option ByteArray)
  | .file content => [(path, some content)]
  | .folder entries => (path ++ "/", none) :: Entries.listing (path ++ "/") entries

/-- The entries of a folder whose path ends in a slash, and all entries below them. -/
def Entries.listing (path : String) : Entries → List (String × Option ByteArray)
  | [] => []
  | (n, d) :: es => d.listing (path ++ n) ++ Entries.listing path es

end

inductive Change where
  /-- A file is there that was not, or with another content. -/
  | written (content : ByteArray)
  | folderMade
  | removed

namespace Change

def ofListed? (before : List (String × Option ByteArray)) (entry : String × Option ByteArray) :
    Option (String × Change) :=
  if before.lookup entry.1 == some entry.2 then none
  else
    match entry.2 with
    | some content => some (entry.1, .written content)
    | none => some (entry.1, .folderMade)

/-- The changes between two listings, in the order of the paths' texts. -/
def between (before after : List (String × Option ByteArray)) : List (String × Change) :=
  let gone := before.filterMap fun e =>
    if (after.lookup e.1).isNone then some (e.1, Change.removed) else none
  (gone ++ after.filterMap (ofListed? before)).mergeSort fun a b => decide (a.1 ≤ b.1)

end Change

namespace FileTree

def listing (t : FileTree) (loc : Location) : List (String × Option ByteArray) :=
  match t.find loc with
  | some (.folder entries) => Entries.listing (String.join (loc.map ("/" ++ ·)) ++ "/") entries
  | _ => []

def changesBelow (before after : FileTree) (loc : Location) : List (String × Change) :=
  Change.between (before.listing loc) (after.listing loc)

end FileTree

end CardLogic
