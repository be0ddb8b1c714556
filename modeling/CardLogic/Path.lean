import CardLogic.Text.Lines

/-!
Paths of files and folders, as text and as segments.

A path is an anchor and a list of segments.  Reading a path drops empty segments
and the segments that mean "here"; a segment that means "one folder up" stays,
since only the file tree knows where it leads.  Two leading slashes are an anchor of
their own, any other number above one is the same as one.
-/

namespace CardLogic

/-- Where a path starts: anywhere, or at the top of the tree. -/
inductive Anchor where
  | none
  | slash
  | doubleSlash
  deriving DecidableEq, Inhabited, Repr

structure Path where
  anchor : Anchor
  segments : List String
  deriving DecidableEq, Inhabited, Repr

namespace Anchor

def render : Anchor → String
  | none => ""
  | slash => "/"
  | doubleSlash => "//"

def ofChars : List Char → Anchor
  | '/' :: '/' :: '/' :: _ => slash
  | '/' :: '/' :: _ => doubleSlash
  | '/' :: _ => slash
  | _ => none

end Anchor

namespace Path

def up : String := ".."

def ofString (text : String) : Path where
  anchor := Anchor.ofChars text.toList
  segments := ((Text.pieces '/' text.toList).map String.ofList).filter
    fun s => s ≠ "" ∧ s ≠ "."

def toString (p : Path) : String :=
  if p.anchor = .none ∧ p.segments = [] then "."
  else p.anchor.render ++ "/".intercalate p.segments

instance : ToString Path := ⟨toString⟩

/-- The segments, with the anchor before them if there is one. -/
def components (p : Path) : List String :=
  if p.anchor = .none then p.segments else p.anchor.render :: p.segments

def name (p : Path) : String := p.segments.getLast?.getD ""

def parent (p : Path) : Path := { p with segments := p.segments.dropLast }

def withName (p : Path) (name : String) : Path :=
  { p with segments := p.segments.dropLast ++ [name] }

def child (p : Path) (name : String) : Path := { p with segments := p.segments ++ [name] }

/-- A path read from inside the folder at another one: an anchored path stands on its
own. -/
def append (p q : Path) : Path :=
  if q.anchor = .none then { p with segments := p.segments ++ q.segments } else q

/-- A path given as text, read from inside the folder at another one. -/
def join (p : Path) (text : String) : Path := p.append (ofString text)

/-- The path from the top of the tree; a path without an anchor starts there. -/
def absolute (p : Path) : Path :=
  if p.anchor = .none then { p with anchor := .slash } else p

/-- Whether a null character, which no name can have, is in the path. -/
def hasNull (p : Path) : Bool := p.segments.any fun s => '\x00' ∈ s.toList

/-- The path itself and the folders above it, the nearest first. -/
def selfAndAbove (p : Path) : List Path :=
  (List.range (p.segments.length + 1)).map fun n =>
    { p with segments := p.segments.take (p.segments.length - n) }

@[simp] theorem name_child (p : Path) (n : String) : (p.child n).name = n := by
  simp [name, child]

@[simp] theorem parent_child (p : Path) (n : String) : (p.child n).parent = p := by
  simp [parent, child]

end Path

end CardLogic
