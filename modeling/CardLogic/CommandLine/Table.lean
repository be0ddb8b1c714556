import CardLogic.CommandLine.Screen

/-!
Tables on a terminal.

A cell may hold several lines, and a row is as high as its highest cell.  A column is as
wide as the widest line in it, if the terminal is wide enough for all columns.  If not,
the last column gives way: its long lines are wrapped, while the other columns have
theirs cut off at a mark of omission.
-/

namespace CardLogic.CommandLine

structure Table where
  header : List String
  rows : List (List String)

namespace Table

open Text

/-! ## Widths -/

def cellWidth (cell : String) : Nat :=
  (Text.lines (Screen.audible cell)).foldl (fun n line => max n (width line)) 0

def column (t : Table) (i : Nat) : List String :=
  (t.header :: t.rows).map fun row => row.getD i ""

/-- The blanks on the two sides of a cell. -/
def padding : Nat := 2

/-- What the columns would take, with their blanks. -/
def wishes (t : Table) : List Nat :=
  (List.range t.header.length).map fun i =>
    (t.column i).foldl (fun n cell => max n (cellWidth cell)) 0 + padding

/-- The cells of a row that belong to no column: one at either end and one between two
columns. -/
def borders (columns : Nat) : Nat := columns + 1

/-- A quotient rounded to the nearest number, or to the even one of two. -/
def rounded (n d : Nat) : Nat :=
  let q := n / d
  let r := n % d
  if 2 * r < d ∨ (2 * r = d ∧ q % 2 = 0) then q else q + 1

def total (widths : List Nat) : Nat := widths.foldl (· + ·) 0

/-- Takes away an excess from columns, as evenly as can be; `n` of them take any cells. -/
def narrowed (n excess : Nat) : List Nat → List Nat
  | [] => []
  | w :: ws =>
    if w = 0 then w :: narrowed n excess ws
    else
      let cut := min w (rounded excess n)
      (w - cut) :: narrowed (n - 1) (excess - cut) ws

/-- The widths of columns that may take so many cells.  The last column gives way first,
then all of them. -/
def fitted (limit : Nat) (widths : List Nat) : List Nat :=
  let last := widths.getLast?.map (· - (total widths - limit))
  let widths := widths.dropLast ++ last.toList
  narrowed (widths.countP (· ≠ 0)) (total widths - limit) widths

def widths (t : Table) (limit : Nat) : List Nat :=
  let limit := limit - borders t.header.length
  fitted limit (t.wishes.map (min limit))

/-! ## Lines -/

/-- The lines of a cell in a column, which may go on in further lines.  A column without
room has none. -/
def cellLines (wraps : Bool) (columnWidth : Nat) (cell : String) : List (List Char) :=
  let limit := columnWidth - padding
  if limit = 0 then []
  else
    (pieces '\n' (Screen.audible cell)).flatMap fun line =>
      let line := Screen.filled line
      (if wraps then Screen.wrapped false limit line else [line]).map (Screen.cutOff limit)

def withBlanks (limit : Nat) (line : List Char) : List Char :=
  line ++ List.replicate (limit - width line) ' '

/-- A line of a cell, filled up to the width of its column.  A joiner at the end of the line
takes in the first blank, so that the line is filled up a second time. -/
def padded (columnWidth : Nat) (line : List Char) : List Char :=
  if columnWidth ≤ padding then List.replicate columnWidth ' '
  else
    let limit := columnWidth - padding
    ' ' :: withBlanks limit (withBlanks limit line) ++ [' ']

/-- The lines of each cell in a row.  The last column is the one that wraps. -/
def rowCells (widths : List Nat) (row : List String) : List (List (List Char)) :=
  (row.zip widths).mapIdx fun i (cell, w) => cellLines (i + 1 = widths.length) w cell

def rowLine (widths : List Nat) (cells : List (List (List Char))) (i : Nat) : List Char :=
  ' ' :: joinPieces ' ' (List.zipWith (fun w ls => padded w (ls.getD i [])) widths cells) ++ [' ']

def rowLines (widths : List Nat) (row : List String) : List (List Char) :=
  let cells := rowCells widths row
  let height := cells.foldl (fun n ls => max n ls.length) 1
  (List.range height).map (rowLine widths cells)

/-- The table on a terminal, with a line below the header and an empty one above and
below it all. -/
def lines (t : Table) (limit : Nat) : List (List Char) :=
  let widths := t.widths limit
  let full := total widths + borders widths.length
  let blank := List.replicate full ' '
  let rule := ' ' :: List.replicate (full - 2) '─' ++ [' ']
  blank :: rowLines widths t.header ++ rule :: t.rows.flatMap (rowLines widths) ++ [blank]

end Table

end CardLogic.CommandLine
