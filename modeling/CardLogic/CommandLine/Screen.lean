import CardLogic.Text.Blank
import CardLogic.Text.Lines
import CardLogic.Text.Width

/-!
Lines of text on a terminal.

Characters that ring or move the cursor are left out, and tabs are filled up to the next
stop.  A line that is too wide goes on in the next one with the first word that does not
fit.  Blanks that stand beyond the edge are dropped.
-/

namespace CardLogic.CommandLine.Screen

open Text

def tabWidth : Nat := 8

/-- Characters that ring or move the cursor and show nothing. -/
def isSilent (c : Char) : Bool :=
  c.toNat = 7 || c.toNat = 8 || (11 ≤ c.toNat && c.toNat ≤ 13)

def audible (text : String) : List Char := text.toList.filter fun c => !isSilent c

/-- The text between tabs, from a column on; each piece but the last reaches a stop. -/
def filledFrom (column : Nat) : List (List Char) → List Char
  | [] => []
  | [l] => l
  | l :: ls =>
    let reached := column + width (l ++ [' '])
    let missing := (tabWidth - reached % tabWidth) % tabWidth
    l ++ List.replicate (missing + 1) ' ' ++ filledFrom (reached + missing) ls

def filled (line : List Char) : List Char := filledFrom 0 (pieces '\t' line)

/-! ## Long lines -/

/-- The words of a line, each with the blanks after it and the first with those before. -/
def words (line : List Char) : List (List Char) :=
  match (stripStart line).splitBy fun c d => !isBlank c || isBlank d with
  | [] => []
  | w :: ws => (line.takeWhile isBlank ++ w) :: ws

/-- Clusters put on lines, after those that make up `line`. -/
def foldClusters (limit : Nat) (line : List Char) : List (List Char) → List (List Char)
  | [] => [line]
  | c :: cs =>
    if limit < width line + width c then line :: foldClusters limit c cs
    else foldClusters limit (line ++ c) cs

/-- Words put on lines, after those that make up `line`.  A word wider than a whole line
is cut at the edge if `cuts` says so; otherwise it runs on. -/
def wrapWords (cuts : Bool) (limit : Nat) (line : List Char) :
    List (List Char) → List (List Char)
  | [] => [line]
  | w :: ws =>
    let wordWidth := width (stripEnd w)
    let above := if line = [] then [] else [line]
    if width line + wordWidth ≤ limit then wrapWords cuts limit (line ++ w) ws
    else if cuts && limit < wordWidth then
      let parts := foldClusters limit [] (clusters w)
      above ++ parts.dropLast ++ wrapWords cuts limit (parts.getLast?.getD []) ws
    else above ++ wrapWords cuts limit w ws

/-- A line without the blanks that stand at its end beyond so many characters. -/
def trimmed (limit : Nat) (line : List Char) : List Char :=
  let blanks := (line.reverse.takeWhile isBlank).length
  line.take (line.length - min blanks (line.length - limit))

def wrapped (cuts : Bool) (limit : Nat) (line : List Char) : List (List Char) :=
  let lines := match words line with
    | [] => [line]
    | ws => wrapWords cuts limit [] ws
  lines.map (trimmed limit)

/-- The clusters that fit into some cells, and blanks in the cells that are left. -/
def start : (cells : Nat) → List (List Char) → List Char
  | cells, [] => List.replicate cells ' '
  | cells, c :: cs =>
    if width c ≤ cells then c ++ start (cells - width c) cs else List.replicate cells ' '

def cut (limit : Nat) (line : List Char) : List Char :=
  if width line ≤ limit then line else start limit (clusters line)

/-- A line up to the edge, with a mark where something was left out. -/
def cutOff (limit : Nat) (line : List Char) : List Char :=
  if width line ≤ limit then line else start (limit - 1) (clusters line) ++ ['…']

def lines (limit : Nat) (text : String) : List (List Char) :=
  (pieces '\n' (audible text)).flatMap fun line =>
    (wrapped true limit (filled line)).map (cut limit)

def render (lines : List (List Char)) : String :=
  String.join (lines.map fun line => String.ofList line ++ "\n")

end CardLogic.CommandLine.Screen
