import CardLogic.Text.Basic

/-!
Lines.

There are two notions, and the library needs both.  `lines` cuts a text at every
line boundary there is, the ten of `isBoundary` and the pair of a carriage return
and a line feed; a boundary at the end opens no further line.  `pieces` cuts at one
given character and keeps the empty piece after a final one.

`unified` is how a text file is read: each of the three usual line ends becomes
one line feed.
-/

namespace CardLogic.Text

variable {α : Type}

/-- A character put before the first of the pieces. -/
def consFirst (c : α) : List (List α) → List (List α)
  | [] => [[c]]
  | l :: ls => (c :: l) :: ls

section Boundaries

variable [HasCode α]

/-- The characters that end a line. -/
def isBoundary (c : α) : Bool :=
  let n := code c
  (0x0A ≤ n && n ≤ 0x0D) || (0x1C ≤ n && n ≤ 0x1E) || n == 0x85 || n == 0x2028 || n == 0x2029

/-- Whether a character and the one after it are a carriage return and a line feed. -/
def startsPair (c : α) (rest : List α) : Bool :=
  code c == 0x0D && rest.head?.any fun d => code d == 0x0A

def lines : List α → List (List α)
  | [] => []
  | c :: s =>
    if startsPair c s then lines s
    else if isBoundary c then [] :: lines s
    else consFirst c (lines s)

end Boundaries

def pieces [DecidableEq α] (d : α) : List α → List (List α)
  | [] => [[]]
  | c :: s => if c = d then [] :: pieces d s else consFirst c (pieces d s)

/-- The pieces of a text, with the character put between them again. -/
def joinPieces (d : α) : List (List α) → List α
  | [] => []
  | [l] => l
  | l :: ls => l ++ d :: joinPieces d ls

theorem pieces_ne_nil [DecidableEq α] (d : α) : ∀ s, pieces d s ≠ []
  | [] => by simp [pieces]
  | c :: s => by
    rw [pieces]
    split
    · simp
    · cases pieces d s <;> simp [consFirst]

/-- Cutting a text loses nothing. -/
theorem joinPieces_pieces [DecidableEq α] (d : α) : ∀ s, joinPieces d (pieces d s) = s
  | [] => rfl
  | c :: s => by
    have ih := joinPieces_pieces d s
    have hne := pieces_ne_nil d s
    rw [pieces]
    cases h : pieces d s with
    | nil => exact absurd h hne
    | cons l ls =>
      rw [h] at ih
      by_cases hc : c = d
      · subst hc
        simp [joinPieces, ih]
      · simp only [hc, if_false, consFirst]
        cases ls with
        | nil => simp_all [joinPieces]
        | cons m ms => simpa [joinPieces] using ih

/-- The text with every carriage return, alone or before a line feed, read as one
line feed. -/
def unified : List Char → List Char
  | [] => []
  | '\r' :: '\n' :: s => '\n' :: unified s
  | c :: s => (if c = '\r' then '\n' else c) :: unified s

end CardLogic.Text
