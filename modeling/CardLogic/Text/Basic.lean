/-!
Texts as programs hold them.

A text may hold halves: code points that stand for one half of a character of two
units.  Files of fields can name one without the other.  A half is no character and has
no form in UTF-8, so a text with one can be kept, compared and shown in quotes, but no
file can hold it.  Paths, file names and card keys name entries of the file tree and
are plain strings.

What the library asks of the characters of a text is mostly their number alone, and so
it asks it of characters and of code points alike (`HasCode`).
-/

namespace CardLogic

/-- Kinds of characters that are known by a number. -/
class HasCode (α : Type) where
  code : α → Nat

export HasCode (code)

inductive CodePoint where
  | char (c : Char)
  /-- The half of a character of two units, counted from U+D800. -/
  | half (n : Fin 0x800)
  deriving DecidableEq, Inhabited, Repr

namespace CodePoint

instance : Coe Char CodePoint := ⟨char⟩

def firstHalf : Nat := 0xD800

def toNat : CodePoint → Nat
  | char c => c.toNat
  | half n => firstHalf + n

def ofNat (n : Nat) : CodePoint :=
  if h : firstHalf ≤ n ∧ n - firstHalf < 0x800 then half ⟨n - firstHalf, h.2⟩
  else char (Char.ofNat n)

def isChar : CodePoint → Bool
  | char _ => true
  | half _ => false

/-- Whether a code point is a character of some kind. -/
def is (p : Char → Bool) : CodePoint → Bool
  | char c => p c
  | half _ => false

/-- The character, or what is shown in its place. -/
def shown : CodePoint → Char
  | char c => c
  | half _ => '\ufffd'

end CodePoint

instance : HasCode Char := ⟨Char.toNat⟩

instance : HasCode CodePoint := ⟨CodePoint.toNat⟩

abbrev Text := List CodePoint

namespace Text

def ofChars (s : List Char) : Text := s.map .char

def ofString (s : String) : Text := ofChars s.toList

instance : Coe String Text := ⟨ofString⟩

/-- Whether a text has no half in it. -/
def isWhole (s : Text) : Bool := s.all CodePoint.isChar

def chars (s : Text) : List Char := s.map CodePoint.shown

def toString (s : Text) : String := String.ofList s.chars

/-- Halves in a row: how many characters stand before the first, and how many halves
follow it at once. -/
structure Halves where
  position : Nat
  first : Fin 0x800
  more : Nat
  deriving DecidableEq, Repr

/-- The first halves in a text. -/
def halves? : Text → Option Halves
  | [] => none
  | .half n :: s => some ⟨0, n, (s.takeWhile fun c => !c.isChar).length⟩
  | .char _ :: s => (halves? s).map fun h => { h with position := h.position + 1 }

/-! ## Texts without halves -/

@[simp] theorem ofChars_nil : ofChars [] = [] := rfl

@[simp] theorem ofChars_cons (c : Char) (s : List Char) :
    ofChars (c :: s) = .char c :: ofChars s := rfl

@[simp] theorem chars_nil : chars [] = [] := rfl

@[simp] theorem chars_cons (c : Char) (s : Text) : chars (.char c :: s) = c :: chars s := rfl

@[simp] theorem chars_append (s s' : Text) : chars (s ++ s') = chars s ++ chars s' :=
  List.map_append

@[simp] theorem chars_ofChars (s : List Char) : (ofChars s).chars = s := by
  induction s with
  | nil => rfl
  | cons c s ih => exact congrArg (c :: ·) ih

@[simp] theorem toString_ofString (s : String) : (ofString s).toString = s := by
  rw [toString, ofString, chars_ofChars, String.ofList_toList]

@[simp] theorem char_mem_ofChars {c : Char} {s : List Char} : .char c ∈ ofChars s ↔ c ∈ s := by
  induction s with
  | nil => simp
  | cons d s ih => simp [ih]

@[simp] theorem isWhole_cons (c : Char) (s : Text) : isWhole (.char c :: s) = isWhole s := rfl

@[simp] theorem isWhole_append (s s' : Text) : isWhole (s ++ s') = (isWhole s && isWhole s') :=
  List.all_append

@[simp] theorem isWhole_ofChars (s : List Char) : (ofChars s).isWhole = true := by
  induction s with
  | nil => rfl
  | cons c s ih => exact ih

@[simp] theorem chars_ofString (s : String) : (ofString s).chars = s.toList := chars_ofChars _

@[simp] theorem isWhole_ofString (s : String) : (ofString s).isWhole = true := isWhole_ofChars _

/-- A text without halves is one of characters. -/
theorem isWhole_iff {s : Text} : s.isWhole = true ↔ ofChars s.chars = s := by
  constructor
  · intro h
    induction s with
    | nil => rfl
    | cons c s ih =>
      cases c with
      | char c => exact congrArg (CodePoint.char c :: ·) (ih h)
      | half n => exact absurd h (by simp [isWhole, CodePoint.isChar])
  · intro h
    rw [← h]
    exact isWhole_ofChars _

theorem halves?_eq_none {s : Text} : s.halves? = none ↔ s.isWhole = true := by
  induction s with
  | nil => exact ⟨fun _ => rfl, fun _ => rfl⟩
  | cons c s ih =>
    cases c with
    | char c => rw [halves?, Option.map_eq_none_iff, ih]; rfl
    | half n => simp [halves?, isWhole, CodePoint.isChar]

theorem isWhole_eq_false {s : Text} {h : Halves} (hs : s.halves? = some h) : s.isWhole = false := by
  rw [← Bool.not_eq_true, ← halves?_eq_none, hs]
  simp

end Text

end CardLogic
