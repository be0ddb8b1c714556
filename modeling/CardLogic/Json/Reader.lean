import CardLogic.Decimal.Binary64
import CardLogic.Decimal.Whole
import CardLogic.Value.Basic

/-!
Reading JSON.

The format is read strictly, with three names for the numbers it lacks.  A number with
a fraction or an exponent is a real number, any other a whole one.  Of a repeated field
the last value counts, at the place of the first.

A text is read from left to right, and the first flaw that is met is the one told.
-/

namespace CardLogic.Json

inductive Flaw where
  | malformed
  | tooManyDigits (e : Decimal.TooManyDigits)
  /-- More lists and objects lie in one another than are read. -/
  | tooDeep
  deriving DecidableEq, Repr

/-- What is read at the start of a text, and what follows it. -/
abbrev Reading (α : Type) := Except Flaw (α × List Char)

def isSpace (c : Char) : Bool := c = ' ' || c = '\t' || c = '\n' || c = '\r'

def skipSpace (s : List Char) : List Char := s.dropWhile isSpace

/-! ## Texts -/

def hexValue? (c : Char) : Option Nat :=
  if '0' ≤ c ∧ c ≤ '9' then some (c.toNat - 48)
  else if 'a' ≤ c ∧ c ≤ 'f' then some (c.toNat - 87)
  else if 'A' ≤ c ∧ c ≤ 'F' then some (c.toNat - 55)
  else none

def hexValue4? (a b c d : Char) : Option Nat := do
  let a ← hexValue? a
  let b ← hexValue? b
  let c ← hexValue? c
  let d ← hexValue? d
  pure (((a * 16 + b) * 16 + c) * 16 + d)

/-- The character that a letter after a backslash stands for. -/
def escaped? : Char → Option Char
  | '"' => some '"'
  | '\\' => some '\\'
  | '/' => some '/'
  | 'b' => some '\x08'
  | 'f' => some '\x0c'
  | 'n' => some '\n'
  | 'r' => some '\r'
  | 't' => some '\t'
  | _ => none

/-- The units of a text after its opening quote, and what follows the closing one.  A
character is one unit, and an escape by number is one unit too, which need not be a
character. -/
def readUnits : List Char → Option (List Nat × List Char)
  | [] => none
  | '"' :: s => some ([], s)
  | '\\' :: 'u' :: a :: b :: c :: d :: s => do
    let n ← hexValue4? a b c d
    let (us, rest) ← readUnits s
    pure (n :: us, rest)
  | '\\' :: c :: s => do
    let e ← escaped? c
    let (us, rest) ← readUnits s
    pure (e.toNat :: us, rest)
  | c :: s =>
    if c.toNat < 0x20 then none
    else do
      let (us, rest) ← readUnits s
      pure (c.toNat :: us, rest)

/-- Units as code points.  Two units may be the halves of one character; a half without
the other stays a half. -/
def joinHalves : List Nat → Text
  | [] => []
  | u :: v :: us =>
    if 0xD800 ≤ u ∧ u < 0xDC00 ∧ 0xDC00 ≤ v ∧ v < 0xE000 then
      Char.ofNat (0x10000 + (u - 0xD800) * 0x400 + (v - 0xDC00)) :: joinHalves us
    else .ofNat u :: joinHalves (v :: us)
  | u :: us => .ofNat u :: joinHalves us

def readText (s : List Char) : Reading Text :=
  match readUnits s with
  | none => .error .malformed
  | some (us, rest) => .ok (joinHalves us, rest)

/-! ## Numbers -/

def signed (negative : Bool) (n : Nat) : Int := if negative then -(n : Int) else n

/-- The digits before any point: a single zero, or digits that do not start with one. -/
def readWhole : List Char → Option (List Char × List Char)
  | '0' :: s => some (['0'], s)
  | c :: s =>
    if c.isDigit then some (c :: s.takeWhile Char.isDigit, s.dropWhile Char.isDigit) else none
  | [] => none

/-- The digits after a point.  A point without digits is left unread. -/
def readFraction : List Char → List Char × List Char
  | '.' :: c :: s =>
    if c.isDigit then (c :: s.takeWhile Char.isDigit, s.dropWhile Char.isDigit)
    else ([], '.' :: c :: s)
  | s => ([], s)

/-- Whether an exponent is negative, and the text after its sign. -/
def readSign : List Char → Bool × List Char
  | '-' :: s => (true, s)
  | '+' :: s => (false, s)
  | s => (false, s)

/-- An exponent.  One without digits is left unread. -/
def readExponent : List Char → Option Int × List Char
  | [] => (none, [])
  | c :: s =>
    if c = 'e' ∨ c = 'E' then
      let (negative, t) := readSign s
      let ds := t.takeWhile Char.isDigit
      if ds = [] then (none, c :: s)
      else
        (some (signed negative (Nat.ofDigitChars 10 ds 0)), t.dropWhile Char.isDigit)
    else (none, c :: s)

def readMagnitude (negative : Bool) (s : List Char) : Reading Value :=
  match readWhole s with
  | none => .error .malformed
  | some (whole, s) =>
    let (fraction, s) := readFraction s
    let (exponent, s) := readExponent s
    if fraction = [] ∧ exponent = none then
      match Decimal.ofDigits whole with
      | .error e => .error (.tooManyDigits e)
      | .ok n => .ok (.whole (signed negative n), s)
    else
      let n := Nat.ofDigitChars 10 (whole ++ fraction) 0
      .ok (.real (Binary64.ofDecimal negative n (exponent.getD 0 - fraction.length)), s)

def readNumber : List Char → Reading Value
  | '-' :: s => readMagnitude true s
  | s => readMagnitude false s

/-! ## Values -/

def names : List (List Char × Value) :=
  [("null".toList, .null), ("true".toList, .bool true), ("false".toList, .bool false),
    ("NaN".toList, .real .nan), ("Infinity".toList, .real (.infinite false)),
    ("-Infinity".toList, .real (.infinite true))]

/-- The value that a name at the start of a text stands for. -/
def readName? (s : List Char) : Option (Value × List Char) :=
  names.findSome? fun (name, v) => if name.isPrefixOf s then some (v, s.drop name.length) else none

def depthLimit : Nat := 980

mutual

/-- A value at the start of a text.  The fuel bounds the calls that are open at a time,
and `depth` says how many lists and objects may still be opened. -/
def readValue : (fuel depth : Nat) → List Char → Reading Value
  | 0, _, _ => .error .malformed
  | fuel + 1, depth, s =>
    match s with
    | '"' :: t => (readText t).map fun (x, rest) => (.text x, rest)
    | '[' :: t =>
      if depth = 0 then .error .tooDeep
      else
        match skipSpace t with
        | ']' :: rest => .ok (.list [], rest)
        | t => (readItems fuel (depth - 1) t).map fun (vs, rest) => (.list vs, rest)
    | '\x7b' :: t =>
      if depth = 0 then .error .tooDeep
      else
        match skipSpace t with
        | '\x7d' :: rest => .ok (.object [], rest)
        | t =>
          (readFields fuel (depth - 1) t).map fun (fs, rest) =>
            (.object (Metadata.ofList fs), rest)
    | s =>
      match readName? s with
      | some found => .ok found
      | none => readNumber s

/-- The items of a list from the first on, up to the closing bracket. -/
def readItems : (fuel depth : Nat) → List Char → Reading (List Value)
  | 0, _, _ => .error .malformed
  | fuel + 1, depth, s =>
    match readValue fuel depth s with
    | .error e => .error e
    | .ok (v, rest) =>
      match skipSpace rest with
      | ']' :: rest => .ok ([v], rest)
      | ',' :: rest =>
        (readItems fuel depth (skipSpace rest)).map fun (vs, rest) => (v :: vs, rest)
      | _ => .error .malformed

/-- The fields of an object from the first on, up to the closing brace. -/
def readFields : (fuel depth : Nat) → List Char → Reading (List (Text × Value))
  | 0, _, _ => .error .malformed
  | fuel + 1, depth, s =>
    match s with
    | '"' :: t =>
      match readText t with
      | .error e => .error e
      | .ok (name, rest) =>
        match skipSpace rest with
        | ':' :: rest =>
          match readValue fuel depth (skipSpace rest) with
          | .error e => .error e
          | .ok (v, rest) =>
            match skipSpace rest with
            | '\x7d' :: rest => .ok ([(name, v)], rest)
            | ',' :: rest =>
              (readFields fuel depth (skipSpace rest)).map fun (fs, rest) =>
                ((name, v) :: fs, rest)
            | _ => .error .malformed
        | _ => .error .malformed
    | _ => .error .malformed

end

/-- The value that a whole text is.  Every open call but the innermost has read a
bracket or brace, or is the list of one that has. -/
def readChars (s : List Char) : Except Flaw Value :=
  match readValue (2 * s.length + 2) depthLimit (skipSpace s) with
  | .error e => .error e
  | .ok (v, rest) => if skipSpace rest = [] then .ok v else .error .malformed

def read (text : String) : Except Flaw Value := readChars text.toList

end CardLogic.Json
