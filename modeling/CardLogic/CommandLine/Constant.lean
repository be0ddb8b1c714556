import CardLogic.Decimal.Whole
import CardLogic.Json.Reader
import CardLogic.Text.Lines

/-!
Constants written out.

A constant is a number, a text, a name of a value, or constants in brackets: a tuple in
round ones, a set or a table in curly ones.  Commas alone make a tuple too.  Square
brackets, which no mark holds, are not read.  A number may
have one sign, and a real one may be followed by a sign and an imaginary one.  Elements of
a set and keys of a table have to be hashable, which a set and a table are not.

The module says which texts are constants; nothing depends on what they mean.
-/

namespace CardLogic.CommandLine.Constant

open Text

inductive Bracket where
  | round
  | curly
  deriving DecidableEq, Repr

inductive Token where
  | number (imaginary : Bool)
  | text (bytes : Bool)
  | value
  /-- The name that makes an empty set if round brackets follow. -/
  | setName
  | sign
  | comma
  | colon
  | opening (b : Bracket)
  | closing (b : Bracket)
  deriving DecidableEq, Repr

/-! ## Numbers -/

/-- Digits at the start of a text, parted by single underscores if at all, without these. -/
def digits (isDigit : Char → Bool) : List Char → List Char × List Char
  | [] => ([], [])
  | '_' :: c :: s =>
    if isDigit c then
      let (ds, rest) := digits isDigit s
      (c :: ds, rest)
    else ([], '_' :: c :: s)
  | c :: s =>
    if isDigit c then
      let (ds, rest) := digits isDigit s
      (c :: ds, rest)
    else ([], c :: s)

/-- Digits that do not start with an underscore. -/
def decimals (s : List Char) : List Char × List Char :=
  if s.head? = some '_' then ([], s) else digits Char.isDigit s

def dropExponent? (s : List Char) : Option (List Char) :=
  match s with
  | e :: s =>
    if e = 'e' ∨ e = 'E' then
      let s := if s.head? = some '-' ∨ s.head? = some '+' then s.tail else s
      let (ds, rest) := decimals s
      if ds = [] then none else some rest
    else none
  | [] => none

/-- The letters that may open a number of another base, with the digits of that base. -/
def bases : List (Char × (Char → Bool)) :=
  [('x', fun c => (Json.hexValue? c).isSome), ('o', fun c => '0' ≤ c && c ≤ '7'),
    ('b', fun c => c = '0' || c = '1')]

/-- A number of another base, after its zero. -/
def dropBased? : List Char → Option (List Char)
  | [] => none
  | letter :: s => do
    let isDigit ← bases.lookup letter.toLower
    let (ds, rest) := digits isDigit s
    if ds = [] then none else some rest

/-- Whether digits alone are a whole number: they start with a zero only if there are no
others, and are not too many. -/
def isWhole (ds : List Char) : Bool :=
  ds.all (· = '0') || (ds.head? ≠ some '0' && ds.length ≤ Decimal.digitLimit)

/-- Whether the number at the start of a text is imaginary, and what follows it.  The text
starts with a digit, or with a point and a digit. -/
def number? (s : List Char) : Option (Bool × List Char) :=
  match s.head?.filter (· = '0') |>.bind fun _ => dropBased? s.tail with
  | some rest => some (false, rest)
  | none =>
    let (whole, rest) := decimals s
    let (hasPoint, rest) :=
      match rest with
      | '.' :: rest => (true, (decimals rest).2)
      | _ => (false, rest)
    let (hasExponent, rest) :=
      match dropExponent? rest with
      | some rest => (true, rest)
      | none => (false, rest)
    match rest with
    | 'j' :: rest => some (true, rest)
    | 'J' :: rest => some (true, rest)
    | rest => if hasPoint || hasExponent || isWhole whole then some (false, rest) else none

/-! ## Texts -/

/-- Whether a text starts with so many digits of base sixteen. -/
def startsHex (count : Nat) (s : List Char) : Bool :=
  (s.take count).length = count && (s.take count).all fun c => (Json.hexValue? c).isSome

def greatestPoint : Nat := 0x10FFFF

def hexNumber (ds : List Char) : Nat := ds.foldl (fun n c => n * 16 + (Json.hexValue? c).getD 0) 0

/-- Whether a text starts with the name of a character in curly brackets. -/
def startsName : List Char → Bool
  | '\x7b' :: s =>
    let name := s.takeWhile fun c => c.isAlphanum || c = ' ' || c = '-'
    name ≠ [] && (s.drop name.length).head? = some '\x7d'
  | _ => false

/-- Whether a backslash, a letter and a text are an escape, or no escape at all. -/
def escapes (bytes : Bool) (letter : Char) (s : List Char) : Bool :=
  if letter = 'x' then startsHex 2 s
  else if bytes then true
  else if letter = 'u' then startsHex 4 s
  else if letter = 'U' then startsHex 8 s && hexNumber (s.take 8) ≤ greatestPoint
  else if letter = 'N' then startsName s
  else true

structure Writing where
  /-- A backslash stands for itself. -/
  raw : Bool
  /-- The text holds bytes, and its characters are those of ASCII. -/
  bytes : Bool
  deriving DecidableEq, Repr

/-- The letters before the quotes of a text. -/
def writings : List (String × Writing) :=
  [("", ⟨false, false⟩), ("u", ⟨false, false⟩), ("r", ⟨true, false⟩), ("b", ⟨false, true⟩),
    ("br", ⟨true, true⟩), ("rb", ⟨true, true⟩)]

def fits (w : Writing) (c : Char) : Bool := !w.bytes || c.toNat < 0x80

/-- What follows a text, of which the part after its opening quotes is given.  The long
form ends at three quotes and may hold line ends. -/
def dropText? (w : Writing) (quote : Char) (long : Bool) : List Char → Option (List Char)
  | [] => none
  | '\\' :: c :: s =>
    if fits w c && (w.raw || escapes w.bytes c s) then dropText? w quote long s else none
  | c :: s =>
    if c = quote then
      if !long then some s
      else
        match s with
        | d :: e :: s =>
          if d = quote ∧ e = quote then some s else dropText? w quote long (d :: e :: s)
        | _ => none
    else if c = '\\' || (c = '\n' && !long) || !fits w c then none
    else dropText? w quote long s

/-- What follows a text, of which all but the letters before it is given. -/
def dropQuoted? (w : Writing) : List Char → Option (List Char)
  | a :: b :: c :: s =>
    if a = b ∧ b = c then dropText? w a true s else dropText? w a false (b :: c :: s)
  | a :: s => dropText? w a false s
  | [] => none

/-! ## Tokens -/

def isQuote (c : Char) : Bool := c = '\'' || c = '"'

def isGap (c : Char) : Bool := c = ' ' || c = '\t' || c = '\x0c'

def isNameChar (c : Char) : Bool := c.isAlphanum || c = '_' || 0x80 ≤ c.toNat

def nameToken? (name : List Char) : Option Token :=
  if ["None", "True", "False"].any (·.toList = name) then some .value
  else if name = "set".toList then some .setName
  else none

/-- A name, or a text with letters before its quotes. -/
def word? (s : List Char) : Option (Token × List Char) :=
  let name := s.takeWhile isNameChar
  let rest := s.drop name.length
  if rest.head?.any isQuote then do
    let w ← writings.findSome? fun (letters, w) =>
      if letters.toList = name.map Char.toLower then some w else none
    let rest ← dropQuoted? w rest
    pure (.text w.bytes, rest)
  else (nameToken? name).map (·, rest)

def signToken? : Char → Option Token
  | '+' | '-' => some .sign
  | ',' => some .comma
  | ':' => some .colon
  | '(' => some (.opening .round)
  | ')' => some (.closing .round)
  | '\x7b' => some (.opening .curly)
  | '\x7d' => some (.closing .curly)
  | _ => none

/-- The token at the start of a text that starts with no gap. -/
def token? : List Char → Option (Token × List Char)
  | '.' :: '.' :: '.' :: s => some (.value, s)
  | c :: s =>
    if c.isDigit || (c = '.' && s.head?.any Char.isDigit) then
      (number? (c :: s)).map fun (imaginary, rest) => (.number imaginary, rest)
    else if isQuote c || isNameChar c then word? (c :: s)
    else (signToken? c).map (·, s)
  | [] => none

/-- The greatest number of brackets that are open at a time. -/
def openLimit : Nat := 200

def openAfter (n : Nat) : Token → Nat
  | .opening _ => n + 1
  | .closing _ => n - 1
  | _ => n

/-- Whether a line starts with blanks, although there is something on it.  It may go on
after a backslash at its end, and a form feed takes it back to its start. -/
def isIndented (afterBlank : Bool) : List Char → Bool
  | [] => false
  | '\\' :: '\n' :: s => isIndented afterBlank s
  | c :: s =>
    if c = ' ' || c = '\t' then isIndented true s
    else if c = '\x0c' then isIndented false s
    else afterBlank && c ≠ '\n' && c ≠ '#'

/-- The lines of a text as tokens, where a line does not end inside brackets.  The fuel
bounds the tokens, gaps and remarks. -/
def tokenLines? : (fuel opened : Nat) → List Char → Option (List (List Token))
  | 0, _, _ => none
  | _, _, [] => some [[]]
  | fuel + 1, opened, c :: s =>
    if isGap c then tokenLines? fuel opened s
    else if c = '#' then tokenLines? fuel opened (s.dropWhile (· ≠ '\n'))
    else if c = '\\' then
      match s with
      | '\n' :: s => tokenLines? fuel opened s
      | _ => none
    else if c = '\n' then
      if opened ≠ 0 then tokenLines? fuel opened s
      else if isIndented false s then none
      else (tokenLines? fuel 0 s).map ([] :: ·)
    else
      match token? (c :: s) with
      | none => none
      | some (t, rest) =>
        let opened := openAfter opened t
        if openLimit < opened then none
        else
          match tokenLines? fuel opened rest with
          | some (l :: ls) => some ((t :: l) :: ls)
          | _ => none

/-- The tokens of a text, which stand on one line but for empty ones. -/
def tokens? (s : List Char) : Option (List Token) :=
  let s := unified s
  if s.contains '\x00' || isIndented false s then none
  else
    match (tokenLines? (s.length + 1) 0 s).map (·.filter (· ≠ [])) with
    | some [ts] => some ts
    | _ => none

/-! ## Grouping -/

inductive Kind where
  | number (imaginary : Bool)
  /-- A number with a sign. -/
  | signed (imaginary : Bool)
  /-- A text without brackets around it, which may go on. -/
  | text (bytes : Bool)
  | setName
  | other (hashable : Bool)
  deriving DecidableEq, Repr

namespace Kind

def isConstant (k : Kind) : Bool := k ≠ setName

def isHashable : Kind → Bool
  | other h => h
  | _ => true

/-- The kind of an expression in brackets. -/
def enclosed : Kind → Kind
  | text _ => other true
  | k => k

end Kind

inductive Slot where
  | empty
  | afterSign
  /-- A real number and a sign have been read. -/
  | afterReal
  | filled (k : Kind)
  deriving DecidableEq, Repr

namespace Slot

def fill? : Slot → Kind → Option Slot
  | empty, k => some (filled k)
  | afterSign, .number i => some (filled (.signed i))
  | afterReal, .number true => some (filled (.other true))
  | filled (.text b), .text c => if b = c then some (filled (.text b)) else none
  | _, _ => none

def sign? : Slot → Option Slot
  | empty => some afterSign
  | filled (.number false) => some afterReal
  | filled (.signed false) => some afterReal
  | _ => none

end Slot

/-- What has been read in a pair of brackets before the expression that is being read. -/
inductive Group where
  /-- Round brackets, or the whole text, without a comma so far. -/
  | single
  /-- The same after a comma, with whether all elements are hashable. -/
  | tuple (hashable : Bool)
  /-- The brackets after the name that makes an empty set. -/
  | call
  /-- Curly brackets without a comma or a colon so far. -/
  | curly
  | elements
  /-- A table before a key. -/
  | table
  /-- A table before a value. -/
  | entry
  deriving DecidableEq, Repr

namespace Group

def comma? (g : Group) (k : Kind) : Option Group :=
  if !k.isConstant then none
  else
    match g with
    | single => some (tuple k.isHashable)
    | tuple h => some (tuple (h && k.isHashable))
    | curly | elements => if k.isHashable then some elements else none
    | entry => some table
    | call | table => none

def colon? (g : Group) (k : Kind) : Option Group :=
  match g with
  | curly | table => if k.isConstant && k.isHashable then some entry else none
  | _ => none

/-- What a group is that ends with a bracket, after an expression or a comma. -/
def close? (g : Group) (b : Bracket) (slot : Slot) : Option Kind :=
  match b, slot with
  | .round, .empty =>
    match g with
    | single => some (.other true)
    | tuple h => some (.other h)
    | call => some (.other false)
    | _ => none
  | .round, .filled k =>
    match g with
    | single => some k.enclosed
    | tuple h => if k.isConstant then some (.other (h && k.isHashable)) else none
    | _ => none
  | .curly, .empty =>
    match g with
    | curly | elements | table => some (.other false)
    | _ => none
  | .curly, .filled k =>
    match g with
    | curly | elements => if k.isConstant && k.isHashable then some (.other false) else none
    | entry => if k.isConstant then some (.other false) else none
    | _ => none
  | _, _ => none

end Group

/-- The innermost group with its open expression, and those around it. -/
structure State where
  group : Group
  slot : Slot
  outer : List (Group × Slot)
  deriving DecidableEq, Repr

namespace State

def start : State := ⟨.single, .empty, []⟩

def fill? (s : State) (k : Kind) : Option State :=
  (s.slot.fill? k).map fun slot => { s with slot }

def enter? (s : State) (b : Bracket) : Option State :=
  match b, s.slot with
  | .round, .filled .setName => some ⟨.call, .empty, (s.group, .empty) :: s.outer⟩
  | _, .filled _ => none
  | .round, slot => some ⟨.single, .empty, (s.group, slot) :: s.outer⟩
  | .curly, slot => some ⟨.curly, .empty, (s.group, slot) :: s.outer⟩

def leave? (s : State) (b : Bracket) : Option State :=
  match s.outer with
  | [] => none
  | (group, slot) :: outer => do
    let k ← s.group.close? b s.slot
    fill? ⟨group, slot, outer⟩ k

/-- The state after a token that ends an expression inside a group. -/
def next? (s : State) (f : Group → Kind → Option Group) : Option State :=
  match s.slot with
  | .filled k => (f s.group k).map fun group => ⟨group, .empty, s.outer⟩
  | _ => none

def read? (s : State) : Token → Option State
  | .number i => s.fill? (.number i)
  | .text b => s.fill? (.text b)
  | .value => s.fill? (.other true)
  | .setName => s.fill? .setName
  | .sign => s.slot.sign?.map fun slot => { s with slot }
  | .comma => s.next? Group.comma?
  | .colon => s.next? Group.colon?
  | .opening b => s.enter? b
  | .closing b => s.leave? b

/-- Whether the text may end: no bracket is open, and there is a constant. -/
def isEnd (s : State) : Bool :=
  s.outer = [] && (s.group ≠ .single || s.slot ≠ .empty)
    && (s.group.close? .round s.slot).any Kind.isConstant

end State

def isConstant (s : List Char) : Bool :=
  ((tokens? s).bind (·.foldlM State.read? State.start)).any State.isEnd

end CardLogic.CommandLine.Constant
