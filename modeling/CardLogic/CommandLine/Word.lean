import CardLogic.Text.Digit

/-!
The words of a command line, as the options known at one place understand them.

A word that starts with a dash asks for options.  A long option may be shortened to
whatever beginning is still unique, and a word whose beginning is not refuses the whole
line.  Short options may stand together in one word, and what follows the one that
takes a key is the key.  A word of two dashes separates: after it nothing is an option.
Two dashes are no key either.

A word that no option understands is plain if it is a number or holds a blank; any other
is a stray, which is refused only when the whole line has been read.
-/

namespace CardLogic.CommandLine

inductive Switch where
  | help
  | version
  | verbose
  | card
  deriving DecidableEq, Repr

abbrev Known := List (List Char × Switch)

def generalOptions : Known :=
  [("-h".toList, .help), ("--help".toList, .help), ("--version".toList, .version),
    ("--verbose".toList, .verbose), ("-v".toList, .verbose)]

def commandOptions : Known :=
  [("-h".toList, .help), ("--help".toList, .help), ("--card".toList, .card), ("-c".toList, .card)]

inductive Ask where
  | help
  | version
  | verbose
  | card (key : String)
  /-- The key of the card is the next word. -/
  | cardNext
  deriving DecidableEq, Repr

inductive Word where
  | plain (text : String)
  | separator
  | asks (wishes : List Ask)
  /-- Something that is not known here. -/
  | stray
  /-- An option with something attached that does not go with it. -/
  | refused
  deriving DecidableEq, Repr

namespace Switch

/-- What an option asks for if nothing is attached to it. -/
def alone : Switch → Ask
  | help => .help
  | version => .version
  | verbose => .verbose
  | card => .cardNext

/-- The card that is asked for by a key attached to its option. -/
def attached (key : List Char) : Ask :=
  .card (if key = ['-', '-'] then "" else String.ofList key)

/-- What a long option asks for, with what follows an equals sign. -/
def long (s : Switch) : Option (List Char) → Word
  | none => .asks [s.alone]
  | some text => if s = card then .asks [attached text] else .refused

/-- What a short option and the text attached to it ask for, if the text goes with it.
Characters attached to an option that takes no key are further options. -/
def short (known : Known) : Switch → List Char → Option (List Ask)
  | s, [] => if s = card then some [attached []] else none
  | s, c :: rest =>
    if s = card then some [attached (c :: rest)]
    else
      match known.lookup ['-', c] with
      | none => none
      | some next =>
        (if rest = [] then some [next.alone] else short known next rest).map (s.alone :: ·)

end Switch

namespace Word

def afterEquals : List Char → Option (List Char)
  | [] => none
  | c :: s => if c = '=' then some s else afterEquals s

/-- The options that a long name or its beginning may mean. -/
def meanings (known : Known) (name : List Char) : List Switch :=
  match known.lookup name with
  | some s => [s]
  | none => (known.filter fun o => name.isPrefixOf o.1).map Prod.snd

def areDigits (s : List Char) : Bool := s.all fun c => (Text.digitValue? c).isSome

/-- A number without sign: digits, with a point before the last of them perhaps. -/
def isUnsigned (s : List Char) : Bool :=
  let whole := s.takeWhile (· ≠ '.')
  match s.drop whole.length with
  | [] => s ≠ [] && areDigits s
  | _ :: places => places ≠ [] && areDigits whole && areDigits places

/-- Whether the characters after a dash make a negative number.  A single line feed may
follow them. -/
def isNumber (s : List Char) : Bool :=
  isUnsigned (if s.getLast? = some '\n' then s.dropLast else s)

def unknown (rest : List Char) : Word :=
  if isNumber rest ∨ ' ' ∈ rest then .plain (String.ofList ('-' :: rest)) else .stray

def ofWishes : Option (List Ask) → Word
  | some wishes => .asks wishes
  | none => .refused

/-- The word as the known options understand it; nothing if it may mean several. -/
def ofChars? (known : Known) : List Char → Option Word
  | ['-', '-'] => some .separator
  | '-' :: '-' :: rest =>
    let word := '-' :: '-' :: rest
    match meanings known (word.takeWhile (· ≠ '=')) with
    | [] => some (unknown ('-' :: rest))
    | [s] => some (s.long (afterEquals word))
    | _ => none
  | '-' :: c :: rest =>
    match known.lookup ['-', c] with
    | none => some (unknown (c :: rest))
    | some s =>
      match rest with
      | [] => some (.asks [s.alone])
      | '=' :: text => some (ofWishes (s.short known text))
      | text => some (ofWishes (s.short known text))
  | word => some (.plain (String.ofList word))

/-- The words of a line; nothing if one of them may mean several options. -/
def ofLine? (known : Known) : List String → Option (List Word)
  | [] => some []
  | text :: texts =>
    match ofChars? known text.toList with
    | none => none
    | some .separator => some (.separator :: texts.map plain)
    | some word => (ofLine? known texts).map (word :: ·)

end Word

end CardLogic.CommandLine
