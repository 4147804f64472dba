import JobHooks.Text.Blank
import JobHooks.Text.Letter
import JobHooks.Text.Percent

/-!
# Patterns

A filter may ask for values that match a pattern.  Nothing is ever matched here, but a text that is
no pattern makes the filter invalid: `patternFault?` reads a text as a pattern and tells what is
wrong with it, if anything.

A pattern is a sequence of elements: characters, escapes with a backslash, brackets with a choice of
characters, and groups; each may be repeated, and bars stand between alternatives.  Flags change the
`Mode` in which the rest of a group is read.  What needs tables of the properties of characters is
refused: properties by name, the classes of digits, blanks and word characters beyond seven bits,
and to disregard case beyond seven bits.  What could match part of a character is refused as well.
Boundaries of words are a fault of their own, since they are found only after all others.

A pattern comes from between braces and has therefore no closing brace.  Whatever a brace opens in
it, such as the number of repetitions, is never closed and thus a fault.
-/

namespace JobHooks.Log

set_option autoImplicit false

/-- What can be wrong with a pattern. -/
inductive PatternFault where
  | malformed
  | wordBoundary
  deriving Repr, DecidableEq, Inhabited

/-- The words for what is wrong with a pattern. -/
def PatternFault.message : PatternFault → String
  | malformed => "error building NFA"
  | wordBoundary =>
    "unsupported regex feature for DFAs: cannot build DFAs for regexes with Unicode word "
      ++ "boundaries; switch to ASCII word boundaries, or heuristically enable Unicode word "
      ++ "boundaries or use a different regex engine"

namespace Pattern

/-! ## Modes -/

/-- How a part of a pattern is read. -/
structure Mode where
  ignoresCase : Bool := false
  /-- Whether elements stand for characters, and not for characters of seven bits. -/
  isUnicode : Bool := true
  /-- Whether blanks and comments do not count. -/
  ignoresBlanks : Bool := false
  deriving Repr, DecidableEq, Inhabited

namespace Mode

/-- A mode after flags; those behind a dash are taken back. -/
def apply (flags : List Char) (mode : Mode) : Mode :=
  let given := flags.takeWhile (· != '-')
  let takenBack := flags.dropWhile (· != '-')
  let change (flag : Char) (current : Bool) : Bool :=
    if given.contains flag then true else if takenBack.contains flag then false else current
  { ignoresCase := change 'i' mode.ignoresCase
    isUnicode := change 'u' mode.isUnicode
    ignoresBlanks := change 'x' mode.ignoresBlanks }

/-- The text behind blanks and comments; a comment begins with a number sign and ends with its line.
-/
def behindBlanks (inComment : Bool) : List Char → List Char
  | [] => []
  | character :: rest =>
    if inComment then behindBlanks (character != '\n') rest
    else if Text.isBlank character then behindBlanks false rest
    else if character = '#' then behindBlanks true rest
    else character :: rest

/-- The text behind what does not count. -/
def skip (mode : Mode) (text : List Char) : List Char :=
  if mode.ignoresBlanks then behindBlanks false text else text

end Mode

/-! ## Elements -/

/-- What a character or an escape stands for. -/
inductive Element where
  /-- A character, perhaps given as a byte. -/
  | literal (character : Char) (isByte : Bool)
  /-- A class of characters by its letter. -/
  | letterClass (isNegated : Bool)
  | wordBoundary
  /-- Another place between two characters. -/
  | place
  deriving Repr, DecidableEq, Inhabited

namespace Element

/-- Whether an element may stand outside of brackets. -/
def mayStand (mode : Mode) : Element → Bool
  | literal character isByte =>
    if mode.isUnicode then !mode.ignoresCase else !isByte || character.toNat < 0x80
  | letterClass isNegated => !mode.isUnicode && !isNegated
  | wordBoundary | place => true

/-- Whether an element may stand in brackets. -/
def mayStandInBrackets (mode : Mode) : Element → Bool
  | literal character _ => if mode.isUnicode then !mode.ignoresCase else character.toNat < 0x80
  | letterClass isNegated => !mode.isUnicode && !isNegated
  | wordBoundary | place => false

end Element

/-- The value of a hexadecimal digit. -/
def digitValue? (character : Char) : Option Nat :=
  if character.toNat < 0x80 then Text.hexDigitValue? (UInt8.ofNat character.toNat) else none

/-- So many hexadecimal digits, as a number. -/
def readDigits (mode : Mode) : Nat → Nat → List Char → Option (Nat × List Char)
  | 0, value, text => some (value, text)
  | _ + 1, _, [] => none
  | count + 1, value, character :: rest => do
    readDigits mode count (16 * value + (← digitValue? character)) (mode.skip rest)

/-- How many digits stand behind the letter of a code point. -/
def digitCount? : Char → Option Nat
  | 'x' => some 2
  | 'u' => some 4
  | 'U' => some 8
  | _ => none

/-- The characters that have letters of their own. -/
def lettered? : Char → Option Char
  | 'a' => some '\x07'
  | 'f' => some '\x0c'
  | 't' => some '\t'
  | 'n' => some '\n'
  | 'r' => some '\r'
  | 'v' => some '\x0b'
  | _ => none

/-- Reads an escape behind its backslash. -/
def readEscape (mode : Mode) : List Char → Option (Element × List Char)
  | [] => none
  | letter :: rest =>
    match digitCount? letter, lettered? letter with
    | some count, _ => do
      let (value, behind) ← readDigits mode count 0 (mode.skip rest)
      if value.isValidChar then some (.literal (Char.ofNat value) (letter == 'x'), behind) else none
    | none, some character => some (.literal character false, rest)
    | none, none =>
      if ['d', 's', 'w'].contains letter then some (.letterClass false, rest)
      else if ['D', 'S', 'W'].contains letter then some (.letterClass true, rest)
      else if ['A', 'z'].contains letter then some (.place, rest)
      else if letter = 'b' then
        if rest.head? = some '\x7b' then none else some (.wordBoundary, rest)
      else if ['B', '<', '>'].contains letter then some (.wordBoundary, rest)
      else if letter.isAlphanum || letter.toNat ≥ 0x80 then none
      else some (.literal letter false, rest)

/-! ## Brackets -/

/-- The names of the classes that may stand in brackets. -/
def classNames : List String :=
  ["alnum", "alpha", "ascii", "blank", "cntrl", "digit", "graph", "lower", "print", "punct",
    "space", "upper", "word", "xdigit"]

/-- A class by its name, read behind the bracket that opens it: whether it is negated, and what
follows. -/
def readClassName : List Char → Option (Bool × List Char)
  | ':' :: text =>
    let (isNegated, named) :=
      match text with
      | '^' :: rest => (true, rest)
      | _ => (false, text)
    match named.dropWhile (· != ':') with
    | ':' :: ']' :: behind =>
      if classNames.contains (String.ofList (named.takeWhile (· != ':'))) then
        some (isNegated, behind)
      else none
    | _ => none
  | _ => none

/-- What is negated must not match part of a character. -/
def mayNegate (mode : Mode) (isNegated : Bool) : Bool := mode.isUnicode || !isNegated

/-- The text behind the dashes in front of it, `limit` of them at most. -/
def behindDashes (mode : Mode) : Nat → List Char → List Char
  | limit + 1, '-' :: rest => behindDashes mode limit (mode.skip rest)
  | _, text => text

/-- Opens a bracket behind its sign.  A caret in front negates it; dashes that follow stand for
themselves, and so does a closing sign if there are none. -/
def openBracket (mode : Mode) (text : List Char) : Option (List Char) :=
  let skipped := mode.skip text
  let (isNegated, inner) :=
    match skipped with
    | '^' :: rest => (true, mode.skip rest)
    | _ => (false, skipped)
  let undashed := behindDashes mode inner.length inner
  let closing := inner.head? ≠ some '-' ∧ inner.head? = some ']'
  if !mayNegate mode isNegated then none
  else if inner.head? = some '-' ∨ closing then
    if Element.mayStandInBrackets mode (.literal '-' false) then
      some (if closing then mode.skip (inner.drop 1) else undashed)
    else none
  else some inner

/-- Reads a character or an escape in brackets. -/
def readItem (mode : Mode) : List Char → Option (Element × List Char)
  | [] => none
  | '\\' :: rest => readEscape mode rest
  | character :: rest => some (.literal character false, rest)

/-- The character behind a dash that decides whether a range follows.  A comment is looked into. -/
def decider? (mode : Mode) (text : List Char) : Option Char :=
  if mode.ignoresBlanks then
    match text.dropWhile Text.isBlank with
    | '#' :: comment => (comment.dropWhile Text.isBlank).head?
    | rest => rest.head?
  else text.head?

/-- Whether two elements are the ends of a range. -/
def isRange : Element → Element → Bool
  | .literal first _, .literal last _ => first ≤ last
  | _, _ => false

/-- Reads an item in brackets, or a range from one item to another. -/
def readRange (mode : Mode) (text : List Char) : Option (List Char) := do
  let (first, rest) ← readItem mode text
  let behind := mode.skip rest
  if !first.mayStandInBrackets mode then none
  else
    match behind with
    | '-' :: upTo =>
      if decider? mode upTo = some ']' ∨ decider? mode upTo = some '-' then some behind
      else
        let (last, after) ← readItem mode (mode.skip upTo)
        if isRange first last ∧ last.mayStandInBrackets mode then some after else none
    | _ => some behind

/-- Reads to the end of a bracket in which so many other ones are open, in `limit` steps at most. -/
def readBracket (mode : Mode) : Nat → Nat → List Char → Option (List Char)
  | 0, _, _ => none
  | limit + 1, depth, text =>
    match mode.skip text with
    | [] => none
    | '[' :: rest =>
      match readClassName rest with
      | some (isNegated, behind) =>
        if mayNegate mode isNegated ∧ !(mode.isUnicode && mode.ignoresCase) then
          readBracket mode limit depth behind
        else none
      | none => do readBracket mode limit (depth + 1) (← openBracket mode rest)
    | ']' :: rest =>
      match depth with
      | 0 => some rest
      | outer + 1 => readBracket mode limit outer rest
    | '&' :: '&' :: rest | '-' :: '-' :: rest | '~' :: '~' :: rest =>
      readBracket mode limit depth rest
    | item => do readBracket mode limit depth (← readRange mode item)

/-! ## Groups -/

/-- The letters of flags, and the dash between those that are given and those that are taken back.
-/
def flagLetters : List Char := ['-', 'i', 'm', 's', 'U', 'u', 'R', 'x']

/-- Reads flags up to a colon or the end of their group; `seen` are those in front, the last one
first. -/
def readFlags (seen : List Char) : List Char → Option (List Char × Char × List Char)
  | [] => none
  | letter :: rest =>
    if letter = ':' ∨ letter = ')' then
      if seen.head? = some '-' then none else some (seen.reverse, letter, rest)
    else if !flagLetters.contains letter || seen.contains letter then none
    else readFlags (letter :: seen) rest

/-- Whether the characters make the name of a group. -/
def isName : List Char → Bool
  | [] => false
  | first :: rest =>
    (first == '_' || Text.isLetter first)
      && rest.all fun character =>
        ['_', '.', '[', ']'].contains character || Text.isAlphanumeric character

/-- Reads the name of a group up to the angle that closes it. -/
def readName (text : List Char) : Option (String × List Char) :=
  let name := text.takeWhile (· != '>')
  match text.dropWhile (· != '>') with
  | _ :: behind => if isName name then some (String.ofList name, behind) else none
  | [] => none

/-! ## Whole patterns -/

/-- What has been read of a pattern. -/
structure Reading where
  mode : Mode := {}
  /-- The modes outside of the open groups, the innermost one first. -/
  outer : List Mode := []
  /-- The names of the groups. -/
  names : List String := []
  /-- Whether what stands in front can be repeated. -/
  isRepeatable : Bool := false
  hasWordBoundary : Bool := false
  deriving Repr, DecidableEq, Inhabited

namespace Reading

/-- Reads an element. -/
def add (element : Element) (reading : Reading) : Option Reading :=
  if element.mayStand reading.mode then
    some { reading with
      isRepeatable := true
      hasWordBoundary :=
        reading.hasWordBoundary || (reading.mode.isUnicode && element == .wordBoundary) }
  else none

/-- Opens a group whose elements are read in a mode. -/
def openIn (mode : Mode) (reading : Reading) : Reading :=
  { reading with mode, outer := reading.mode :: reading.outer, isRepeatable := false }

/-- Opens a group with a name, which no other group may have. -/
def openNamed (reading : Reading) (text : List Char) : Option (Reading × List Char) := do
  let (name, behind) ← readName text
  if reading.names.contains name then none
  else return ({ reading.openIn reading.mode with names := name :: reading.names }, behind)

/-- Reads the flags of a group, or flags for the rest of the group around them. -/
def readFlagged (reading : Reading) (text : List Char) : Option (Reading × List Char) := do
  let (flags, ending, behind) ← readFlags [] text
  let mode := reading.mode.apply flags
  if ending = ':' then return (reading.openIn mode, behind)
  else if flags.isEmpty then none
  else return ({ reading with mode, isRepeatable := false }, behind)

/-- Opens a group behind its sign.  Groups that look ahead or back are refused. -/
def openGroup (reading : Reading) (text : List Char) : Option (Reading × List Char) :=
  match reading.mode.skip text with
  | '?' :: '=' :: _ | '?' :: '!' :: _ | '?' :: '<' :: '=' :: _ | '?' :: '<' :: '!' :: _ => none
  | '?' :: 'P' :: '<' :: name | '?' :: '<' :: name => reading.openNamed name
  | '?' :: flags => reading.readFlagged flags
  | inner => some (reading.openIn reading.mode, inner)

/-- Closes the innermost group. -/
def closeGroup (reading : Reading) : Option Reading :=
  match reading.outer with
  | mode :: outer => some { reading with mode, outer, isRepeatable := true }
  | [] => none

end Reading

/-- Reads a pattern to its end, in `limit` steps at most. -/
def read : Nat → Reading → List Char → Option Reading
  | 0, _, _ => none
  | limit + 1, reading, text =>
    match reading.mode.skip text with
    | [] => if reading.outer.isEmpty then some reading else none
    | '(' :: rest => do
      let (opened, inner) ← reading.openGroup rest
      read limit opened inner
    | ')' :: rest => do read limit (← reading.closeGroup) rest
    | '|' :: rest => read limit { reading with isRepeatable := false } rest
    | '[' :: rest => do
      let inner ← openBracket reading.mode rest
      let behind ← readBracket reading.mode (inner.length + 1) 0 inner
      read limit { reading with isRepeatable := true } behind
    | '\x7b' :: _ => none
    | '?' :: rest | '*' :: rest | '+' :: rest =>
      let behind := if rest.head? = some '?' then rest.drop 1 else rest
      if reading.isRepeatable then read limit reading behind else none
    | '.' :: rest =>
      if reading.mode.isUnicode then read limit { reading with isRepeatable := true } rest else none
    | '^' :: rest | '$' :: rest => do read limit (← reading.add .place) rest
    | '\\' :: rest => do
      let (element, behind) ← readEscape reading.mode rest
      read limit (← reading.add element) behind
    | character :: rest => do read limit (← reading.add (.literal character false)) rest

end Pattern

/-- What is wrong with a text as a pattern, if anything. -/
def patternFault? (text : String) : Option PatternFault :=
  match Pattern.read (text.length + 1) {} text.toList with
  | none => some .malformed
  | some reading => if reading.hasWordBoundary then some .wordBoundary else none

end JobHooks.Log
