/-!
# Scanning characters

A scanner takes something off the front of a list of characters and returns it with what is left, or
finds nothing.  A position in a text is what is left behind it, so a `Span` is a pair of lengths:
how many characters are left where it begins, and where it ends.

The loops `many` and `separated` end because what they scan gets shorter; an item that uses up
nothing ends them.
-/

namespace JobHooks.Toml

set_option autoImplicit false

/-- What a scanner finds at the front of the characters, and what is left behind it. -/
abbrev Scan (α : Type) := List Char → Option (α × List Char)

/-- A part of a text, by the numbers of characters left at its beginning and at its end. -/
structure Span where
  start : Nat
  stop : Nat
  deriving Repr, DecidableEq, Inhabited

/-- The part of a text from one position to another. -/
def spanOf (start stop : List Char) : Span := ⟨start.length, stop.length⟩

/-- The items at the front, as many as there are. -/
def many {α : Type} (item : Scan α) (input : List Char) : List α × List Char :=
  match item input with
  | none => ([], input)
  | some (first, rest) =>
    if rest.length < input.length then
      let (others, left) := many item rest
      (first :: others, left)
    else ([], input)
termination_by input.length

/-- The items at the front with a separator between them.  A separator without an item behind it is
left. -/
def separated {α : Type} (item : Scan α) (separator : Char) (input : List Char) :
    List α × List Char :=
  match item input with
  | none => ([], input)
  | some (first, rest) =>
    let behind : Scan α := fun
      | next :: tail => if next = separator then item tail else none
      | [] => none
    let (others, left) := many behind rest
    (first :: others, left)

/-- A fixed character. -/
def exactly (expected : Char) : List Char → Option (List Char)
  | next :: rest => if next = expected then some rest else none
  | [] => none

/-- Fixed characters in a row. -/
def word : List Char → List Char → Option (List Char)
  | [], input => some input
  | expected :: others, input => (exactly expected input).bind (word others)

/-! ## Blanks, lines and comments -/

/-- Whether a character is a space or a tab. -/
def isSpace (character : Char) : Bool := character == ' ' || character == '\t'

/-- What is left behind spaces and tabs. -/
def skipSpaces (input : List Char) : List Char := input.dropWhile isSpace

/-- What is left behind the end of a line. -/
def newline? : List Char → Option (List Char)
  | '\n' :: rest => some rest
  | '\r' :: '\n' :: rest => some rest
  | _ => none

/-- Whether a character may stand in a comment: any but the control characters, tab apart. -/
def inComment (character : Char) : Bool :=
  character == '\t' || (0x20 ≤ character.toNat && character.toNat ≠ 0x7F)

/-- What is left behind a comment, or all if there is none. -/
def skipComment : List Char → List Char
  | '#' :: rest => rest.dropWhile inComment
  | input => input

/-- What is left behind spaces, a comment, and the end of the line or of the text. -/
def lineEnd (input : List Char) : Option (List Char) :=
  match skipComment (skipSpaces input) with
  | [] => some []
  | rest => newline? rest

/-- One comment or end of line among values. -/
def gapItem : Scan Unit := fun input =>
  (newline? (skipComment (skipSpaces input))).map ((), ·)

/-- What is left behind spaces, comments and ends of lines. -/
def skipGap (input : List Char) : List Char := skipSpaces (many gapItem input).2

end JobHooks.Toml
