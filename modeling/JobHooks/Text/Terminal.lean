import JobHooks.Text.Utf8

/-!
# Texts for a terminal

A text may hold sequences that a terminal would obey instead of showing them.  They are made
harmless in two ways.  `marked` keeps a text as it is but writes the characters with which sequences
begin as escapes; `unsequenced` leaves the sequences out, and with them every control character that
is no white space.

A sequence begins with an escape character.  It is either short, or a control sequence that ends
with a letter or a similar sign, or a string that another sequence ends.
-/

namespace JobHooks.Text

set_option autoImplicit false

/-! ## Marking -/

/-- A character by its number in two hexadecimal digits. -/
def twoDigitEscape (character : Char) : List Char :=
  ['\\', 'x', Nat.digitChar (character.toNat / 16), Nat.digitChar (character.toNat % 16)]

/-- How a character is written where a terminal must not obey it. -/
def mark (character : Char) : List Char :=
  if [0x07, 0x08, 0x0C, 0x1B, 0x7F].contains character.toNat then twoDigitEscape character
  else if 0x80 ≤ character.toNat ∧ character.toNat ≤ 0x9F then
    ['\\', 'u', '\x7b'] ++ Nat.toDigits 16 character.toNat ++ ['\x7d']
  else [character]

/-- A text in which nothing makes a terminal obey. -/
def marked (text : String) : String := String.ofList (text.toList.flatMap mark)

/-! ## Leaving sequences out -/

/-- What a terminal has seen of a sequence. -/
inductive SequenceState where
  /-- Nothing: characters are shown. -/
  | ground
  /-- The escape character. -/
  | escape
  /-- The escape character and signs that do not end a short sequence. -/
  | short
  /-- The beginning of a control sequence. -/
  | control
  /-- The beginning of a device control sequence, before its string. -/
  | device
  /-- The beginning of a string that is not for the operating system. -/
  | string
  /-- The beginning of a string for the operating system. -/
  | command
  deriving Repr, DecidableEq, Inhabited

namespace SequenceState

/-- Where a sequence goes on from the character behind the escape character. -/
def ofIntroducer (point : Nat) : SequenceState :=
  if point = 0x5B then control
  else if point = 0x5D then command
  else if point = 0x50 then device
  else if point = 0x58 ∨ point = 0x5E ∨ point = 0x5F then string
  else if 0x20 ≤ point ∧ point ≤ 0x2F then short
  else if 0x30 ≤ point ∧ point ≤ 0x7E then ground
  else escape

/-- What follows upon a character. -/
def next (character : Char) (state : SequenceState) : SequenceState :=
  let point := character.toNat
  if point = 0x1B then escape
  else if point = 0x18 ∨ point = 0x1A then ground
  else
    match state with
    | ground => ground
    | escape => ofIntroducer point
    | short => if 0x30 ≤ point ∧ point ≤ 0x7E then ground else short
    | control => if 0x40 ≤ point ∧ point ≤ 0x7E then ground else control
    | device => if 0x40 ≤ point ∧ point ≤ 0x7E then string else device
    | string => if (encode (String.singleton character)).contains 0x9C then ground else string
    | command => if point = 0x07 then ground else command

/-- Whether a character may be white space in the middle of a sequence. -/
def takesSpace : SequenceState → Bool
  | ground | escape | short | control => true
  | device | string | command => false

end SequenceState

/-- Whether a character is white space that moves the place of writing. -/
def isMotion (character : Char) : Bool :=
  [0x09, 0x0A, 0x0C, 0x0D].contains character.toNat

/-- Whether a character is shown where no sequence has begun. -/
def isShown (character : Char) : Bool :=
  isMotion character || (0x20 ≤ character.toNat && character.toNat != 0x7F)

/-- A text without its sequences.  White space within a sequence is shown, and what follows it is,
too, up to the next character that is not shown; the sequence then goes on. -/
def showing : Bool → SequenceState → List Char → List Char
  | _, _, [] => []
  | isShowing, state, character :: rest =>
    let shown := isShown character && (isShowing || state == .ground)
      || isMotion character && state.takesSpace
    if shown then
      character :: showing true (if character.toNat < 0x80 then state else .ground) rest
    else showing false (state.next character) rest

/-- A text without the sequences in it. -/
def unsequenced (text : String) : String := String.ofList (showing false .ground text.toList)

end JobHooks.Text
