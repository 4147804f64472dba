import JobHooks.Panic
import JobHooks.Text.Quoted

/-!
# Cutting texts

A part of a text by its first byte and the byte behind its last one.  Either end must lie between
two characters: `cut` panics at an end that lies within one.
-/

namespace JobHooks.Text

set_option autoImplicit false

/-- The character within which a byte lies, and where that character begins.  The text given begins
at `start`. -/
def within? (index : Nat) : Nat → List Char → Option (Nat × Char)
  | _, [] => none
  | start, character :: rest =>
    let next := start + character.utf8Size
    if start < index ∧ index < next then some (start, character) else within? index next rest

/-- The panic at a cut within a character. -/
def cutPanic (edge : String) (index : Nat) (start : Nat) (character : Char) : Panic :=
  ⟨edge ++ " byte index " ++ toString index ++ " is not a char boundary; it is inside "
    ++ quotedChar character ++ " (bytes " ++ toString start ++ ".."
    ++ toString (start + character.utf8Size) ++ " of string)"⟩

/-- Panics if a byte lies within a character. -/
def checkCut (edge : String) (index : Nat) (text : List Char) : Except Panic Unit :=
  match within? index 0 text with
  | some (start, character) => .error (cutPanic edge index start character)
  | none => .ok ()

/-- The characters that begin at the bytes from `first` up to `stop`.  The text given begins at
`start`. -/
def between (first stop : Nat) : Nat → List Char → List Char
  | _, [] => []
  | start, character :: rest =>
    let behind := between first stop (start + character.utf8Size) rest
    if first ≤ start ∧ start < stop then character :: behind else behind

/-- The part of a text from one byte up to another. -/
def cut (first stop : Nat) (text : List Char) : Except Panic String := do
  checkCut "start" first text
  checkCut "end" stop text
  return String.ofList (between first stop 0 text)

end JobHooks.Text
