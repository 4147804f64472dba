import JobHooks.Text.Standing

/-!
# Quoted texts

A text in quotation marks, for messages.  Quotes and backslashes are marked with a backslash, and so
are tab, carriage return, line feed and the zero character, each with a letter of its own; a
character that does not stand for itself is written as its code point in hexadecimal digits.
Apostrophes are left alone, since the marks around the text are double; a path is quoted in the same
way as any other text.
-/

namespace JobHooks.Text

set_option autoImplicit false

/-- A character by its code point. -/
def codePointEscape (character : Char) : List Char :=
  ['\\', 'u', '\x7b'] ++ Nat.toDigits 16 character.toNat ++ ['\x7d']

/-- How a character is written inside a quoted text. -/
def escape (character : Char) : List Char :=
  if character = '\x00' then ['\\', '0']
  else if character = '\t' then ['\\', 't']
  else if character = '\r' then ['\\', 'r']
  else if character = '\n' then ['\\', 'n']
  else if character = '"' then ['\\', '"']
  else if character = '\\' then ['\\', '\\']
  else if stands character then [character]
  else codePointEscape character

/-- A text in quotation marks. -/
def quoted (text : String) : String :=
  String.ofList (['"'] ++ text.toList.flatMap escape ++ ['"'])

/-- A character in apostrophes; of the two kinds of quotes these are the ones to be marked. -/
def quotedChar (character : Char) : String :=
  let shown :=
    if character = '\'' then ['\\', '\'']
    else if character = '"' then ['"']
    else escape character
  String.ofList (['\''] ++ shown ++ ['\''])

end JobHooks.Text
