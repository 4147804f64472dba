/-!
# JSON texts

Texts as JSON writes them, between quotation marks: quotes and backslashes are marked with a
backslash, and control characters get a letter of their own, or four hexadecimal digits.
-/

namespace JobHooks.Text

set_option autoImplicit false

/-- A control character by its number, in four hexadecimal digits. -/
def fourDigitEscape (character : Char) : List Char :=
  ['\\', 'u', '0', '0', Nat.digitChar (character.toNat / 16), Nat.digitChar (character.toNat % 16)]

/-- How a character is written inside a JSON text. -/
def jsonEscape (character : Char) : List Char :=
  if character = '"' then ['\\', '"']
  else if character = '\\' then ['\\', '\\']
  else if character = '\x08' then ['\\', 'b']
  else if character = '\x0c' then ['\\', 'f']
  else if character = '\n' then ['\\', 'n']
  else if character = '\r' then ['\\', 'r']
  else if character = '\t' then ['\\', 't']
  else if character.toNat < 0x20 then fourDigitEscape character
  else [character]

/-- A text as JSON. -/
def jsonText (text : String) : String :=
  String.ofList (['"'] ++ text.toList.flatMap jsonEscape ++ ['"'])

/-- An object as JSON, from its names and the JSON of its values. -/
def jsonObject (members : List (String × String)) : String :=
  "\x7b" ++ String.intercalate "," (members.map fun member => jsonText member.1 ++ ":" ++ member.2)
    ++ "\x7d"

end JobHooks.Text
