/-!
# Blank characters

The characters with the Unicode property of white space, and trimming them from both ends of a text.
-/

namespace JobHooks.Text

set_option autoImplicit false

/-- Whether a character is white space; there are 25 of these. -/
def isBlank (character : Char) : Bool :=
  let point := character.toNat
  (0x09 ≤ point && point ≤ 0x0D) || point == 0x20 || point == 0x85 || point == 0xA0
    || point == 0x1680 || (0x2000 ≤ point && point ≤ 0x200A) || point == 0x2028 || point == 0x2029
    || point == 0x202F || point == 0x205F || point == 0x3000

/-- The characters without the blanks in front. -/
def trimLeft (characters : List Char) : List Char := characters.dropWhile isBlank

/-- The characters without the blanks behind. -/
def trimRight (characters : List Char) : List Char :=
  (characters.reverse.dropWhile isBlank).reverse

/-- The characters without the blanks at both ends. -/
def trim (characters : List Char) : List Char := trimRight (trimLeft characters)

end JobHooks.Text
