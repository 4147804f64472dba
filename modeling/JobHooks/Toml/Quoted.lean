import JobHooks.Toml.Scan

/-!
# Quoted texts in documents

Four forms of quoted texts: between quotation marks, with escapes, or between apostrophes, without;
and each on one line or, between triple marks, on several.  On several lines a line break right
behind the opening marks is dropped, every line break counts as one line feed, and up to two marks
may stand directly before the closing three.
-/

namespace JobHooks.Toml

set_option autoImplicit false

/-- Whether a character may stand for itself in a quoted text with the given mark. -/
def isPlain (mark : Char) (escapes : Bool) (character : Char) : Bool :=
  inComment character && character != mark && !(escapes && character == '\\')

/-- The value of a hexadecimal digit. -/
def hexValue? (digit : Char) : Option Nat :=
  if '0' ≤ digit && digit ≤ '9' then some (digit.toNat - '0'.toNat)
  else if 'a' ≤ digit && digit ≤ 'f' then some (digit.toNat - 'a'.toNat + 10)
  else if 'A' ≤ digit && digit ≤ 'F' then some (digit.toNat - 'A'.toNat + 10)
  else none

/-- The character whose code point the hexadecimal digits give; not every number is one. -/
def codePoint? (digits : List Char) : Option Char := do
  let values ← digits.mapM hexValue?
  let point := values.foldl (fun number value => 16 * number + value) 0
  if point.isValidChar then some (Char.ofNat point) else none

/-- The character that an escape stands for; the backslash is already gone. -/
def escape : Scan Char
  | 'b' :: rest => some ('\x08', rest)
  | 'f' :: rest => some ('\x0c', rest)
  | 'n' :: rest => some ('\n', rest)
  | 'r' :: rest => some ('\r', rest)
  | 't' :: rest => some ('\t', rest)
  | '"' :: rest => some ('"', rest)
  | '\\' :: rest => some ('\\', rest)
  | 'u' :: a :: b :: c :: d :: rest => (codePoint? [a, b, c, d]).map (·, rest)
  | 'U' :: a :: b :: c :: d :: e :: f :: g :: h :: rest =>
    (codePoint? [a, b, c, d, e, f, g, h]).map (·, rest)
  | _ => none

/-- One piece of a quoted text on one line. -/
def linePiece (mark : Char) (escapes : Bool) : Scan (List Char)
  | next :: rest =>
    if isPlain mark escapes next then some ([next], rest)
    else if escapes && next == '\\' then (escape rest).map fun found => ([found.1], found.2)
    else none
  | [] => none

/-- A quoted text on one line. -/
def lineText (mark : Char) (escapes : Bool) : Scan String := fun input => do
  let opened ← exactly mark input
  let (pieces, rest) := many (linePiece mark escapes) opened
  return (String.ofList pieces.flatten, ← exactly mark rest)

/-- What is left behind a backslash at the end of a line: the line break and all blanks behind it.
-/
def lineContinuation (input : List Char) : Option (List Char) :=
  (newline? (skipSpaces input)).map fun rest =>
    rest.dropWhile fun character => isSpace character || character == '\n' || character == '\r'

/-- One piece of a quoted text on several lines; marks that do not close it count as text. -/
def blockPiece (mark : Char) (escapes : Bool) : Scan (List Char) := fun input =>
  match newline? input with
  | some rest => some (['\n'], rest)
  | none =>
    match input with
    | [] => none
    | next :: rest =>
      if isPlain mark escapes next then some ([next], rest)
      else if escapes && next == '\\' then
        match lineContinuation rest with
        | some left => some ([], left)
        | none => (escape rest).map fun found => ([found.1], found.2)
      else if next == mark then
        let marks := input.takeWhile (· == mark)
        if marks.length < 3 then some (marks, input.drop marks.length) else none
      else none

/-- A quoted text on several lines.  Of the marks that close it, those beyond three are text. -/
def blockText (mark : Char) (escapes : Bool) : Scan String := fun input => do
  let opened ← word [mark, mark, mark] input
  let body := (newline? opened).getD opened
  let (pieces, rest) := many (blockPiece mark escapes) body
  let marks := rest.takeWhile (· == mark)
  if 3 ≤ marks.length && marks.length ≤ 5 then
    return (String.ofList (pieces.flatten ++ marks.drop 3), rest.drop marks.length)
  else none

/-- A quoted text of one of the four forms. -/
def quotedText : Scan String := fun input =>
  match input with
  | '"' :: '"' :: '"' :: _ => blockText '"' true input
  | '\'' :: '\'' :: '\'' :: _ => blockText '\'' false input
  | '"' :: _ => lineText '"' true input
  | '\'' :: _ => lineText '\'' false input
  | _ => none

end JobHooks.Toml
