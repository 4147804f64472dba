import JobHooks.Toml.Value

/-!
# The grammar of documents

A document is a sequence of lines.  A line opens a section with a header, opens one more section of
a repeated header, or gives a key a value; and any line may have a comment behind it, or nothing
else.  `statements` reads these lines, and refuses a text that has anything besides them.

Lists and tables in braces nest at most `deepest` times, and a path has fewer keys than
`longestPath`.
-/

namespace JobHooks.Toml

set_option autoImplicit false

/-- How deep lists and tables in braces nest. -/
def deepest : Nat := 79

/-- A path with this many keys is too long. -/
def longestPath : Nat := 80

/-! ## Keys -/

/-- Whether a character may stand in a key without quotes. -/
def inBareKey (character : Char) : Bool :=
  isDecimal character || ('a' ≤ character && character ≤ 'z')
    || ('A' ≤ character && character ≤ 'Z') || character == '-' || character == '_'

/-- The text of a key; a quoted one stays on its line. -/
def keyText : Scan String := fun input =>
  match input with
  | '"' :: _ => lineText '"' true input
  | '\'' :: _ => lineText '\'' false input
  | _ =>
    let bare := input.takeWhile inBareKey
    if bare.isEmpty then none else some (String.ofList bare, input.drop bare.length)

/-- A key with spaces around it. -/
def spacedKey : Scan Key := fun input => do
  let start := skipSpaces input
  let (text, rest) ← keyText start
  return (⟨text, spanOf start rest⟩, skipSpaces rest)

/-- A path: the keys that lead to a table, and the last key. -/
def keyPath : Scan (List Key × Key) := fun input => do
  let (keys, rest) := separated spacedKey '.' input
  if longestPath ≤ keys.length then none else
  return ((keys.dropLast, ← keys.getLast?), rest)

/-! ## Values -/

/-- A fixed word that stands for a value. -/
def wordValue (expected : List Char) (value : Scalar) : Scan Scalar := fun input =>
  (word expected input).map (value, ·)

/-- A value without parts. -/
def scalarValue : Scan Scalar := fun input =>
  ((quotedText input).map fun found => (.text found.1, found.2))
    <|> ((moment input).map fun rest => (.moment, rest))
    <|> ((float input).map fun found => (.float found.1, found.2))
    <|> ((integer input).map fun found => (.integer found.1, found.2))
    <|> wordValue ['t', 'r', 'u', 'e'] (.boolean true) input
    <|> wordValue ['f', 'a', 'l', 's', 'e'] (.boolean false) input

/-- An item among lines, blanks and comments. -/
def listItem (value : Scan Item) : Scan Item := fun input => do
  let (item, rest) ← value (skipGap input)
  return (item, skipGap rest)

/-- What is left behind a comma that may stand behind the last item. -/
def skipComma : List Char → List Char
  | ',' :: rest => skipGap rest
  | input => input

/-- A list of values in brackets. -/
def listValue (value : Scan Item) : Scan Item := fun input => do
  let opened ← exactly '[' input
  let (items, rest) := separated (listItem value) ',' opened
  let left := if items.isEmpty then skipGap rest else skipComma rest
  let closed ← exactly ']' left
  return (.list (spanOf input closed) items, closed)

/-- A key, or a path, with a value behind an equals sign. -/
def assignment (value : Scan Item) : Scan ((List Key × Key) × Item) := fun input => do
  let (path, rest) ← keyPath input
  let (item, left) ← value (skipSpaces (← exactly '=' rest))
  return ((path, item), left)

/-- An assignment with spaces around it. -/
def spacedAssignment (value : Scan Item) : Scan ((List Key × Key) × Item) := fun input => do
  let (found, rest) ← assignment value (skipSpaces input)
  return (found, skipSpaces rest)

/-- A table in braces, on one line. -/
def bracedValue (value : Scan Item) : Scan Item := fun input => do
  let opened ← exactly '\x7b' input
  let (assignments, rest) := separated (spacedAssignment value) ',' opened
  let closed ← exactly '\x7d' (skipSpaces rest)
  let table : Table := .empty .closed (some (spanOf input closed))
  let filled ← assignments.foldlM
    (fun table found => table.assign found.1.1 found.1.2 found.2) table
  return (.table filled, closed)

/-- A value in which lists and tables in braces nest at most so many times. -/
def value : Nat → Scan Item
  | levels, input =>
    ((scalarValue input).map fun found => (.scalar (spanOf input found.2) found.1, found.2))
      <|> match levels with
        | 0 => none
        | inner + 1 => listValue (value inner) input <|> bracedValue (value inner) input

/-! ## Lines -/

/-- What a line says. -/
inductive Statement where
  | header (span : Span) (path : List Key) (key : Key)
  | repeatedHeader (span : Span) (path : List Key) (key : Key)
  | assign (path : List Key) (key : Key) (item : Item)
  deriving Repr, Inhabited

/-- The header of a section. -/
def header : Scan Statement := fun input => do
  let ((path, key), rest) ← keyPath (← word ['['] input)
  let closed ← word [']'] rest
  return (.header (spanOf input closed) path key, closed)

/-- The header of one more section. -/
def repeatedHeader : Scan Statement := fun input => do
  let ((path, key), rest) ← keyPath (← word ['[', '['] input)
  let closed ← word [']', ']'] rest
  return (.repeatedHeader (spanOf input closed) path key, closed)

/-- An assignment as a statement. -/
def assignLine : Scan Statement := fun input => do
  let (((path, key), item), rest) ← assignment (value deepest) input
  return (.assign path key item, rest)

/-- A statement of any kind. -/
def statement : Scan Statement := fun input =>
  match input with
  | '[' :: '[' :: _ => repeatedHeader input
  | '[' :: _ => header input
  | _ => assignLine input

/-- A line with what it says, if it says something. -/
def line : Scan (Option Statement) := fun input =>
  let start := skipSpaces input
  match lineEnd start with
  | some rest => some (none, rest)
  | none => do
    let (found, rest) ← statement start
    return (some found, ← lineEnd rest)

/-- What the lines of a text say; nothing if the text has something else than lines in it. -/
def statements (input : List Char) : Option (List Statement) :=
  let (lines, rest) := many line input
  if rest.isEmpty then some (lines.filterMap id) else none

end JobHooks.Toml
