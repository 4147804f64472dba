import JobHooks.Toml.Scan

/-!
# Excerpts

The line of a text that a complaint is about, with carets under the part that is meant.
-/

namespace JobHooks.Toml

set_option autoImplicit false

/-- A line of a text, with the number of lines above it and of characters in front of the part that
is meant, and how many carets stand under that part. -/
structure Excerpt where
  linesAbove : Nat
  columnsBefore : Nat
  line : String
  carets : Nat
  deriving Repr, DecidableEq, Inhabited

namespace Excerpt

/-- The excerpt at a part of a text.  The carets stop at the end of the line, and there is at least
one; their number goes by encoded length. -/
def ofSpan (text : String) (span : Span) : Excerpt :=
  let characters := text.toList
  let before := characters.take (characters.length - span.start)
  let behind := characters.drop (characters.length - span.start)
  let lineStart := (before.reverse.takeWhile (· != '\n')).reverse
  let line := String.ofList (lineStart ++ behind.takeWhile (· != '\n'))
  let meant := String.ofList (behind.take (span.start - span.stop))
  { linesAbove := before.count '\n'
    columnsBefore := lineStart.length
    line
    carets := max 1 (min meant.utf8ByteSize (line.utf8ByteSize - lineStart.length)) }

/-- So many times a character. -/
def row (count : Nat) (character : Char) : String := String.ofList (List.replicate count character)

/-- The number of a line, counted from one. -/
def lineNumber (excerpt : Excerpt) : String := toString (excerpt.linesAbove + 1)

/-- The margin beside a line without a number. -/
def margin (excerpt : Excerpt) : String := row (excerpt.lineNumber.length + 1) ' ' ++ "|"

/-- An excerpt in four lines, of which the first says where it is. -/
def layout (excerpt : Excerpt) : String :=
  "TOML parse error at line " ++ excerpt.lineNumber
    ++ ", column " ++ toString (excerpt.columnsBefore + 1) ++ "\n"
    ++ excerpt.margin ++ "\n"
    ++ excerpt.lineNumber ++ " | " ++ excerpt.line ++ "\n"
    ++ excerpt.margin ++ row (excerpt.columnsBefore + 1) ' ' ++ row excerpt.carets '^' ++ "\n"

end Excerpt

end JobHooks.Toml
