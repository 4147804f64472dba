/-!
# Lines

The lines of which a printed text consists.  A line feed ends a line, also the one that printing
puts behind the text; a carriage return right in front of it belongs to the end of the line.
-/

namespace JobHooks.Text

set_option autoImplicit false

/-- A line without the carriage return that belongs to its end. -/
def withoutReturn (line : String) : String :=
  if line.toList.getLast? = some '\r' then String.ofList line.toList.dropLast else line

/-- The lines of a printed text. -/
def lines (text : String) : List String := (text.splitOn "\n").map withoutReturn

end JobHooks.Text
