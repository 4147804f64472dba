/-!
# Paths

Where a path leads that starts in a directory, as far as the directory itself can tell.  Its steps
are the parts between slashes; empty steps and single dots lead nowhere.  `Path.entry?` is the name
of the entry to which a path leads: its last step, if all steps in front of it lead nowhere.  A path
that ends in a slash or a dot asks for a directory, and one that begins with a slash starts
elsewhere; neither leads to an entry.
-/

namespace JobHooks

set_option autoImplicit false

namespace Path

/-- The steps of a path. -/
def steps (path : String) : List String := path.splitOn "/"

/-- Whether a step leads nowhere. -/
def isIdle (step : String) : Bool := step == "" || step == "."

/-- Whether a path starts at the root. -/
def isAbsolute (path : String) : Bool := path.startsWith "/"

/-- The most bytes that a path may have. -/
def longest : Nat := 4095

/-- The name of the entry to which a path leads. -/
def entry? (path : String) : Option String :=
  match (steps path).reverse with
  | name :: before =>
    if !isAbsolute path && before.all isIdle && !isIdle name && name != ".."
        && path.utf8ByteSize ≤ longest then
      some name
    else none
  | [] => none

/-- Whether a path leads to a directory that exists in any case: to the one in which it starts, to
one above it, or to the root. -/
def isDirectory (path : String) : Bool :=
  path != "" && path.utf8ByteSize ≤ longest
    && (steps path).all fun step => isIdle step || step == ".."

end Path

end JobHooks
