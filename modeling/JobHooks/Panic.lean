/-!
# Panics

Some operations may, besides succeeding or failing, panic: whoever carries them out is stopped at
once.  Where both can happen, the result of an operation is a panic, or else a success or a failure.
-/

namespace JobHooks

set_option autoImplicit false

/-- What a panic says. -/
structure Panic where
  text : String
  deriving Repr, DecidableEq, Inhabited

end JobHooks
