import JobHooks.Notice

/-!
# The connection monitor

The monitor remembers the last answer to whether the daemon can be reached and reports only changes.
Before the first answer the state is unknown, so the first answer is always a change.
-/

namespace JobHooks

set_option autoImplicit false

/-- What is known of the connection. -/
inductive ConnectionState where
  | unknown
  | connected
  | notConnected
  deriving Repr, DecidableEq, Inhabited

namespace ConnectionState

/-- The name of a state. -/
def name : ConnectionState → String
  | unknown => "Unknown"
  | connected => "Connected"
  | notConnected => "NotConnected"

/-- The state after an answer. -/
def ofAnswer : Bool → ConnectionState
  | true => connected
  | false => notConnected

end ConnectionState

/-- A change of the connection. -/
inductive Transition where
  | connected
  | disconnected
  deriving Repr, DecidableEq, Inhabited

namespace Transition

/-- The name of a change. -/
def name : Transition → String
  | connected => "Connected"
  | disconnected => "Disconnected"

/-- The change to the state that follows an answer. -/
def ofAnswer : Bool → Transition
  | true => connected
  | false => disconnected

/-- What is reported on a change. -/
def notice : Transition → Notice
  | connected => .connected
  | disconnected => .notConnected

end Transition

/-- The last answer, and how many milliseconds each poll may wait. -/
structure Monitor where
  state : ConnectionState := .unknown
  timeout : Nat
  deriving Repr, DecidableEq, Inhabited

namespace Monitor

/-- A monitor that has seen no answer. -/
def fresh (timeout : Nat) : Monitor := { timeout }

/-- Takes note of an answer and returns the change that it means, if any. -/
def observe (monitor : Monitor) (connected : Bool) : Option Transition × Monitor :=
  let next := ConnectionState.ofAnswer connected
  (if monitor.state = next then none else some (.ofAnswer connected),
    { monitor with state := next })

/-- What is reported when an answer is taken note of. -/
def notices (monitor : Monitor) (connected : Bool) : List Notice :=
  (monitor.observe connected).1.toList.map Transition.notice

end Monitor

end JobHooks
