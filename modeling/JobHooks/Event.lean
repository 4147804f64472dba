import JobHooks.Job

/-!
# Hook events

A hook tells the plugin daemon that jobs have started, that jobs have ended, or that a job's
resources are to be watched.  `Payload` is what is told; its hook type is read off its shape, so the
two cannot disagree.

An `Event` is a payload on its way to the daemon together with its arrival number: the number of
events that had been handed over before it.  Two events are never confused, even when they tell the
same thing.
-/

namespace JobHooks

set_option autoImplicit false

/-- The three kinds of hooks. -/
inductive HookType where
  | start
  | finish
  | monitor
  deriving Repr, DecidableEq, Inhabited

namespace HookType

/-- The kinds in the order of their places in the dispatch table. -/
def all : List HookType := [start, finish, monitor]

/-- The place of a kind in the dispatch table. -/
def index : HookType → Nat
  | start => 0
  | finish => 1
  | monitor => 2

/-- The name of a kind in log entries. -/
def name : HookType → String
  | start => "start"
  | finish => "end"
  | monitor => "job_monitor"

/-- The name of the call that carries hooks of a kind. -/
def callName : HookType → String
  | start => "StartHook"
  | finish => "EndHook"
  | monitor => "JobMonitorHook"

end HookType

/-- What a hook tells the daemon. -/
inductive Payload where
  | start (jobs : List JobInfo)
  | finish (jobs : List JobInfo)
  | monitor (target : MonitorTarget)
  deriving Repr, DecidableEq, Inhabited

namespace Payload

/-- The kind of hook that carries this payload. -/
def hookType : Payload → HookType
  | start _ => .start
  | finish _ => .finish
  | monitor _ => .monitor

end Payload

/-- A payload on its way to the daemon, with the number of events handed over before it. -/
structure Event where
  payload : Payload
  arrival : Nat
  deriving Repr, DecidableEq, Inhabited

namespace Event

/-- The kind of hook that carries this event. -/
def hookType (event : Event) : HookType := event.payload.hookType

/-- The events made of payloads that arrive one after the other, the first with number `first`. -/
def numbered : Nat → List Payload → List Event
  | _, [] => []
  | first, payload :: rest => ⟨payload, first⟩ :: numbered (first + 1) rest

end Event

end JobHooks
