import JobHooks.Event
import JobHooks.Status
import JobHooks.Text.Quoted

/-!
# Notices

What the library reports while it works.  A `Notice` says what has happened; its level, its text and
its named values follow from that, and are written down here alone.
-/

namespace JobHooks

set_option autoImplicit false

/-- How important a notice is. -/
inductive Level where
  | trace
  | debug
  | info
  | warn
  | error
  deriving Repr, DecidableEq, Inhabited

namespace Level

/-- The name of a level in log lines. -/
def name : Level → String
  | trace => "TRACE"
  | debug => "DEBUG"
  | info => "INFO"
  | warn => "WARN"
  | error => "ERROR"

/-- How much a level asks for, from one for errors alone to five for everything. -/
def verbosity : Level → Nat
  | error => 1
  | warn => 2
  | info => 3
  | debug => 4
  | trace => 5

end Level

/-- A named value of a notice. -/
inductive NoticeValue where
  | number (value : Nat)
  | text (value : String)
  deriving Repr, DecidableEq, Inhabited

/-- What the library reports. -/
inductive Notice where
  | loadingFile (path : String)
  | fileMissing (path : String)
  | clientStarting (endpoint : String)
  | clientEnding
  | workerPanicked
  | enqueued (hookType : HookType)
  | workerStarted (connectTimeout idleInterval : Nat)
  | workerStopped (pending : Nat)
  | connected
  | notConnected
  | dequeued (count : Nat)
  | sending (hookType : HookType)
  | sent (hookType : HookType)
  | rejected (hookType : HookType) (detail : String) (status : Status)
  | deferred (hookType : HookType) (requeued : Nat) (detail : String) (reason : String)
  | checkingDaemon (socketPath : String)
  | dialFailed (socketPath : String)
  | dialTimedOut (socketPath : String)
  | droppingChannel (socketPath : String)
  deriving Repr, DecidableEq, Inhabited

namespace Notice

/-- How important a notice is. -/
def level : Notice → Level
  | loadingFile _ => .info
  | fileMissing _ => .warn
  | clientStarting _ => .info
  | clientEnding => .trace
  | workerPanicked => .error
  | enqueued _ => .trace
  | workerStarted _ _ => .info
  | workerStopped _ => .info
  | connected => .info
  | notConnected => .warn
  | dequeued _ => .debug
  | sending _ => .trace
  | sent _ => .trace
  | rejected _ _ _ => .error
  | deferred _ _ _ _ => .warn
  | checkingDaemon _ => .info
  | dialFailed _ => .trace
  | dialTimedOut _ => .trace
  | droppingChannel _ => .debug

/-- The text of a notice. -/
def text : Notice → String
  | loadingFile path => "Loading configuration from file: " ++ Text.quoted path
  | fileMissing path => "Config file not found: " ++ Text.quoted path ++ ", using defaults"
  | clientStarting _ => "Initializing plugin client"
  | clientEnding => "Plugin client is ending. Waiting for the delivery worker to finish."
  | workerPanicked => "Hook delivery worker panicked"
  | enqueued _ => "Enqueue hook event"
  | workerStarted connectTimeout idleInterval =>
    "Hook delivery worker started (connect_timeout=" ++ toString connectTimeout
      ++ "ms, idle_interval=" ++ toString idleInterval ++ "ms)"
  | workerStopped _ => "Hook delivery worker stopped"
  | connected => "Plugin daemon is connected"
  | notConnected => "Plugin daemon is not connected, events will be held until it returns"
  | dequeued _ => "Dequeued hook events"
  | sending hookType => "Sending " ++ hookType.callName
  | sent _ => "Hook event sent"
  | rejected _ detail status =>
    "Failed to send hook event: " ++ detail ++ "; " ++ status.message
      ++ " (code: " ++ status.code.name ++ ")"
  | deferred _ _ detail reason =>
    "Plugin daemon unavailable: " ++ detail ++ "; " ++ reason
      ++ "; deferring remaining hook events"
  | checkingDaemon _ => "Checking plugin daemon"
  | dialFailed _ => "Plugin daemon connect failed: transport error"
  | dialTimedOut _ => "Plugin daemon connect timed out"
  | droppingChannel _ => "Dropping plugin daemon channel"

/-- The named values of a notice. -/
def values : Notice → List (String × NoticeValue)
  | loadingFile _ | fileMissing _ | clientEnding | workerPanicked | workerStarted _ _
  | connected | notConnected | sending _ => []
  | clientStarting endpoint => [("endpoint", .text endpoint)]
  | enqueued hookType => [("hook_type", .text hookType.name)]
  | workerStopped pending => [("pending", .number pending)]
  | dequeued count => [("count", .number count)]
  | sent hookType => [("hook_type", .text hookType.name)]
  | rejected hookType _ status =>
    [("hook_type", .text hookType.name), ("code", .number status.code.number)]
  | deferred hookType requeued _ _ =>
    [("hook_type", .text hookType.name), ("requeued", .number requeued)]
  | checkingDaemon socketPath | dialFailed socketPath | dialTimedOut socketPath
  | droppingChannel socketPath =>
    [("socket", .text (Text.quoted socketPath))]

end Notice

end JobHooks
