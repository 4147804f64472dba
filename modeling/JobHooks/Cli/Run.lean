import JobHooks.Cli.Arguments
import JobHooks.Client.Connect
import JobHooks.Config.Load
import JobHooks.Log.Setup
import JobHooks.Text.Lines

/-!
# Carrying out a command

What a command line leads to, given the surroundings in which it is carried out: lines of output,
lines of complaint and an exit code.  A hook is delivered by a client of its own, which is given
some time for it, and what has become of the one event is reported; a check only asks whether the
daemon can be reached.

A command may panic.  The client that it has by then is shut down on the way out, so its worker
still comes to its end.
-/

namespace JobHooks.Cli

set_option autoImplicit false

/-! ## Surroundings and outcomes -/

/-- What a command finds when it is carried out. -/
structure Surroundings where
  environment : Environment := []
  /-- What is found under a path. -/
  fileAt : String → FileState := fun _ => .missing
  /-- The place where the daemon may listen. -/
  site : Site
  /-- What the clock shows when the command begins, in seconds. -/
  now : Int64 := 0
  /-- What the clock shows when the event is handed over, in seconds. -/
  later : Int64 := 0
  /-- For how many seconds the machine has been up. -/
  uptime : Nat := 0
  /-- The time that log lines tell. -/
  time : String := ""
  /-- The number of the thread that carries the command out. -/
  thread : Nat := 0
  /-- The place in the text of the program that a panic names. -/
  placeOf : Panic → String := fun _ => ""

/-- What a command line leads to. -/
structure Outcome where
  code : Nat
  out : List String := []
  err : List String := []
  site : Site

/-- Why a command has not done what it was to do. -/
inductive Failure where
  | config (error : ConfigError)
  /-- A client for an endpoint could not be set up. -/
  | setup (endpoint : String) (error : ConfigError)
  | log (error : Log.SetupError)
  | unreachable (endpoint : String) (milliseconds : Nat)
  | undelivered (seconds : UInt64)
  | panic (found : Panic)
  deriving Repr, DecidableEq, Inhabited

namespace Failure

/-- The words for a failure. -/
def message : Failure → String
  | config error => error.message
  | setup endpoint _ => "failed to set up plugin client for " ++ endpoint
  | log error => error.message
  | unreachable endpoint milliseconds =>
    "plugin daemon at " ++ endpoint ++ " is not reachable within " ++ toString milliseconds ++ "ms"
  | undelivered seconds =>
    "hook event was not delivered within " ++ toString seconds.toNat ++ "s"
  | panic found => found.text

/-- What lies behind a failure, the direct cause first. -/
def causes : Failure → List String
  | config error => error.cause?.toList
  | setup _ error => error.message :: error.cause?.toList
  | log _ | unreachable _ _ | undelivered _ | panic _ => []

/-- The exit code of a failure. -/
def code : Failure → Nat
  | panic _ => 101
  | _ => 1

end Failure

/-- The lines in which causes are told; several ones are numbered. -/
def causeLines : List String → List String
  | [] => []
  | [cause] => ["", "Caused by:"] ++ (Text.lines cause).map ("    " ++ ·)
  | causes =>
    ["", "Caused by:"] ++ causes.zipIdx.flatMap fun (cause, number) =>
      (Text.lines cause).zipIdx.map fun (line, position) =>
        (if position = 0 then "    " ++ toString number ++ ": " else "       ") ++ line

/-- The lines in which a panic is told if nobody has asked for more. -/
def Surroundings.panicLines (surroundings : Surroundings) (panic : Panic) : List String :=
  ["", "thread 'main' (" ++ toString surroundings.thread ++ ") panicked at "
    ++ surroundings.placeOf panic ++ ":"]
    ++ Text.lines panic.text
    ++ ["note: run with `RUST_BACKTRACE=1` environment variable to display a backtrace"]

/-- The lines in which a failure is told. -/
def Failure.lines (surroundings : Surroundings) : Failure → List String
  | panic found => surroundings.panicLines found
  | failure => Text.lines ("Error: " ++ failure.message) ++ causeLines failure.causes

/-! ## Configuration -/

/-- The variables that may stand in for options. -/
def Surroundings.standIns (surroundings : Surroundings) : Variables := fun name =>
  (surroundings.environment.lookup name).map Text.decode?

/-- The configuration that a command works with: the one that is loaded, with the endpoint of the
command line if there is one.  It is validated before and after the endpoint is put in. -/
def configure (surroundings : Surroundings) (arguments : Arguments) :
    Except ConfigError Config := do
  let file := arguments.config?.map fun path => NamedFile.mk path (surroundings.fileAt path)
  let loaded ← Config.load file surroundings.environment
  match arguments.endpoint? with
  | none => return loaded
  | some endpoint =>
    ({ loaded with plugin := { loaded.plugin with endpoint } } : Config).validate

/-! ## Sending a hook -/

/-- When jobs have started that started so many seconds ago. -/
def startStamp (now secondsAgo : Int64) : Stamp := ⟨now - secondsAgo, 0⟩

/-- The payload of a command that sends a hook, and for how many seconds its delivery is waited for.
-/
def Command.hook? (now : Int64) : Command → Option (Payload × UInt64)
  | .start jobIds name partition drainSeconds =>
    some (.start (jobIds.map fun id => { id, name, partition }), drainSeconds)
  | .finish jobIds startedSecondsAgo drainSeconds =>
    some (.finish (jobIds.map fun id =>
      { id, startTime := some (startStamp now startedSecondsAgo) }), drainSeconds)
  | .monitor target drainSeconds => some (.monitor target, drainSeconds)
  | .check => none

/-- What is read of a client in the end: its totals, and how many events are waiting. -/
structure Sample where
  sent : UInt64
  rejected : UInt64
  requeued : UInt64
  pending : Nat
  deriving Repr, DecidableEq, Inhabited

namespace Sample

/-- The totals of a client, with a number of events that are waiting. -/
def ofStats (stats : DeliveryStats) (pending : Nat) : Sample where
  sent := stats.sent
  rejected := stats.rejected
  requeued := stats.requeued
  pending

/-- What is read of a client with a single event when the wait for it is over.  The worker holds the
event while the daemon is called. -/
def ofWait {σ : Type} (wait : Wait σ) : Sample :=
  ofStats wait.client.stats (if wait.isCalling then 0 else wait.client.pending)

/-- The lines that report on an event. -/
def report (endpoint : String) (sample : Sample) : List String :=
  [ "Endpoint: " ++ endpoint,
    "  sent:     " ++ toString sample.sent.toNat,
    "  rejected: " ++ toString sample.rejected.toNat,
    "  requeued: " ++ toString sample.requeued.toNat,
    "  pending:  " ++ toString sample.pending ]

/-- A command that has not read of a success has failed. -/
def failure? (drainSeconds : UInt64) (sample : Sample) : Option Failure :=
  if sample.sent = 0 then some (.undelivered drainSeconds) else none

end Sample

/-- Whether a moment so many seconds ahead can be told by the clock. -/
def isTellable (uptime : Nat) (seconds : UInt64) : Bool :=
  uptime + seconds.toNat < 0x8000000000000000

/-- The panic at a moment that lies too far ahead for the clock. -/
def clockOverflow : Panic := ⟨"overflow when adding duration to instant"⟩

/-- What a command has come to: the notices on the way, the lines behind them, and whether it
failed. -/
structure Result where
  notices : List Notice := []
  lines : List String := []
  failure? : Option Failure := none
  site : Site

/-- Delivers a hook.  The wait goes on for as many passes as there is time for, since every attempt
to reach the daemon is reported.  If the clock cannot tell how long to wait the command panics, and
the client is shut down while its worker waits in its first poll. -/
def send (surroundings : Surroundings) (plugin : PluginConfig) (payload : Payload)
    (drainSeconds : UInt64) : Result :=
  match Client.connect plugin surroundings.site with
  | .error error => { failure? := some (.setup plugin.endpoint error), site := surroundings.site }
  | .ok (daemon, started) =>
    let settings := DeliverySettings.ofConfig plugin
    let submitted := started.client.submit surroundings.later payload
    let before := started.notices ++ started.trace.notices ++ submitted.notices
    if isTellable surroundings.uptime drainSeconds then
      let patience : Patience (Transport Site) :=
        { left := 1000 * drainSeconds.toNat, waited := fun transport => transport.beyond.waited }
      let limit := surroundings.site.passLimit 1 + patience.left / settings.reconnectBackoff
      let waited := Client.await daemon settings 1 limit (some patience) submitted.client
      let ended := waited.shutdown daemon settings
      let sample := Sample.ofWait waited
      { notices := before ++ waited.trace.notices ++ ended.closing
        lines := sample.report plugin.endpoint
        failure? := sample.failure? drainSeconds
        site := ended.client.worker.daemon.beyond }
    else
      let ended := submitted.client.shutdown daemon settings
      { notices := before ++ ended.closing
        failure? := some (.panic clockOverflow)
        site := ended.client.worker.daemon.beyond }

/-! ## Checking the daemon -/

/-- Asks whether the daemon can be reached. -/
def check (surroundings : Surroundings) (plugin : PluginConfig) : Result :=
  match plugin.socketPath with
  | .error error => { failure? := some (.config error), site := surroundings.site }
  | .ok path =>
    let timeout := plugin.connectTimeoutMs.toNat
    let (outcome, transport) :=
      Transport.poll (Site.link path) timeout { beyond := surroundings.site }
    let isReached := outcome.isReached
    { notices := .checkingDaemon path :: outcome.notices path
      lines :=
        if isReached then ["Plugin daemon at " ++ plugin.endpoint ++ " is reachable"] else []
      failure? := if isReached then none else some (.unreachable plugin.endpoint timeout)
      site := transport.beyond }

/-! ## Whole runs -/

/-- Carries a command out with a configuration. -/
def carryOut (surroundings : Surroundings) (config : Config) (command : Command) : Result :=
  match command.hook? surroundings.now with
  | some (payload, drainSeconds) => send surroundings config.plugin payload drainSeconds
  | none => check surroundings config.plugin

/-- The outcome of a failure before anything was done. -/
def failed (surroundings : Surroundings) (failure : Failure) : Outcome :=
  { code := failure.code, err := failure.lines surroundings, site := surroundings.site }

/-- What the program is for. -/
def description : String := "Operator tool for sending hook events to a plugin daemon"

/-- The name and the version of the program. -/
def versionLine : String := "hookrelay-cli 0.1.0"

/-- How the program is used. -/
def helpLines : List String :=
  [description, "", "Usage: " ++ programName ++ " [OPTIONS] <COMMAND>", "", "Commands:"]
    ++ ["start", "end", "monitor", "check", "help"].map ("  " ++ ·)

/-- The outcome of a command line that names nothing to carry out. -/
def stopped (surroundings : Surroundings) : Stop → Outcome
  | .usage error =>
    { code := 2, err := Text.lines ("error: " ++ error.message), site := surroundings.site }
  | .nothing => { code := 2, err := helpLines, site := surroundings.site }
  | .help => { code := 0, out := helpLines, site := surroundings.site }
  | .version => { code := 0, out := [versionLine], site := surroundings.site }

/-- The outcome of a command that was carried out. -/
def finished (surroundings : Surroundings) (logger : Log.Logger) (result : Result) : Outcome :=
  { code := (result.failure?.map Failure.code).getD 0
    out := (logger.lines surroundings.time result.notices ++ result.lines).flatMap Text.lines
    err := (result.failure?.map (Failure.lines surroundings)).getD []
    site := result.site }

/-- What a command line leads to. -/
def run (surroundings : Surroundings) (arguments : List String) : Outcome :=
  match parse surroundings.standIns arguments with
  | .error stop => stopped surroundings stop
  | .ok parsed =>
    match configure surroundings parsed with
    | .error error => failed surroundings (.config error)
    | .ok config =>
      match (Log.install false surroundings.environment config.logging).run with
      | .error panic => failed surroundings (.panic panic)
      | .ok (.error error) => failed surroundings (.log error)
      | .ok (.ok logger) =>
        finished surroundings logger (carryOut surroundings config parsed.command)

end JobHooks.Cli
