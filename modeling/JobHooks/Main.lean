import JobHooks.Cli.Run
import Std.Time

/-!
# The command line tool

The surroundings of the process are looked at, the command is carried out in them, and what comes of
it is printed.  Local sockets are out of reach here, so to the tool no daemon is ever listening.
-/

namespace JobHooks.Main

set_option autoImplicit false

/-- The variables that the tool looks at. -/
def variableNames : List String :=
  [ "HOOKRELAY_PLUGIN_ENDPOINT", "HOOKRELAY_CONNECT_TIMEOUT_MS", "HOOKRELAY_RPC_TIMEOUT_MS",
    "HOOKRELAY_LOG_LEVEL", "HOOKRELAY_LOG_JSON", "RUST_LOG" ]

/-- The variables of the process. -/
def readEnvironment : IO Environment :=
  variableNames.filterMapM fun name => do
    return (← IO.getEnv name).map fun value => (name, Text.encode value)

/-- What is found under a path. -/
def readFile (path : String) : IO FileState := do
  try
    let content ← IO.FS.readBinFile path
    return .regular content.data.toList
  catch error =>
    match error with
    | .inappropriateType .. => return .directory
    | _ => return .missing

/-- A moment as log lines tell it. -/
def timeText (moment : Std.Time.Timestamp) : String :=
  (Std.Time.PlainDateTime.ofWallTime (moment.toWallTime Std.Time.TimeZone.Offset.zero)).format
    "uuuu-MM-dd'T'HH:mm:ss.SSSSSS'Z'"

/-- The surroundings of the process, with the file that the arguments name. -/
def look (arguments : List String) : IO Cli.Surroundings := do
  let environment ← readEnvironment
  let moment ← Std.Time.Timestamp.now
  let now := Int64.ofInt moment.toSecondsSinceUnixEpoch.val
  let here : Cli.Surroundings :=
    { environment
      site := { socket := "" }
      now
      later := now
      uptime := (← IO.monoMsNow) / 1000
      time := timeText moment
      thread := (← IO.getTID).toNat }
  match Cli.parse here.standIns arguments with
  | .ok { config? := some path, .. } =>
    let state ← readFile path
    return { here with fileAt := fun _ => state }
  | _ => return here

end JobHooks.Main

/-- Carries out the command that the arguments name. -/
def main (arguments : List String) : IO UInt32 := do
  let outcome := JobHooks.Cli.run (← JobHooks.Main.look arguments) arguments
  for line in outcome.out do
    IO.println line
  for line in outcome.err do
    IO.eprintln line
  return UInt32.ofNat outcome.code
