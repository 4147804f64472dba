import JobHooks.Notice
import JobHooks.Text.Json
import JobHooks.Text.Terminal

/-!
# Log lines

A notice as a line of text or as a JSON object.  Either form tells the time, the level, the part of
the program that the notice comes from, its text and its named values.  In a line of text the text
of the notice is marked, so that a terminal obeys nothing in it; the named values are not.
-/

namespace JobHooks.Log

set_option autoImplicit false

/-- The part of the program that a notice comes from. -/
def target : Notice → String
  | .loadingFile _ | .fileMissing _ => "hookrelay_core::config"
  | .clientStarting _ | .clientEnding | .workerPanicked | .enqueued _ => "hookrelay_core::client"
  | .workerStarted _ _ | .workerStopped _ | .dequeued _ | .sent _ | .rejected _ _ _
  | .deferred _ _ _ _ => "hookrelay_core::delivery"
  | .connected | .notConnected => "hookrelay_core::monitor"
  | .sending _ => "hookrelay_core::dispatch"
  | .dialFailed _ | .dialTimedOut _ | .droppingChannel _ => "hookrelay_core::transport"
  | .checkingDaemon _ => "hookrelay"

/-- The names of values that a notice carries but that are not told, since they come from a clock.
-/
def silentNames : Notice → List String
  | .sent _ => ["queued_ms"]
  | _ => []

/-- The names under which a notice has something to say: its text, and its values. -/
def fieldNames (notice : Notice) : List String :=
  "message" :: notice.values.map (·.1) ++ silentNames notice

/-- A value in a line of text. -/
def plainValue : NoticeValue → String
  | .number value => toString value
  | .text value => value

/-- A value in a JSON object. -/
def jsonValue : NoticeValue → String
  | .number value => toString value
  | .text value => Text.jsonText value

/-- The name of a level, five characters wide. -/
def paddedLevel (level : Level) : String :=
  String.ofList (List.replicate (5 - level.name.length) ' ') ++ level.name

/-- A notice as a line of text. -/
def textLine (time : String) (notice : Notice) : String :=
  time ++ " " ++ paddedLevel notice.level ++ " " ++ target notice ++ ": " ++ Text.marked notice.text
    ++ String.join (notice.values.map fun value => " " ++ value.1 ++ "=" ++ plainValue value.2)

/-- A notice as a JSON object. -/
def jsonLine (time : String) (notice : Notice) : String :=
  Text.jsonObject [
    ("timestamp", Text.jsonText time), ("level", Text.jsonText notice.level.name),
    ("fields", Text.jsonObject (("message", Text.jsonText notice.text)
      :: notice.values.map fun value => (value.1, jsonValue value.2))),
    ("target", Text.jsonText (target notice))]

/-- A notice as a line. -/
def line (json : Bool) (time : String) (notice : Notice) : String :=
  if json then jsonLine time notice else textLine time notice

end JobHooks.Log
