import JobHooks.Job
import JobHooks.Text.Integer
import JobHooks.Text.Terminal

/-!
# Options of the command line

The four commands and their options.  An option has a long name, perhaps a short one, and takes one
value, or, where it takes a list, one value or more.  `readValue` reads a value of an option, and
`UsageError` lists what can be wrong with a command line.
-/

namespace JobHooks.Cli

set_option autoImplicit false

open Text (IntegerBounds IntegerFault)

/-! ## Options -/

/-- What the value of an option is. -/
inductive ValueKind where
  | text
  | path
  /-- A number within bounds. -/
  | number (bounds : IntegerBounds)
  /-- A number below `2 ^ 32`; its bounds are named when it lies outside of them. -/
  | jobId
  deriving Repr, DecidableEq, Inhabited

/-- An option. -/
structure OptionSpec where
  long : String
  short? : Option Char := none
  valueName : String
  kind : ValueKind := .text
  isList : Bool := false
  isRequired : Bool := false
  /-- The variable that stands in for the option. -/
  standIn? : Option String := none
  deriving Repr, DecidableEq, Inhabited

/-- An option in messages. -/
def OptionSpec.display (option : OptionSpec) : String :=
  "--" ++ option.long ++ " <" ++ option.valueName ++ ">" ++ if option.isList then "..." else ""

/-- The option for the configuration file. -/
def configOption : OptionSpec :=
  { long := "config", short? := some 'c', valueName := "CONFIG", kind := .path }

/-- The option for the endpoint of the daemon. -/
def endpointOption : OptionSpec :=
  { long := "endpoint", valueName := "ENDPOINT", standIn? := some "HOOKRELAY_PLUGIN_ENDPOINT" }

/-- The options that may stand in front of the command and behind it. -/
def globalOptions : List OptionSpec := [configOption, endpointOption]

/-- The option for the jobs that a hook is about. -/
def jobIdsOption : OptionSpec :=
  { long := "job-id", valueName := "JOB_IDS", kind := .jobId, isList := true, isRequired := true }

/-- The option for the job that is to be watched. -/
def jobIdOption : OptionSpec :=
  { long := "job-id", valueName := "JOB_ID", kind := .jobId, isRequired := true }

/-- The option for the name of the jobs. -/
def nameOption : OptionSpec := { long := "name", valueName := "NAME" }

/-- The option for the partition of the jobs. -/
def partitionOption : OptionSpec := { long := "partition", valueName := "PARTITION" }

/-- The option for how long ago the jobs have started. -/
def startedOption : OptionSpec :=
  { long := "started-secs-ago", valueName := "STARTED_SECS_AGO", kind := .number .signedWord
    isRequired := true }

/-- The option for the control group that is to be watched. -/
def cgroupOption : OptionSpec := { long := "cgroup", valueName := "CGROUP", isRequired := true }

/-- The option for how long delivery is waited for. -/
def drainOption : OptionSpec :=
  { long := "drain-timeout-secs", valueName := "DRAIN_TIMEOUT_SECS", kind := .number .word }

/-- The commands. -/
inductive CommandName where
  | start
  | finish
  | monitor
  | check
  deriving Repr, DecidableEq, Inhabited

namespace CommandName

/-- The command with a name. -/
def ofText? : String → Option CommandName
  | "start" => some start
  | "end" => some finish
  | "monitor" => some monitor
  | "check" => some check
  | _ => none

/-- The options of a command beside the global ones. -/
def options : CommandName → List OptionSpec
  | start => [jobIdsOption, nameOption, partitionOption, drainOption]
  | finish => [jobIdsOption, startedOption, drainOption]
  | monitor => [jobIdOption, cgroupOption, drainOption]
  | check => []

end CommandName

/-! ## Faults -/

/-- The program in messages. -/
def programName : String := "hookrelay"

/-- What can be wrong with the arguments. -/
inductive UsageError where
  | unexpectedArgument (argument : String)
  | unexpectedValue (value : String) (flag : String)
  | unrecognizedCommand (name : String)
  | missingCommand
  | missingOptions
  | missingValue (option : OptionSpec)
  | repeatedOption (option : OptionSpec)
  | notInteger (value : String) (option : OptionSpec) (fault : IntegerFault)
  | outOfBounds (value : String) (number : Int) (option : OptionSpec) (bounds : IntegerBounds)
  | notText
  deriving Repr, DecidableEq, Inhabited

/-- A text from the command line as it is shown: in apostrophes, and without what would steer a
terminal. -/
def shown (text : String) : String := "'" ++ Text.unsequenced text ++ "'"

/-- The words for what is wrong with the arguments. -/
def UsageError.message : UsageError → String
  | unexpectedArgument argument => "unexpected argument " ++ shown argument ++ " found"
  | unexpectedValue value flag =>
    "unexpected value " ++ shown value ++ " for '" ++ flag ++ "' found; no more were expected"
  | unrecognizedCommand name => "unrecognized subcommand " ++ shown name
  | missingCommand =>
    "'" ++ programName ++ "' requires a subcommand but one was not provided"
  | missingOptions => "the following required arguments were not provided:"
  | missingValue option =>
    "a value is required for '" ++ option.display ++ "' but none was supplied"
  | repeatedOption option =>
    "the argument '" ++ option.display ++ "' cannot be used multiple times"
  | notInteger value option fault =>
    "invalid value " ++ shown value ++ " for '" ++ option.display ++ "': " ++ fault.message
  | outOfBounds value number option bounds =>
    "invalid value " ++ shown value ++ " for '" ++ option.display ++ "': " ++ toString number
      ++ " is not in " ++ toString bounds.least ++ "..=" ++ toString bounds.greatest
  | notText => "invalid UTF-8 was detected in one or more arguments"

/-- Why reading the arguments ends before a command can be carried out. -/
inductive Stop where
  | usage (error : UsageError)
  /-- There was nothing to read. -/
  | nothing
  | help
  | version
  deriving Repr, DecidableEq, Inhabited

/-! ## Values -/

/-- The value of an option. -/
inductive OptionValue where
  | text (value : String)
  | number (value : Int)
  deriving Repr, DecidableEq, Inhabited

/-- The numbers of jobs. -/
def jobIdBounds : IntegerBounds := ⟨0, 0xFFFFFFFF⟩

/-- Reads a value of an option. -/
def readValue (option : OptionSpec) (value : String) : Except UsageError OptionValue :=
  let integer (bounds : IntegerBounds) : Except UsageError Int :=
    (Text.integer bounds value).mapError (.notInteger value option)
  match option.kind with
  | .text => .ok (.text value)
  | .path => if value = "" then .error (.missingValue option) else .ok (.text value)
  | .number bounds => (integer bounds).map .number
  | .jobId => do
    let number ← integer .signedWord
    if number < jobIdBounds.least ∨ jobIdBounds.greatest < number then
      .error (.outOfBounds value number option jobIdBounds)
    else return .number number

end JobHooks.Cli
