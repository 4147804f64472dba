import JobHooks.Cli.Options

/-!
# Arguments of the command line

A command line has options, a command, and behind it the options of the command.  The value of an
option stands behind its name or, with an equals sign, in the same argument.

`parse` reads the arguments from left to right.  The values of an option are looked at when the next
option begins or the arguments end, so that the first fault in this order is reported; what is
missing is reported last.
-/

namespace JobHooks.Cli

set_option autoImplicit false

/-! ## Reading -/

/-- What has been read of the options of one level: their values, and the option whose values are
still coming in. -/
structure Reading where
  values : List (OptionSpec × List OptionValue) := []
  pending? : Option (OptionSpec × List String) := none
  /-- Whether the pending option takes another value. -/
  isOpen : Bool := false
  deriving Repr, DecidableEq, Inhabited

namespace Reading

/-- The values of an option. -/
def get (reading : Reading) (option : OptionSpec) : List OptionValue :=
  ((reading.values.filter fun entry => entry.1 == option).map (·.2)).flatten

/-- Whether an option has been given. -/
def has (reading : Reading) (option : OptionSpec) : Bool :=
  reading.values.any fun entry => entry.1 == option

/-- Takes the values of an option in. -/
def add (option : OptionSpec) (values : List String) (reading : Reading) :
    Except UsageError Reading := do
  if values.isEmpty then throw (.missingValue option)
  if !option.isList && reading.has option then throw (.repeatedOption option)
  let read ← values.mapM (readValue option)
  return { reading with values := reading.values ++ [(option, read)] }

/-- Takes the values of the pending option in. -/
def resolve (reading : Reading) : Except UsageError Reading :=
  let settled := { reading with pending? := none, isOpen := false }
  match reading.pending? with
  | some (option, values) => settled.add option values
  | none => .ok settled

/-- Begins an option whose value is attached or comes in with the next argument. -/
def begin (option : OptionSpec) (attached? : Option String) (reading : Reading) :
    Except UsageError Reading := do
  let settled ← reading.resolve
  match attached? with
  | some value => settled.add option [value]
  | none => return { settled with pending? := some (option, []), isOpen := true }

/-- Gives another value to the pending option. -/
def push (value : String) (reading : Reading) : Reading :=
  match reading.pending? with
  | some (option, values) =>
    { reading with pending? := some (option, values ++ [value]), isOpen := option.isList }
  | none => reading

end Reading

/-- A level of the command line: the options that it knows, whether it knows the version flag, and
whether a command may follow. -/
structure Grammar where
  options : List OptionSpec
  hasVersion : Bool
  hasCommands : Bool
  deriving Repr, DecidableEq, Inhabited

/-- How the arguments in front of the command are read. -/
def topLevel : Grammar := ⟨globalOptions, true, true⟩

/-- How the arguments behind a command are read. -/
def behindCommand (command : CommandName) : Grammar :=
  ⟨command.options ++ globalOptions, false, false⟩

/-- Splits an argument at its first equals sign, if it has one. -/
def splitAtEquals (characters : List Char) : String × Option String :=
  match characters.dropWhile (· != '=') with
  | _ :: value => (String.ofList (characters.takeWhile (· != '=')), some (String.ofList value))
  | [] => (String.ofList characters, none)

/-- A flag: what is pending is looked at first. -/
def flag (stop : Stop) (reading : Reading) : Except Stop Reading :=
  match reading.resolve with
  | .ok _ => .error stop
  | .error error => .error (.usage error)

/-- Reads an argument with two dashes in front. -/
def readLong (grammar : Grammar) (characters : List Char) (reading : Reading) :
    Except Stop Reading :=
  let (name, attached?) := splitAtEquals characters
  let flagStop? : Option Stop :=
    if name = "help" then some .help
    else if name = "version" ∧ grammar.hasVersion then some .version
    else none
  match grammar.options.find? (·.long == name), flagStop?, attached? with
  | some option, _, attached? => (reading.begin option attached?).mapError .usage
  | none, some stop, none => flag stop reading
  | none, some _, some value => .error (.usage (.unexpectedValue value ("--" ++ name)))
  | none, none, _ => .error (.usage (.unexpectedArgument ("--" ++ name)))

/-- Reads an argument with one dash in front. -/
def readShort (grammar : Grammar) (letter : Char) (behind : List Char) (reading : Reading) :
    Except Stop Reading :=
  match grammar.options.find? (·.short? == some letter) with
  | some option =>
    let attached? :=
      match behind with
      | [] => none
      | '=' :: value => some (String.ofList value)
      | value => some (String.ofList value)
    (reading.begin option attached?).mapError .usage
  | none =>
    if letter = 'h' then flag .help reading
    else if letter = 'V' ∧ grammar.hasVersion then flag .version reading
    else .error (.usage (.unexpectedArgument (String.ofList ['-', letter])))

/-- The fault of an argument that nothing takes. -/
def strayArgument (grammar : Grammar) (behindDashes : Bool) (argument : String) : UsageError :=
  let isCommand := (CommandName.ofText? argument).isSome || argument == "help"
  if grammar.hasCommands && !(behindDashes && isCommand) then .unrecognizedCommand argument
  else .unexpectedArgument argument

/-- What the arguments of a level lead to: what has been read, and at a command its name and the
arguments behind it. -/
abbrev LevelResult := Reading × Option (String × List String)

/-- Reads the arguments of a level.  Behind two dashes alone nothing is an option. -/
def readLevel (grammar : Grammar) : Reading → List String → Except Stop LevelResult
  | reading, [] => .ok (reading, none)
  | reading, argument :: rest =>
    if grammar.hasCommands && !reading.isOpen
        && ((CommandName.ofText? argument).isSome || argument == "help") then
      .ok (reading, some (argument, rest))
    else
      match argument.toList with
      | ['-', '-'] =>
        match rest with
        | [] => .ok (reading, none)
        | stray :: _ => .error (.usage (strayArgument grammar true stray))
      | '-' :: '-' :: characters => do
        let next ← readLong grammar characters reading
        readLevel grammar next rest
      | '-' :: letter :: behind => do
        let next ← readShort grammar letter behind reading
        readLevel grammar next rest
      | _ =>
        if reading.isOpen then readLevel grammar (reading.push argument) rest
        else .error (.usage (strayArgument grammar false argument))

/-- Whether every required option has been given. -/
def isComplete (grammar : Grammar) (reading : Reading) : Bool :=
  grammar.options.all fun option => !option.isRequired || reading.has option

/-! ## Commands -/

/-- What a command line asks for. -/
inductive Command where
  | start (jobIds : List UInt32) (name partition : String) (drainSeconds : UInt64)
  | finish (jobIds : List UInt32) (startedSecondsAgo : Int64) (drainSeconds : UInt64)
  | monitor (target : MonitorTarget) (drainSeconds : UInt64)
  | check
  deriving Repr, DecidableEq, Inhabited

/-- A command line: the configuration file and the endpoint, if they are given, and the command. -/
structure Arguments where
  config? : Option String
  endpoint? : Option String
  command : Command
  deriving Repr, DecidableEq, Inhabited

namespace Reading

/-- The text of an option. -/
def text? (reading : Reading) (option : OptionSpec) : Option String :=
  (reading.get option).findSome? fun
    | .text value => some value
    | .number _ => none

/-- The numbers of an option. -/
def numbers (reading : Reading) (option : OptionSpec) : List Int :=
  (reading.get option).filterMap fun
    | .number value => some value
    | .text _ => none

/-- The number of an option. -/
def number (reading : Reading) (option : OptionSpec) (fallback : Int) : Int :=
  (reading.numbers option).headD fallback

/-- For how many seconds delivery is waited for. -/
def drainSeconds (reading : Reading) : UInt64 :=
  UInt64.ofNat (reading.number drainOption 10).toNat

/-- The jobs that a hook is about. -/
def jobIds (reading : Reading) : List UInt32 :=
  (reading.numbers jobIdsOption).map fun number => UInt32.ofNat number.toNat

/-- The command that has been read. -/
def command (reading : Reading) : CommandName → Command
  | .start =>
    .start reading.jobIds ((reading.text? nameOption).getD "")
      ((reading.text? partitionOption).getD "") reading.drainSeconds
  | .finish =>
    .finish reading.jobIds (Int64.ofInt (reading.number startedOption 0)) reading.drainSeconds
  | .monitor =>
    .monitor ⟨UInt32.ofNat (reading.number jobIdOption 0).toNat,
      (reading.text? cgroupOption).getD ""⟩ reading.drainSeconds
  | .check => .check

end Reading

/-! ## Whole command lines -/

/-- The variables that may stand in for options: nothing for one that is not set, and no text for
one whose value is none. -/
abbrev Variables := String → Option (Option String)

/-- Ends a level: takes in what is pending.  A variable that stands in for an option that is not
given must be a text. -/
def endLevel (grammar : Grammar) (standIns : Variables) (reading : Reading) :
    Except UsageError Reading := do
  let settled ← reading.resolve
  let unreadable (option : OptionSpec) : Bool :=
    !settled.has option && option.standIn?.bind standIns == some none
  if grammar.options.any unreadable then throw .notText else return settled

/-- Reads what stands behind a command. -/
def parseCommand (standIns : Variables) (command : CommandName) (arguments : List String) :
    Except Stop Reading := do
  let grammar := behindCommand command
  let (reading, _) ← readLevel grammar {} arguments
  let settled ← (endLevel grammar standIns reading).mapError .usage
  if isComplete grammar settled then return settled else throw (.usage .missingOptions)

/-- What asking for help leads to: a name behind it must be that of a command. -/
def parseHelp : List String → Stop
  | [] => .help
  | name :: rest =>
    if (CommandName.ofText? name).isSome || name == "help" then
      match rest with
      | [] => .help
      | stray :: _ => .usage (.unrecognizedCommand stray)
    else .usage (.unrecognizedCommand name)

/-- The text of the variable that stands in for an option. -/
def variableText? (standIns : Variables) (option : OptionSpec) : Option String :=
  (option.standIn?.bind standIns).bind id

/-- The text of a global option: behind the command it counts more than in front of it, and a
variable counts least. -/
def globalText? (standIns : Variables) (front behind : Reading) (option : OptionSpec) :
    Option String :=
  behind.text? option <|> front.text? option <|> variableText? standIns option

/-- Why a command line without a command is refused: nothing was given at all, or only options. -/
def withoutCommand (standIns : Variables) (front : Reading) : Stop :=
  if front.values.isEmpty && globalOptions.all fun option => (variableText? standIns option).isNone
  then .nothing
  else .usage .missingCommand

/-- Reads a command line. -/
def parse (standIns : Variables) (arguments : List String) : Except Stop Arguments := do
  let (front, behind?) ← readLevel topLevel {} arguments
  match behind? with
  | none =>
    let front ← (endLevel topLevel standIns front).mapError .usage
    throw (withoutCommand standIns front)
  | some (name, rest) =>
    match CommandName.ofText? name with
    | none => throw (parseHelp rest)
    | some command =>
      let behind ← parseCommand standIns command rest
      let front ← (endLevel topLevel standIns front).mapError .usage
      return {
        config? := globalText? standIns front behind configOption
        endpoint? := globalText? standIns front behind endpointOption
        command := behind.command command }

end JobHooks.Cli
