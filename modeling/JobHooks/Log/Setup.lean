import JobHooks.Config.Environment
import JobHooks.Log.Filter
import JobHooks.Log.Line

/-!
# Setting up the log

A process has one log.  What it lets through is said by the variable `RUST_LOG`, if that holds a
filter, and otherwise by the configuration.  To read either may panic.
-/

namespace JobHooks.Log

set_option autoImplicit false

/-- Why the log cannot be set up. -/
inductive SetupError where
  /-- The configured level is no filter. -/
  | invalidLevel (level : String) (fault : FilterFault)
  /-- The process has its log already. -/
  | alreadyInitialized
  deriving Repr, DecidableEq, Inhabited

/-- The words for what went wrong. -/
def SetupError.message : SetupError → String
  | invalidLevel level fault =>
    "Invalid configuration: invalid log level " ++ Text.quoted level ++ ": " ++ fault.message
  | alreadyInitialized =>
    "Logging already initialized: a global default trace dispatcher has already been set"

/-- The filter of the environment, if it has one. -/
def environmentFilter? (environment : Environment) : Except Panic (Option Filter) :=
  match environment.text? "RUST_LOG" with
  | none => .ok none
  | some text => (Filter.ofText text).run.map Except.toOption

/-- The filter of the environment or, without one, that of the configuration. -/
def chooseFilter (environment : Environment) (logging : LoggingConfig) :
    ExceptT SetupError (Except Panic) Filter := do
  match ← environmentFilter? environment with
  | some filter => return filter
  | none => (Filter.ofText logging.level).adapt (.invalidLevel logging.level)

/-- A log: what it lets through, and the form of its lines. -/
structure Logger where
  filter : Filter
  json : Bool
  deriving Repr, DecidableEq, Inhabited

/-- Sets up the log of a process that may have one already. -/
def install (present : Bool) (environment : Environment) (logging : LoggingConfig) :
    ExceptT SetupError (Except Panic) Logger := do
  let filter ← chooseFilter environment logging
  if present then throw .alreadyInitialized else return ⟨filter, logging.json⟩

/-- The lines that a log shows of notices that come in. -/
def Logger.lines (logger : Logger) (time : String) (notices : List Notice) : List String :=
  (notices.filter fun notice =>
    logger.filter.admits (target notice) (fieldNames notice) notice.level).map
    (line logger.json time)

end JobHooks.Log
