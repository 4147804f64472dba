import JobHooks.Config.Decode
import JobHooks.Toml.Excerpt

/-!
# What can be wrong with a configuration

`ConfigError` lists the causes, and `ConfigError.message` holds the words for them.
-/

namespace JobHooks

set_option autoImplicit false

/-- A setting that must not be zero. -/
inductive PositiveSetting where
  | connectTimeout
  | reconnectBackoff
  | idleInterval
  | rpcTimeout
  deriving Repr, DecidableEq, Inhabited

/-- What is required of a setting that must not be zero. -/
def PositiveSetting.requirement : PositiveSetting → String
  | connectTimeout => "plugin.connect_timeout_ms must be greater than zero"
  | reconnectBackoff => "plugin.reconnect_backoff_ms must be greater than zero"
  | idleInterval => "plugin.idle_interval_ms must be greater than zero"
  | rpcTimeout => "plugin.rpc_timeout_ms must be greater than zero when set"

/-- Why a file cannot be read. -/
inductive FileFault where
  | missing
  | isDirectory
  | isSocket
  | notText
  deriving Repr, DecidableEq, Inhabited

/-- The words for a fault of a file. -/
def FileFault.message : FileFault → String
  | missing => "No such file or directory (os error 2)"
  | isDirectory => "Is a directory (os error 21)"
  | isSocket => "No such device or address (os error 6)"
  | notText => "stream did not contain valid UTF-8"

/-- What can be wrong with a configuration. -/
inductive ConfigError where
  /-- Behind the scheme of an endpoint there is no path. -/
  | emptyEndpoint (endpoint : String)
  /-- An endpoint has a scheme other than that of local sockets. -/
  | foreignScheme (endpoint : String)
  /-- A setting that must not be zero is zero. -/
  | zero (setting : PositiveSetting)
  /-- A file is no document. -/
  | malformed
  /-- A document has a value that does not suit its setting. -/
  | mismatch (excerpt : Toml.Excerpt) (mismatch : Mismatch)
  /-- A file cannot be read. -/
  | unreadable (fault : FileFault)
  deriving Repr, DecidableEq, Inhabited

namespace ConfigError

/-- What lies behind an error, where something else has found it. -/
def cause? : ConfigError → Option String
  | malformed => some "not a TOML document"
  | mismatch excerpt cause => some (excerpt.layout ++ cause.message ++ "\n")
  | unreadable fault => some fault.message
  | emptyEndpoint _ | foreignScheme _ | zero _ => none

/-- The words for what is wrong with a configuration. -/
def message (error : ConfigError) : String :=
  match error with
  | emptyEndpoint endpoint => "Invalid plugin endpoint: " ++ endpoint
  | foreignScheme endpoint =>
    "Invalid plugin endpoint: " ++ endpoint ++ " (only unix sockets are supported)"
  | zero setting => "Invalid configuration: " ++ setting.requirement
  | malformed | mismatch _ _ => "Config parse error: " ++ error.cause?.getD ""
  | unreadable _ => "IO error: " ++ error.cause?.getD ""

end ConfigError

end JobHooks
