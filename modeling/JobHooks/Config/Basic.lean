/-!
# Configuration

What can be configured: how the plugin daemon is reached and how patiently, and what is logged.
Every setting has a default, which holds when no source says otherwise.
-/

namespace JobHooks

set_option autoImplicit false

/-- How the plugin daemon is reached. -/
structure PluginConfig where
  endpoint : String := "unix:///run/crane/cplugind.sock"
  connectTimeoutMs : UInt64 := 3000
  reconnectBackoffMs : UInt64 := 1000
  idleIntervalMs : UInt64 := 100
  rpcTimeoutMs : Option UInt64 := none
  keepaliveIntervalSecs : UInt64 := 30
  keepaliveTimeoutSecs : UInt64 := 10
  keepaliveWhileIdle : Bool := true
  deriving Repr, DecidableEq, Inhabited

/-- What is logged, and how. -/
structure LoggingConfig where
  level : String := "info"
  json : Bool := false
  deriving Repr, DecidableEq, Inhabited

/-- The whole configuration. -/
structure Config where
  plugin : PluginConfig := {}
  logging : LoggingConfig := {}
  deriving Repr, DecidableEq, Inhabited

end JobHooks
