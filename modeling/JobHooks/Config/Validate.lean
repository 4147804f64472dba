import JobHooks.Config.Endpoint

/-!
# Validation

A configuration is valid if its endpoint names a socket and none of the times that must not be zero
is.  Of several faults the first in the order below is reported.
-/

namespace JobHooks

set_option autoImplicit false

namespace PluginConfig

/-- The times that must not be zero, in the order in which they are checked; a time that is not set
is none of them. -/
def positiveTimes (plugin : PluginConfig) : List (PositiveSetting × UInt64) :=
  [(.connectTimeout, plugin.connectTimeoutMs), (.reconnectBackoff, plugin.reconnectBackoffMs),
    (.idleInterval, plugin.idleIntervalMs)]
    ++ (plugin.rpcTimeoutMs.map fun time => (.rpcTimeout, time)).toList

/-- The first time that is zero and must not be. -/
def zeroTime? (plugin : PluginConfig) : Option PositiveSetting :=
  (plugin.positiveTimes.find? fun time => time.2 == 0).map (·.1)

end PluginConfig

namespace Config

/-- The first thing that is wrong with a configuration. -/
def fault? (config : Config) : Option ConfigError :=
  match config.plugin.socketPath with
  | .error fault => some fault
  | .ok _ => config.plugin.zeroTime?.map .zero

/-- A configuration, unless something is wrong with it. -/
def validate (config : Config) : Except ConfigError Config :=
  match config.fault? with
  | some fault => .error fault
  | none => .ok config

end Config

end JobHooks
