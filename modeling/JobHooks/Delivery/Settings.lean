import JobHooks.Config.Basic

/-!
# Delivery settings

The times that govern the delivery worker, in milliseconds.
-/

namespace JobHooks

set_option autoImplicit false

/-- The times that govern the delivery worker, in milliseconds. -/
structure DeliverySettings where
  /-- How long a poll may wait for the daemon. -/
  connectTimeout : Nat := 3000
  /-- The pause while the daemon cannot be reached, and after a deferred batch. -/
  reconnectBackoff : Nat := 1000
  /-- The pause when nothing is waiting. -/
  idleInterval : Nat := 100
  /-- How long a call may take, if that is limited. -/
  rpcTimeout : Option Nat := none
  deriving Repr, DecidableEq, Inhabited

namespace DeliverySettings

/-- The settings that a configuration asks for. -/
def ofConfig (config : PluginConfig) : DeliverySettings where
  connectTimeout := config.connectTimeoutMs.toNat
  reconnectBackoff := config.reconnectBackoffMs.toNat
  idleInterval := config.idleIntervalMs.toNat
  rpcTimeout := config.rpcTimeoutMs.map UInt64.toNat

end DeliverySettings

end JobHooks
