import JobHooks.Config.Basic
import JobHooks.Text.Integer
import JobHooks.Text.Utf8

/-!
# Configuration by the environment

Five settings have a variable each.  A variable counts only if its value is a text; a number or a
truth value also has to be written as one.  The one exception is the form of log lines: its
variable, with whatever text but `true`, turns JSON off.
-/

namespace JobHooks

set_option autoImplicit false

/-- The variables of a process: names, each with the bytes of its value. -/
abbrev Environment := List (String × Bytes)

namespace Environment

/-- The value of a variable, if it is set and a text. -/
def text? (environment : Environment) (name : String) : Option String :=
  (environment.lookup name).bind Text.decode?

/-- The number below `2 ^ 64` that a text is. -/
def number? (text : String) : Option UInt64 :=
  match Text.integer .word text with
  | .ok number => some (UInt64.ofNat number.toNat)
  | .error _ => none

/-- The number that a variable gives. -/
def number (environment : Environment) (name : String) : Option UInt64 :=
  (environment.text? name).bind number?

/-- The truth value that a variable gives: whether its text is `true`. -/
def truthValue (environment : Environment) (name : String) : Option Bool :=
  (environment.text? name).map (· == "true")

end Environment

/-- A configuration with the settings that the environment gives in place of its own. -/
def Config.withEnvironment (config : Config) (environment : Environment) : Config :=
  { plugin :=
      { config.plugin with
        endpoint := (environment.text? "HOOKRELAY_PLUGIN_ENDPOINT").getD config.plugin.endpoint
        connectTimeoutMs :=
          (environment.number "HOOKRELAY_CONNECT_TIMEOUT_MS").getD config.plugin.connectTimeoutMs
        rpcTimeoutMs :=
          (environment.number "HOOKRELAY_RPC_TIMEOUT_MS") <|> config.plugin.rpcTimeoutMs }
    logging :=
      { level := (environment.text? "HOOKRELAY_LOG_LEVEL").getD config.logging.level
        json := (environment.truthValue "HOOKRELAY_LOG_JSON").getD config.logging.json } }

/-- The configuration that the environment alone gives. -/
def Config.ofEnvironment (environment : Environment) : Config :=
  ({} : Config).withEnvironment environment

end JobHooks
