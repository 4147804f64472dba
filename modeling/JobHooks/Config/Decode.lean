import JobHooks.Config.Basic
import JobHooks.Text.Quoted
import JobHooks.Toml.Document

/-!
# Configurations in documents

The configuration that a document gives.  Each setting has a key and takes a value of one kind; a
key that is no setting is passed over, and a setting whose key is missing keeps its default.  The
entries are taken in their order, so that of several wrong values the first one is reported.

A section may also be a list, which gives the settings in the order of their fields: settings beyond
the end of the list keep their defaults, and surplus values are passed over.  A moment counts as a
section in which no setting occurs.
-/

namespace JobHooks

set_option autoImplicit false

open Toml (Item Span Table Scalar TableOf)

/-! ## Mismatches -/

/-- What a setting or a section takes. -/
inductive Expected where
  | text
  | number
  | truthValue
  | pluginSection
  | loggingSection
  deriving Repr, DecidableEq, Inhabited

/-- What is expected, in messages. -/
def Expected.name : Expected → String
  | text => "a string"
  | number => "u64"
  | truthValue => "a boolean"
  | pluginSection => "struct PluginConfig"
  | loggingSection => "struct LoggingConfig"

/-- What a value is, as far as messages tell it. -/
inductive Found where
  | scalar (value : Scalar)
  | list
  | table
  deriving Repr, DecidableEq, Inhabited

namespace Found

/-- What an item is. -/
def ofItem : Item → Found
  | .scalar _ value => scalar value
  | .list _ _ | .sections _ => list
  | .table _ => table

/-- What was found, in messages. -/
def name : Found → String
  | scalar (.text value) => "string " ++ Text.quoted value
  | scalar (.integer value) => "integer `" ++ toString value ++ "`"
  | scalar (.float value) => "floating point `" ++ value.text ++ "`"
  | scalar (.boolean value) => "boolean `" ++ (if value then "true" else "false") ++ "`"
  | scalar .moment => "map"
  | list => "sequence"
  | table => "map"

end Found

/-- Why a value does not suit its setting. -/
inductive Mismatch where
  | wrongKind (found : Found) (expected : Expected)
  | negative (value : Int)
  deriving Repr, DecidableEq, Inhabited

/-- The words for a mismatch. -/
def Mismatch.message : Mismatch → String
  | wrongKind found expected =>
    "invalid type: " ++ found.name ++ ", expected " ++ expected.name
  | negative value =>
    "invalid value: " ++ (Found.scalar (.integer value)).name ++ ", expected "
      ++ Expected.number.name

/-- A mismatch and its place in the document. -/
structure Complaint where
  span : Span
  mismatch : Mismatch
  deriving Repr, DecidableEq, Inhabited

/-! ## Values of settings -/

/-- A mismatch of kind. -/
def wrongKind {α : Type} (item : Item) (expected : Expected) : Except Mismatch α :=
  .error (.wrongKind (.ofItem item) expected)

/-- The text that an item is. -/
def readText : Item → Except Mismatch String
  | .scalar _ (.text value) => .ok value
  | item => wrongKind item .text

/-- The number that an item is; it must not be negative. -/
def readNumber : Item → Except Mismatch UInt64
  | .scalar _ (.integer value) =>
    if value < 0 then .error (.negative value) else .ok (UInt64.ofNat value.toNat)
  | item => wrongKind item .number

/-- The truth value that an item is. -/
def readTruthValue : Item → Except Mismatch Bool
  | .scalar _ (.boolean value) => .ok value
  | item => wrongKind item .truthValue

/-! ## Sections -/

/-- A setting of a section `γ`: its key, and how an item changes it.  A mismatch is placed at the
item, or at the given place if the item has none. -/
structure Setting (γ : Type) where
  key : String
  read : Span → Item → γ → Except Complaint γ

namespace Setting

/-- A setting that takes one value. -/
def ofValue {γ α : Type} (key : String) (readValue : Item → Except Mismatch α)
    (store : α → γ → γ) : Setting γ where
  key := key
  read := fun place item values =>
    match readValue item with
    | .ok value => .ok (store value values)
    | .error mismatch => .error ⟨item.span?.getD place, mismatch⟩

/-- Takes over the entries of a table. -/
def readTable {γ : Type} (settings : List (Setting γ)) (table : Table) (values : γ) :
    Except Complaint γ :=
  table.entries.foldlM (fun values entry =>
    match settings.find? fun setting => setting.key == entry.1.text with
    | some setting => setting.read entry.1.span entry.2 values
    | none => .ok values) values

/-- Takes over the items of a list, each for the setting at its position. -/
def readList {γ : Type} (settings : List (Setting γ)) (place : Span) (items : List Item)
    (values : γ) : Except Complaint γ :=
  (settings.zip items).foldlM (fun values found => found.1.read place found.2 values) values

/-- A setting that is a section of its own, read on top of its defaults. -/
def ofSection {γ δ : Type} (key : String) (expected : Expected) (settings : List (Setting δ))
    (defaults : δ) (store : δ → γ → γ) : Setting γ where
  key := key
  read := fun place item values => do
    let place := item.span?.getD place
    let inner ← (
      match item with
      | .table table => readTable settings table defaults
      | .list _ items => readList settings place items defaults
      | .sections tables => readList settings place (tables.map .table) defaults
      | .scalar _ .moment => .ok defaults
      | .scalar _ value => .error ⟨place, .wrongKind (.scalar value) expected⟩)
    return store inner values

end Setting

/-- The settings of the section on the plugin daemon, in the order of its fields. -/
def PluginConfig.settings : List (Setting PluginConfig) :=
  [ .ofValue "endpoint" readText fun value plugin => { plugin with endpoint := value },
    .ofValue "connect_timeout_ms" readNumber
      fun value plugin => { plugin with connectTimeoutMs := value },
    .ofValue "reconnect_backoff_ms" readNumber
      fun value plugin => { plugin with reconnectBackoffMs := value },
    .ofValue "idle_interval_ms" readNumber
      fun value plugin => { plugin with idleIntervalMs := value },
    .ofValue "rpc_timeout_ms" readNumber
      fun value plugin => { plugin with rpcTimeoutMs := some value },
    .ofValue "keepalive_interval_secs" readNumber
      fun value plugin => { plugin with keepaliveIntervalSecs := value },
    .ofValue "keepalive_timeout_secs" readNumber
      fun value plugin => { plugin with keepaliveTimeoutSecs := value },
    .ofValue "keepalive_while_idle" readTruthValue
      fun value plugin => { plugin with keepaliveWhileIdle := value } ]

/-- The settings of the section on logging, in the order of its fields. -/
def LoggingConfig.settings : List (Setting LoggingConfig) :=
  [ .ofValue "level" readText fun value logging => { logging with level := value },
    .ofValue "json" readTruthValue fun value logging => { logging with json := value } ]

/-- The sections of a configuration. -/
def Config.settings : List (Setting Config) :=
  [ .ofSection "plugin" .pluginSection PluginConfig.settings {}
      fun plugin config => { config with plugin },
    .ofSection "logging" .loggingSection LoggingConfig.settings {}
      fun logging config => { config with logging } ]

/-- The configuration that a table gives. -/
def Config.ofTable (table : Table) : Except Complaint Config :=
  Setting.readTable Config.settings table {}

end JobHooks
