import JobHooks.Config.Load
import JobHooks.Proofs.Config.Fields
import JobHooks.Proofs.Config.Validity
import JobHooks.Proofs.Wire.Numerals

/-!
# The layers of a configuration

A file and the environment each give values for some of the fields: an `Overlay`.  What is loaded is
the overlay of the environment above that of the file, on top of the defaults, and only this is
validated.  `Config.load_layers` draws out what follows for a file that is not named, not there, or
a document whose sections are tables: whether loading succeeds is up to the values that show, so a
value in the file does not matter where the environment has one for the same field.
-/

namespace JobHooks

set_option autoImplicit false

open Toml (Item Table Document)

namespace Config

/-! ## Overlays -/

/-- Values for some of the fields of a configuration. -/
structure Overlay where
  plugin : PluginConfig.layout.Layer
  logging : LoggingConfig.layout.Layer

namespace Overlay

/-- No values. -/
def empty : Overlay := ⟨.empty, .empty⟩

/-- An overlay above another one. -/
def above (upper lower : Overlay) : Overlay :=
  ⟨upper.plugin.above lower.plugin, upper.logging.above lower.logging⟩

/-- A configuration with the values of an overlay in place of its own. -/
def onto (overlay : Overlay) (config : Config) : Config :=
  { plugin := overlay.plugin.onto config.plugin, logging := overlay.logging.onto config.logging }

/-- The defaults with the values of an overlay in place of them. -/
def config (overlay : Overlay) : Config := overlay.onto {}

/-- The values that the environment gives.  Each of five fields has a variable; it must be set to a
text, and to one that stands for a value of the field. -/
def ofEnvironment (environment : Environment) : Overlay where
  plugin := fun
    | .endpoint => environment.text? "HOOKRELAY_PLUGIN_ENDPOINT"
    | .connectTimeout => environment.number "HOOKRELAY_CONNECT_TIMEOUT_MS"
    | .rpcTimeout => environment.number "HOOKRELAY_RPC_TIMEOUT_MS"
    | .reconnectBackoff | .idleInterval | .keepaliveInterval | .keepaliveTimeout => none
    | .keepaliveWhileIdle => none
  logging := fun
    | .level => environment.text? "HOOKRELAY_LOG_LEVEL"
    | .json =>
      (environment.text? "HOOKRELAY_LOG_JSON").bind fun text =>
        if text = "true" then some true else if text = "false" then some false else none

/-- The values in a section of a document. -/
def ofSection {γ : Type} (layout : Layout γ) (document : Table) (key : String) : layout.Layer :=
  match document.get? key with
  | some (.table inner) => .ofTable layout inner
  | _ => .empty

/-- The values in a document. -/
def ofDocument (document : Table) : Overlay :=
  ⟨ofSection PluginConfig.layout document "plugin",
    ofSection LoggingConfig.layout document "logging"⟩

theorem onto_onto (upper lower : Overlay) (config : Config) :
    upper.onto (lower.onto config) = (upper.above lower).onto config := by
  simp only [onto, above, Layout.Layer.onto_onto]

theorem config_empty : empty.config = {} := by
  simp only [config, onto, empty, Layout.Layer.onto_empty]

end Overlay

/-! ## What the environment gives -/

/-- The variable for the form of log lines is not set to a text, or to one of the two that are
meant. -/
def ClearJson (environment : Environment) : Prop :=
  ∀ text, environment.text? "HOOKRELAY_LOG_JSON" = some text → text = "true" ∨ text = "false"

theorem some_getD {α : Type} (value? : Option α) (default : α) :
    some (value?.getD default) = (value? <|> some default) := by
  cases value? <;> rfl

/-- **The environment is put onto a configuration.** -/
theorem withEnvironment_eq {environment : Environment} (clear : ClearJson environment)
    (config : Config) :
    config.withEnvironment environment = (Overlay.ofEnvironment environment).onto config := by
  simp only [Overlay.onto, withEnvironment, Config.mk.injEq]
  constructor
  · apply PluginConfig.layout.ext
    intro field
    rw [Layout.Layer.view_onto]
    cases field with
    | endpoint | connectTimeout => exact some_getD _ _
    | rpcTimeout => rfl
    | _ => rfl
  · apply LoggingConfig.layout.ext
    intro field
    rw [Layout.Layer.view_onto]
    cases field with
    | level => exact some_getD _ _
    | json =>
      refine (some_getD _ _).trans (congrArg (· <|> some config.logging.json) ?_)
      simp only [Environment.truthValue, Overlay.ofEnvironment]
      cases text : environment.text? "HOOKRELAY_LOG_JSON" with
      | none => rfl
      | some value => rcases clear value text with rfl | rfl <;> rfl

/-! ## What a file gives -/

/-- Under a key of a document stands a table, if anything does. -/
def SectionAt (document : Table) (key : String) : Prop :=
  ∀ item, document.get? key = some item → ∃ inner, item = .table inner

/-- What a file gives for a configuration: nothing if it is not named or not there, and the values
in it if it is a document that is accepted and whose sections are tables. -/
inductive Gives : Option NamedFile → Overlay → Prop
  | unnamed : Gives none .empty
  | missing (path : String) : Gives (some ⟨path, .missing⟩) .empty
  | document (path : String) {content : Bytes} {text : String} {document : Table}
    {config : Config} (decoded : Text.decode? content = some text)
    (read : Document.read text = some document) (accepted : parse text = .ok config)
    (plugin : SectionAt document "plugin") (logging : SectionAt document "logging") :
    Gives (some ⟨path, .regular content⟩) (.ofDocument document)

/-- What a setting that is a section shows when a table stands under its key. -/
def ReadsSection {γ : Type} (layout : Layout γ) (defaults : γ) (item : Item) (shown : γ) : Prop :=
  ∀ inner, item = .table inner →
    Setting.readTable layout.settings inner defaults = .ok shown

theorem governs_plugin :
    Setting.Governs settings "plugin" Config.plugin (ReadsSection PluginConfig.layout {}) := by
  refine ⟨⟨_, List.mem_cons_self, rfl⟩, ?_, ?_⟩ <;>
    intro setting member same place item before after read <;>
    simp only [settings, List.mem_cons, List.not_mem_nil, or_false] at member
  · rcases member with rfl | rfl
    · obtain ⟨shown, rfl, taken⟩ := Setting.exists_of_read_ofSection read
      rw [ReadsSection, ← PluginConfig.settings_eq]
      exact taken
    · exact absurd same (by decide)
  · rcases member with rfl | rfl
    · exact absurd rfl same
    · obtain ⟨shown, rfl, -⟩ := Setting.exists_of_read_ofSection read
      rfl

theorem governs_logging :
    Setting.Governs settings "logging" Config.logging (ReadsSection LoggingConfig.layout {}) := by
  refine ⟨⟨_, List.mem_cons_of_mem _ List.mem_cons_self, rfl⟩, ?_, ?_⟩ <;>
    intro setting member same place item before after read <;>
    simp only [settings, List.mem_cons, List.not_mem_nil, or_false] at member
  · rcases member with rfl | rfl
    · exact absurd same (by decide)
    · obtain ⟨shown, rfl, taken⟩ := Setting.exists_of_read_ofSection read
      rw [ReadsSection, ← LoggingConfig.settings_eq]
      exact taken
  · rcases member with rfl | rfl
    · obtain ⟨shown, rfl, -⟩ := Setting.exists_of_read_ofSection read
      rfl
    · exact absurd rfl same

section

variable {document : Table} {config : Config} {file : Option NamedFile} {overlay : Overlay}

/-- A section of a configuration is what the table in the document puts onto its defaults. -/
theorem section_eq {γ : Type} {layout : Layout γ} {key : String} {view : Config → γ}
    (governs : Setting.Governs settings key view (ReadsSection layout (view {})))
    (distinct : document.Distinct) (table : SectionAt document key)
    (read : ofTable document = .ok config) :
    view config = (Overlay.ofSection layout document key).onto (view {}) := by
  obtain ⟨present, absent⟩ := governs.readTable distinct.keys read
  unfold Overlay.ofSection
  cases found : document.get? key with
  | none =>
    rw [absent found]
    exact (Layout.Layer.onto_empty _).symm
  | some item =>
    obtain ⟨inner, rfl⟩ := table item found
    have apart : Table.Distinct inner := Toml.Item.distinct_table_iff.mp (distinct.get? found)
    exact Layout.readTable_eq apart.keys (present _ found inner rfl)

theorem ofTable_eq (distinct : document.Distinct) (plugin : SectionAt document "plugin")
    (logging : SectionAt document "logging") (read : ofTable document = .ok config) :
    config = (Overlay.ofDocument document).config := by
  obtain ⟨_, _⟩ := config
  simp only [Overlay.config, Overlay.onto, Overlay.ofDocument, Config.mk.injEq]
  exact ⟨section_eq governs_plugin distinct plugin read,
    section_eq governs_logging distinct logging read⟩

/-- **Below the environment there is what the file gives**, on top of the defaults. -/
theorem base_of_gives (gives : Gives file overlay) : base file = .ok overlay.config := by
  cases gives with
  | unnamed => exact congrArg Except.ok Overlay.config_empty.symm
  | missing path => exact congrArg Except.ok Overlay.config_empty.symm
  | @document path content text document config decoded read accepted plugin logging =>
    have taken : ofTable document = .ok config := by
      rw [parse, read] at accepted
      simp only at accepted
      split at accepted
      · next table taken =>
        cases accepted
        exact taken
      · cases accepted
    rw [base, ofFile, FileState.text, decoded]
    · refine accepted.trans (congrArg Except.ok ?_)
      exact ofTable_eq (Document.distinct_of_read read) plugin logging taken
    · rintro ⟨⟩

/-- **What is loaded is what the environment gives above what the file gives**, if it is valid. -/
theorem load_of_gives {environment : Environment} (gives : Gives file overlay)
    (clear : ClearJson environment) :
    load file environment
      = ((Overlay.ofEnvironment environment).above overlay).config.validate := by
  rw [load, base_of_gives gives]
  change (overlay.config.withEnvironment environment).validate = _
  rw [withEnvironment_eq clear, Overlay.config, Overlay.onto_onto]
  rfl

end

end Config

/-! ## Values that do -/

/-- Whether a value does for a field. -/
def PluginField.Admits : (field : PluginField) → field.Value → Prop
  | endpoint, text => ∃ path, Endpoint.socketPath text = .ok path
  | connectTimeout, time | reconnectBackoff, time | idleInterval, time | rpcTimeout, time =>
    time ≠ (0 : UInt64)
  | keepaliveInterval, _ | keepaliveTimeout, _ | keepaliveWhileIdle, _ => True

/-- **A section is sound if every value in it does for its field.** -/
theorem PluginConfig.sound_iff {plugin : PluginConfig} :
    plugin.Sound ↔ ∀ field value, PluginField.view field plugin = some value →
      field.Admits value := by
  constructor
  · rintro sound field value shown
    cases field with
    | endpoint =>
      cases shown
      exact sound.socket
    | connectTimeout =>
      cases shown
      exact sound.positive (.connectTimeout, _) (by simp [positiveTimes])
    | reconnectBackoff =>
      cases shown
      exact sound.positive (.reconnectBackoff, _) (by simp [positiveTimes])
    | idleInterval =>
      cases shown
      exact sound.positive (.idleInterval, _) (by simp [positiveTimes])
    | rpcTimeout => exact sound.rpcTimeout_ne_zero shown
    | keepaliveInterval | keepaliveTimeout | keepaliveWhileIdle => trivial
  · intro each
    refine ⟨each .endpoint _ rfl, fun time member => ?_⟩
    simp only [positiveTimes, List.mem_append, List.mem_cons, List.not_mem_nil, or_false,
      Option.mem_toList, Option.map_eq_some_iff] at member
    rcases member with (rfl | rfl | rfl) | ⟨time, set, rfl⟩
    · exact each .connectTimeout _ rfl
    · exact each .reconnectBackoff _ rfl
    · exact each .idleInterval _ rfl
    · exact each .rpcTimeout _ set

namespace Config

/-- The defaults do, so the values of an overlay decide whether it is sound. -/
theorem Overlay.sound_config_iff {overlay : Overlay} :
    overlay.config.plugin.Sound ↔ ∀ (field : PluginField) value,
      overlay.plugin field = some value → field.Admits value := by
  rw [PluginConfig.sound_iff]
  have shown : ∀ field, PluginField.view field overlay.config.plugin
      = (overlay.plugin field <|> PluginConfig.layout.view field {}) :=
    fun field => Layout.Layer.view_onto overlay.plugin {} field
  constructor
  · intro each field value set
    apply each field value
    rw [shown, set]
    rfl
  · intro each field value set
    rw [shown] at set
    cases given : overlay.plugin field with
    | none =>
      rw [given] at set
      exact PluginConfig.sound_iff.mp PluginConfig.sound_default field value set
    | some other =>
      rw [given] at set
      cases set
      exact each field value given

/-- What is below an overlay does not matter where the overlay has a value. -/
theorem Overlay.above_congr {upper lower other : Overlay}
    (plugin : ∀ field, upper.plugin field = none → other.plugin field = lower.plugin field)
    (logging : ∀ field, upper.logging field = none → other.logging field = lower.logging field) :
    upper.above other = upper.above lower := by
  have hidden : ∀ {γ : Type} {layout : Layout γ} {upper lower other : layout.Layer},
      (∀ field, upper field = none → other field = lower field) →
        upper.above other = upper.above lower := by
    intro γ layout upper lower other same
    funext field
    unfold Layout.Layer.above
    cases given : upper field with
    | none => exact same field given
    | some value => rfl
  rw [above, hidden plugin, hidden logging]
  rfl

theorem exists_validate_iff {config : Config} :
    (∃ other, config.validate = .ok other) ↔ config.plugin.Sound := by
  constructor
  · rintro ⟨other, valid⟩
    exact (validate_eq_ok_iff.mp valid).2
  · intro sound
    exact ⟨config, validate_of_sound sound⟩

/-- **What is loaded shows the environment above the file above the defaults, field by field.**  It
is validated as a whole, and only then:
* loading succeeds exactly if each value that shows does for its field, where the environment comes
  before the file;
* a value in the environment that does not do ends the loading;
* the values of the file do not matter where the environment has values of its own;
* what is loaded is valid;
* a file that is not there is as good as none, and without one the environment is validated alone.
-/
theorem load_layers {file : Option NamedFile} {overlay : Overlay} {environment : Environment}
    (gives : Gives file overlay) (clear : ClearJson environment) :
    let given := Overlay.ofEnvironment environment
    let merged := (given.above overlay).config
    load file environment = merged.validate
      ∧ (∀ field, PluginConfig.layout.view field merged.plugin
        = (given.plugin field <|> overlay.plugin field <|> PluginConfig.layout.view field {}))
      ∧ (∀ field, LoggingConfig.layout.view field merged.logging
        = (given.logging field <|> overlay.logging field <|> LoggingConfig.layout.view field {}))
      ∧ ((∃ config, load file environment = .ok config)
        ↔ ∀ (field : PluginField) value,
          (given.plugin field <|> overlay.plugin field) = some value → field.Admits value)
      ∧ (∀ (field : PluginField) value, given.plugin field = some value → ¬ field.Admits value →
        ∃ fault, load file environment = .error fault)
      ∧ (∀ other below, Gives other below →
        (∀ field, given.plugin field = none → below.plugin field = overlay.plugin field) →
        (∀ field, given.logging field = none → below.logging field = overlay.logging field) →
        load other environment = load file environment)
      ∧ (∀ config, load file environment = .ok config →
        config = merged ∧ config.validate = .ok config)
      ∧ load none environment = (ofEnvironment environment).validate
      ∧ ∀ path, load (some ⟨path, .missing⟩) environment
        = (ofEnvironment environment).validate := by
  intro given merged
  have loaded : load file environment = merged.validate := load_of_gives gives clear
  have succeeds : (∃ config, load file environment = .ok config)
      ↔ ∀ (field : PluginField) value,
        (given.plugin field <|> overlay.plugin field) = some value → field.Admits value := by
    rw [loaded, exists_validate_iff]
    exact Overlay.sound_config_iff
  refine ⟨loaded, fun field => ?_, fun field => ?_, succeeds, ?_, ?_, ?_, rfl, fun _ => rfl⟩
  · refine (Layout.Layer.view_onto (given.plugin.above overlay.plugin) {} field).trans ?_
    unfold Layout.Layer.above
    cases given.plugin field <;> rfl
  · refine (Layout.Layer.view_onto (given.logging.above overlay.logging) {} field).trans ?_
    unfold Layout.Layer.above
    cases given.logging field <;> rfl
  · intro field value set refused
    cases result : load file environment with
    | error fault => exact ⟨fault, rfl⟩
    | ok config =>
      refine absurd (succeeds.mp ⟨config, result⟩ field value ?_) refused
      rw [set]
      rfl
  · intro other below gives' plugin logging
    rw [load_of_gives gives' clear, Overlay.above_congr plugin logging]
    exact loaded.symm
  · intro config result
    rw [loaded] at result
    obtain ⟨rfl, sound⟩ := validate_eq_ok_iff.mp result
    exact ⟨rfl, validate_of_sound sound⟩

/-- A document with a time that must not be zero. -/
def zeroDocument : Table :=
  { form := .headed
    span? := none
    entries :=
      [(⟨"plugin", 31, 25⟩,
        .table
          { form := .headed
            span? := some ⟨32, 1⟩
            entries := [(⟨"connect_timeout_ms", 23, 5⟩, .scalar ⟨2, 1⟩ (.integer 0))] })] }

/-- A time of zero in a file ends the loading, unless the environment has another one. -/
theorem load_layers_zero :
    let text := "[plugin]\nconnect_timeout_ms = 0\n"
    let file : Option NamedFile := some ⟨"c.toml", .regular (Text.encode text)⟩
    let environment : Environment := [("HOOKRELAY_CONNECT_TIMEOUT_MS", Text.encode "5")]
    Gives file (.ofDocument zeroDocument) ∧ ClearJson environment ∧ ClearJson []
      ∧ (∃ config, load file environment = .ok config)
      ∧ ¬ ∃ config, load file [] = .ok config := by
  intro text file environment
  have read : Document.read text = some zeroDocument := by
    rw [Document.read, show text.toList = _ from String.toList_ofList]
    with_unfolding_all rfl
  have accepted : parse text = .ok { plugin := { connectTimeoutMs := 0 } } := by
    rw [parse, read]
    rfl
  have gives : Gives file (.ofDocument zeroDocument) := by
    refine .document "c.toml" (Text.decode?_encode text) read accepted ?_ ?_
    · intro item found
      cases found
      exact ⟨_, rfl⟩
    · intro item found
      cases found
  have clear : ClearJson environment := by
    intro value set
    cases set
  have unset : ClearJson [] := by
    intro value set
    cases set
  obtain ⟨-, -, -, overridden, -⟩ := load_layers gives clear
  obtain ⟨-, -, -, bare, -⟩ := load_layers gives unset
  refine ⟨gives, clear, unset, overridden.mpr fun field value shown => ?_, fun loaded => ?_⟩
  · cases field with
    | connectTimeout =>
      obtain rfl : (5 : UInt64) = value := Option.some.inj shown
      exact (by decide : (5 : UInt64) ≠ 0)
    | keepaliveInterval | keepaliveTimeout | keepaliveWhileIdle => trivial
    | _ => cases shown
  · exact bare.mp loaded .connectTimeout (0 : UInt64) rfl rfl

end Config

end JobHooks
