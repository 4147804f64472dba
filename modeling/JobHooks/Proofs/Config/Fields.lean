import JobHooks.Config.Decode
import JobHooks.Proofs.Fallible
import JobHooks.Proofs.Toml.Keys

/-!
# The fields of sections

A section is read entry by entry, and each entry changes the section as the setting with its key
says.  If one key `Governs` what is seen of a section, then nothing is seen of the other entries:
since no key occurs twice, what is seen behind the last entry is what the entry with that key has
put there, or what was there before (`Setting.Governs.readTable`).

A `Layout` lists the fields of a section with the settings for them, so that each of them governs
its own field.  A `Layer` gives values for some of the fields.  It can be put onto a section, where
it takes precedence, and above another layer.  `Layout.readTable_eq` says that reading a section puts
the layer of its entries onto the values with which the reading began.
-/

namespace JobHooks

set_option autoImplicit false

open Toml (Item Span Table TableOf Key)

namespace Setting

variable {γ α : Type} {settings : List (Setting γ)} {key : String} {view : γ → α}
  {reads : Item → α → Prop}

/-! ## Governing keys -/

/-- What is seen of a section is up to one key: its setting shows what it has read, and no other
setting changes what is seen. -/
structure Governs (settings : List (Setting γ)) (key : String) (view : γ → α)
    (reads : Item → α → Prop) : Prop where
  known : ∃ setting ∈ settings, setting.key = key
  own : ∀ setting ∈ settings, setting.key = key → ∀ place item before after,
    setting.read place item before = .ok after → reads item (view after)
  others : ∀ setting ∈ settings, setting.key ≠ key → ∀ place item before after,
    setting.read place item before = .ok after → view after = view before

/-- One entry of a section is taken. -/
def readEntry (settings : List (Setting γ)) (values : γ) (entry : Key × Item) :
    Except Complaint γ :=
  match settings.find? fun setting => setting.key == entry.1.text with
  | some setting => setting.read entry.1.span entry.2 values
  | none => .ok values

theorem readTable_eq (table : Table) (values : γ) :
    readTable settings table values = table.entries.foldlM (readEntry settings) values := rfl

namespace Governs

variable {entry : Key × Item} {entries : List (Key × Item)} {values after result : γ}

theorem readEntry_own (governs : Governs settings key view reads) (own : entry.1.text = key)
    (read : readEntry settings values entry = .ok after) : reads entry.2 (view after) := by
  obtain ⟨setting, member, same⟩ := governs.known
  unfold readEntry at read
  cases found : settings.find? fun setting => setting.key == entry.1.text with
  | none =>
    have missing := List.find?_eq_none.mp found setting member
    exact absurd (same.trans own.symm) (by simpa using missing)
  | some first =>
    rw [found] at read
    have mine : first.key = entry.1.text := by simpa using List.find?_some found
    exact governs.own first (List.mem_of_find?_eq_some found) (mine.trans own) _ _ _ _ read

theorem readEntry_other (governs : Governs settings key view reads) (other : entry.1.text ≠ key)
    (read : readEntry settings values entry = .ok after) : view after = view values := by
  unfold readEntry at read
  split at read
  · next first found =>
    have its : first.key = entry.1.text := by simpa using List.find?_some found
    exact governs.others first (List.mem_of_find?_eq_some found) (its ▸ other) _ _ _ _ read
  · cases read
    rfl

/-- Entries with other keys leave what is seen as it is. -/
theorem foldlM_others (governs : Governs settings key view reads)
    (others : ∀ entry ∈ entries, entry.1.text ≠ key)
    (read : entries.foldlM (readEntry settings) values = .ok result) :
    view result = view values := by
  induction entries generalizing values with
  | nil =>
    cases read
    rfl
  | cons entry entries ih =>
    obtain ⟨other, later⟩ := List.forall_mem_cons.mp others
    obtain ⟨after, step, rest⟩ := exists_of_bind_ok read
    exact (ih later rest).trans (governs.readEntry_other other step)

/-- **What is seen of a section that was read** is what the entry with the key has shown, if there
is one, and otherwise what was seen before. -/
theorem readTable (governs : Governs settings key view reads) {table : Table}
    (distinct : table.keys.Nodup) (read : Setting.readTable settings table values = .ok result) :
    (∀ item, table.get? key = some item → reads item (view result))
      ∧ (table.get? key = none → view result = view values) := by
  rw [readTable_eq] at read
  constructor
  · intro item found
    obtain ⟨name, rfl, member⟩ := TableOf.mem_of_get? found
    obtain ⟨before, behind, whole⟩ := List.append_of_mem member
    rw [whole, List.foldlM_append] at read
    obtain ⟨between, -, read⟩ := exists_of_bind_ok read
    obtain ⟨after, step, read⟩ := exists_of_bind_ok read
    -- the key does not occur again behind its entry
    have later : ∀ entry ∈ behind, entry.1.text ≠ name.text := by
      intro entry member same
      rw [TableOf.keys, whole, List.map_append, List.map_cons] at distinct
      have apart := (List.nodup_cons.mp (List.nodup_append.mp distinct).2.1).1
      exact apart (same ▸ List.mem_map_of_mem member)
    rw [governs.foldlM_others later read]
    exact governs.readEntry_own rfl step
  · intro missing
    refine governs.foldlM_others (fun entry member same => ?_) read
    exact TableOf.get?_eq_none_iff.mp missing (same ▸ List.mem_map_of_mem member)

end Governs

/-- Whatever a setting that takes one value has read, it has stored. -/
theorem exists_of_read_ofValue {store : α → γ → γ} {readValue : Item → Except Mismatch α}
    {place : Span} {item : Item} {before after : γ}
    (read : (ofValue key readValue store).read place item before = .ok after) :
    ∃ value, readValue item = .ok value ∧ after = store value before := by
  simp only [ofValue] at read
  split at read
  · next value found =>
    cases read
    exact ⟨value, found, rfl⟩
  · cases read

/-- A setting that is a section has stored what it has read of a table on top of its defaults. -/
theorem exists_of_read_ofSection {δ : Type} {expected : Expected} {inside : List (Setting δ)}
    {defaults : δ} {store : δ → γ → γ} {place : Span} {item : Item} {before after : γ}
    (read : (ofSection key expected inside defaults store).read place item before = .ok after) :
    ∃ shown, after = store shown before
      ∧ ∀ table, item = .table table → Setting.readTable inside table defaults = .ok shown := by
  obtain ⟨shown, taken, stored⟩ := exists_of_bind_ok read
  cases stored
  refine ⟨shown, rfl, ?_⟩
  rintro table rfl
  exact taken

end Setting

/-! ## Fields -/

/-- The fields of a section: under which key the value of each stands, how it is read and stored,
and how it is seen in a section, where it may be unset.  A field is seen as it was stored last, and a
section is what its fields show. -/
structure Layout (γ : Type) where
  Field : Type
  Value : Field → Type
  all : List Field
  key : Field → String
  read : (field : Field) → Item → Except Mismatch (Value field)
  store : (field : Field) → Value field → γ → γ
  view : (field : Field) → γ → Option (Value field)
  mem_all : ∀ field, field ∈ all
  key_injective : ∀ field other, key field = key other → field = other
  view_store : ∀ field value values, view field (store field value values) = some value
  view_store_of_ne : ∀ field other value values, field ≠ other →
    view field (store other value values) = view field values
  ext : ∀ first second, (∀ field, view field first = view field second) → first = second

namespace Layout

variable {γ : Type} (layout : Layout γ)

/-- The settings for the fields. -/
def settings : List (Setting γ) :=
  layout.all.map fun field => .ofValue (layout.key field) (layout.read field) (layout.store field)

/-- **Each field is up to its own key.** -/
theorem governs (field : layout.Field) :
    Setting.Governs layout.settings (layout.key field) (layout.view field)
      fun item shown => ∃ value, layout.read field item = .ok value ∧ shown = some value := by
  refine ⟨⟨_, List.mem_map_of_mem (layout.mem_all field), rfl⟩, ?_, ?_⟩
  · intro setting member own place item before after read
    obtain ⟨other, -, rfl⟩ := List.mem_map.mp member
    obtain rfl := layout.key_injective other field own
    obtain ⟨value, found, rfl⟩ := Setting.exists_of_read_ofValue read
    exact ⟨value, found, layout.view_store other value before⟩
  · intro setting member apart place item before after read
    obtain ⟨other, -, rfl⟩ := List.mem_map.mp member
    obtain ⟨value, -, rfl⟩ := Setting.exists_of_read_ofValue read
    refine layout.view_store_of_ne field other value before ?_
    rintro rfl
    exact apart rfl

/-! ## Layers -/

/-- Values for some of the fields. -/
def Layer : Type := (field : layout.Field) → Option (layout.Value field)

variable {layout}

namespace Layer

/-- No values. -/
def empty : layout.Layer := fun _ => none

/-- A layer above another one, which has a say only where the upper one has no value. -/
def above (upper lower : layout.Layer) : layout.Layer := fun field => upper field <|> lower field

/-- The values of a section with that of a layer in one field. -/
def put (layer : layout.Layer) (values : γ) (field : layout.Field) : γ :=
  match layer field with
  | some value => layout.store field value values
  | none => values

/-- The values of a section with those of a layer in place of its own. -/
def onto (layer : layout.Layer) (values : γ) : γ := layout.all.foldl layer.put values

/-- The values in the entries of a table. -/
def ofTable (layout : Layout γ) (table : Table) : layout.Layer := fun field =>
  (table.get? (layout.key field)).bind fun item => (layout.read field item).toOption

variable {layer upper lower : layout.Layer} {values : γ} {field other : layout.Field}

theorem view_put : layout.view field (layer.put values field)
    = (layer field <|> layout.view field values) := by
  unfold put
  cases layer field with
  | some value => exact layout.view_store field value values
  | none => rfl

theorem view_put_of_ne (apart : field ≠ other) :
    layout.view field (layer.put values other) = layout.view field values := by
  unfold put
  cases layer other with
  | some value => exact layout.view_store_of_ne field other value values apart
  | none => rfl

theorem view_foldl_put (layer : layout.Layer) (field : layout.Field)
    (fields : List layout.Field) (values : γ) :
    (field ∈ fields → layout.view field (fields.foldl layer.put values)
        = (layer field <|> layout.view field values))
      ∧ (field ∉ fields →
        layout.view field (fields.foldl layer.put values) = layout.view field values) := by
  induction fields generalizing values with
  | nil => exact ⟨fun member => absurd member List.not_mem_nil, fun _ => rfl⟩
  | cons other fields ih =>
    obtain ⟨inside, outside⟩ := ih (layer.put values other)
    rw [List.foldl_cons]
    by_cases same : field = other
    · obtain rfl := same
      refine ⟨fun _ => ?_, fun apart => absurd List.mem_cons_self apart⟩
      by_cases again : field ∈ fields
      · rw [inside again, view_put]
        cases layer field <;> rfl
      · rw [outside again, view_put]
    · rw [view_put_of_ne same] at inside outside
      refine ⟨fun member => inside ?_, fun apart => outside ?_⟩
      · exact (List.mem_cons.mp member).resolve_left same
      · exact fun member => apart (List.mem_cons_of_mem _ member)

/-- **A layer shows where it has a value**, and what is below it shows elsewhere. -/
theorem view_onto (layer : layout.Layer) (values : γ) (field : layout.Field) :
    layout.view field (layer.onto values) = (layer field <|> layout.view field values) :=
  (view_foldl_put layer field layout.all values).1 (layout.mem_all field)

theorem onto_onto (upper lower : layout.Layer) (values : γ) :
    upper.onto (lower.onto values) = (upper.above lower).onto values := by
  apply layout.ext
  intro field
  simp only [view_onto, above]
  cases upper field <;> rfl

theorem onto_empty (values : γ) : (empty : layout.Layer).onto values = values := by
  apply layout.ext
  intro field
  rw [view_onto]
  rfl

end Layer

/-- **Reading a section puts its entries onto the values with which the reading began.** -/
theorem readTable_eq {table : Table} {values result : γ} (distinct : table.keys.Nodup)
    (read : Setting.readTable layout.settings table values = .ok result) :
    result = (Layer.ofTable layout table).onto values := by
  apply layout.ext
  intro field
  obtain ⟨present, absent⟩ := (layout.governs field).readTable distinct read
  rw [Layer.view_onto, Layer.ofTable]
  cases found : table.get? (layout.key field) with
  | none => exact absent found
  | some item =>
    obtain ⟨value, taken, shown⟩ := present item found
    rw [shown, Option.bind_some, taken]
    rfl

end Layout

/-! ## The sections of a configuration -/

/-- The fields of the section on the plugin daemon. -/
inductive PluginField where
  | endpoint
  | connectTimeout
  | reconnectBackoff
  | idleInterval
  | rpcTimeout
  | keepaliveInterval
  | keepaliveTimeout
  | keepaliveWhileIdle
  deriving Repr, DecidableEq, Inhabited

namespace PluginField

/-- What a field takes. -/
def Value : PluginField → Type
  | endpoint => String
  | connectTimeout | reconnectBackoff | idleInterval | rpcTimeout => UInt64
  | keepaliveInterval | keepaliveTimeout => UInt64
  | keepaliveWhileIdle => Bool

/-- The fields in their order. -/
def all : List PluginField :=
  [endpoint, connectTimeout, reconnectBackoff, idleInterval, rpcTimeout, keepaliveInterval,
    keepaliveTimeout, keepaliveWhileIdle]

/-- The key of a field. -/
def key : PluginField → String
  | endpoint => "endpoint"
  | connectTimeout => "connect_timeout_ms"
  | reconnectBackoff => "reconnect_backoff_ms"
  | idleInterval => "idle_interval_ms"
  | rpcTimeout => "rpc_timeout_ms"
  | keepaliveInterval => "keepalive_interval_secs"
  | keepaliveTimeout => "keepalive_timeout_secs"
  | keepaliveWhileIdle => "keepalive_while_idle"

/-- Reads a value for a field. -/
def read : (field : PluginField) → Item → Except Mismatch field.Value
  | endpoint => readText
  | connectTimeout | reconnectBackoff | idleInterval | rpcTimeout => readNumber
  | keepaliveInterval | keepaliveTimeout => readNumber
  | keepaliveWhileIdle => readTruthValue

/-- A section with a value in a field. -/
def store : (field : PluginField) → field.Value → PluginConfig → PluginConfig
  | endpoint, value, plugin => { plugin with endpoint := value }
  | connectTimeout, value, plugin => { plugin with connectTimeoutMs := value }
  | reconnectBackoff, value, plugin => { plugin with reconnectBackoffMs := value }
  | idleInterval, value, plugin => { plugin with idleIntervalMs := value }
  | rpcTimeout, value, plugin => { plugin with rpcTimeoutMs := some value }
  | keepaliveInterval, value, plugin => { plugin with keepaliveIntervalSecs := value }
  | keepaliveTimeout, value, plugin => { plugin with keepaliveTimeoutSecs := value }
  | keepaliveWhileIdle, value, plugin => { plugin with keepaliveWhileIdle := value }

/-- The value in a field of a section; only the limit on calls may be unset. -/
def view : (field : PluginField) → PluginConfig → Option field.Value
  | endpoint, plugin => some plugin.endpoint
  | connectTimeout, plugin => some plugin.connectTimeoutMs
  | reconnectBackoff, plugin => some plugin.reconnectBackoffMs
  | idleInterval, plugin => some plugin.idleIntervalMs
  | rpcTimeout, plugin => plugin.rpcTimeoutMs
  | keepaliveInterval, plugin => some plugin.keepaliveIntervalSecs
  | keepaliveTimeout, plugin => some plugin.keepaliveTimeoutSecs
  | keepaliveWhileIdle, plugin => some plugin.keepaliveWhileIdle

end PluginField

/-- The section on the plugin daemon. -/
def PluginConfig.layout : Layout PluginConfig where
  Field := PluginField
  Value := PluginField.Value
  all := PluginField.all
  key := PluginField.key
  read := PluginField.read
  store := PluginField.store
  view := PluginField.view
  mem_all := by
    intro field
    cases field <;> decide
  key_injective := by
    intro field other same
    cases field <;> cases other <;> first | rfl | exact absurd same (by decide)
  view_store := by
    intro field value values
    cases field <;> rfl
  view_store_of_ne := by
    intro field other value values apart
    cases field <;> cases other <;> first | rfl | exact absurd rfl apart
  ext := by
    rintro ⟨⟩ ⟨⟩ same
    simp only [PluginConfig.mk.injEq]
    exact ⟨Option.some.inj (same .endpoint), Option.some.inj (same .connectTimeout),
      Option.some.inj (same .reconnectBackoff), Option.some.inj (same .idleInterval),
      same .rpcTimeout, Option.some.inj (same .keepaliveInterval),
      Option.some.inj (same .keepaliveTimeout), Option.some.inj (same .keepaliveWhileIdle)⟩

/-- The fields are those that have settings. -/
theorem PluginConfig.settings_eq : PluginConfig.settings = PluginConfig.layout.settings := rfl

/-- The fields of the section on logging. -/
inductive LoggingField where
  | level
  | json
  deriving Repr, DecidableEq, Inhabited

namespace LoggingField

/-- What a field takes. -/
def Value : LoggingField → Type
  | level => String
  | json => Bool

/-- The key of a field. -/
def key : LoggingField → String
  | level => "level"
  | json => "json"

/-- Reads a value for a field. -/
def read : (field : LoggingField) → Item → Except Mismatch field.Value
  | level => readText
  | json => readTruthValue

/-- A section with a value in a field. -/
def store : (field : LoggingField) → field.Value → LoggingConfig → LoggingConfig
  | level, value, logging => { logging with level := value }
  | json, value, logging => { logging with json := value }

/-- The value in a field of a section. -/
def view : (field : LoggingField) → LoggingConfig → Option field.Value
  | level, logging => some logging.level
  | json, logging => some logging.json

end LoggingField

/-- The section on logging. -/
def LoggingConfig.layout : Layout LoggingConfig where
  Field := LoggingField
  Value := LoggingField.Value
  all := [.level, .json]
  key := LoggingField.key
  read := LoggingField.read
  store := LoggingField.store
  view := LoggingField.view
  mem_all := by
    intro field
    cases field <;> decide
  key_injective := by
    intro field other same
    cases field <;> cases other <;> first | rfl | exact absurd same (by decide)
  view_store := by
    intro field value values
    cases field <;> rfl
  view_store_of_ne := by
    intro field other value values apart
    cases field <;> cases other <;> first | rfl | exact absurd rfl apart
  ext := by
    rintro ⟨⟩ ⟨⟩ same
    simp only [LoggingConfig.mk.injEq]
    exact ⟨Option.some.inj (same .level), Option.some.inj (same .json)⟩

/-- The fields are those that have settings. -/
theorem LoggingConfig.settings_eq : LoggingConfig.settings = LoggingConfig.layout.settings := rfl

end JobHooks
