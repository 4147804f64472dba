import JobHooks.Proofs.Config.Layers

/-!
# The keys that matter in a document

A configuration has ten known keys in two sections.  `Config.parse_of_known_keys` says that nothing
else in a document matters: two documents that hold the same under each known key give the same
configuration, or none, in whatever order and form their keys are written and whatever else they
hold.  A document gives one exactly if each value under a known key is of the kind that its field
takes.

That a value suits its setting does not depend on what was read before, so a table is read exactly
if each of its entries suits (`Setting.exists_readTable_iff`).
-/

namespace JobHooks

set_option autoImplicit false

open Toml (Item Scalar Span Table TableOf Key Document)

/-! ## Tables that are read -/

/-- A key that occurs once leads to its item. -/
theorem Toml.TableOf.get?_of_mem {ι : Type} {table : TableOf ι} {key : Key} {item : ι}
    (distinct : table.keys.Nodup) (member : (key, item) ∈ table.entries) :
    table.get? key.text = some item := by
  unfold get?
  cases found : table.entries.find? fun entry => entry.1.text == key.text with
  | none => exact absurd (List.find?_eq_none.mp found _ member) (by simp)
  | some entry =>
    have same : entry.1.text = key.text := by simpa using List.find?_some found
    have its : entry = (key, item) :=
      List.inj_on_of_nodup_map distinct (List.mem_of_find?_eq_some found) member same
    rw [its, Option.map_some]

/-- **A table is read exactly if what stands under the key of each setting suits it.** -/
theorem Setting.exists_readTable_iff {γ : Type} {settings : List (Setting γ)} {table : Table}
    {Suits : String → Item → Prop} (distinct : table.keys.Nodup)
    (each : ∀ setting ∈ settings, ∀ item, table.get? setting.key = some item →
      ∀ place values, (∃ after, setting.read place item values = .ok after)
        ↔ Suits setting.key item)
    (values : γ) :
    (∃ result, readTable settings table values = .ok result)
      ↔ ∀ setting ∈ settings, ∀ item, table.get? setting.key = some item →
        Suits setting.key item := by
  let Takes (entry : Key × Item) : Prop :=
    ∀ setting ∈ settings, setting.key = entry.1.text → Suits setting.key entry.2
  have entries : ∀ entry ∈ table.entries, ∀ values,
      (∃ after, readEntry settings values entry = .ok after) ↔ Takes entry := by
    intro entry member values
    have held := TableOf.get?_of_mem distinct member
    unfold readEntry
    cases found : settings.find? fun setting => setting.key == entry.1.text with
    | none =>
      refine iff_of_true ⟨values, rfl⟩ fun setting listed same => ?_
      exact absurd (List.find?_eq_none.mp found setting listed) (by simpa using same)
    | some first =>
      have listed := List.mem_of_find?_eq_some found
      have its : first.key = entry.1.text := by simpa using List.find?_some found
      refine (each first listed entry.2 (its ▸ held) _ _).trans ⟨?_, fun takes => ?_⟩
      · intro suits setting _ same
        rw [same, ← its]
        exact suits
      · exact takes first listed its
  rw [readTable_eq, exists_foldlM_iff entries]
  constructor
  · intro takes setting listed item found
    obtain ⟨key, same, member⟩ := TableOf.mem_of_get? found
    exact takes _ member setting listed same.symm
  · intro suits entry member setting listed same
    exact suits setting listed entry.2 (same ▸ TableOf.get?_of_mem distinct member)

/-- A section is read exactly if what stands under the key of each field can be read for it. -/
theorem Layout.exists_readTable_iff {γ : Type} {layout : Layout γ} {table : Table}
    (distinct : table.keys.Nodup) (values : γ) :
    (∃ result, Setting.readTable layout.settings table values = .ok result)
      ↔ ∀ field item, table.get? (layout.key field) = some item →
        ∃ value, layout.read field item = .ok value := by
  let Suits (key : String) (item : Item) : Prop :=
    ∀ field, layout.key field = key → ∃ value, layout.read field item = .ok value
  have each : ∀ setting ∈ layout.settings, ∀ item, table.get? setting.key = some item →
      ∀ place before, (∃ after, setting.read place item before = .ok after)
        ↔ Suits setting.key item := by
    intro setting listed item _ place before
    obtain ⟨field, -, rfl⟩ := List.mem_map.mp listed
    constructor
    · rintro ⟨after, read⟩ other same
      obtain rfl := layout.key_injective other field same
      obtain ⟨value, found, -⟩ := Setting.exists_of_read_ofValue read
      exact ⟨value, found⟩
    · intro suits
      obtain ⟨value, found⟩ := suits field rfl
      exact ⟨layout.store field value before, by simp only [Setting.ofValue, found]⟩
  rw [Setting.exists_readTable_iff distinct each]
  constructor
  · intro suits field item found
    exact suits _ (List.mem_map_of_mem (layout.mem_all field)) item found field rfl
  · intro readable setting listed item found field same
    exact readable field item (same ▸ found)

/-! ## Values by their kinds -/

/-- The value that an item is, if it has no parts. -/
def Toml.Item.plain? : Item → Option Scalar
  | .scalar _ value => some value
  | .list _ _ | .table _ | .sections _ => none

namespace Expected

/-- Whether a value is of a kind: a text, a number that is not negative, or a truth value. -/
def Admits : Expected → Scalar → Prop
  | text, .text _ => True
  | number, .integer value => 0 ≤ value
  | truthValue, .boolean _ => True
  | _, _ => False

/-- A reader takes the values of a kind, and what it reads is up to the value. -/
structure ReadBy {α : Type} (expected : Expected) (read : Item → Except Mismatch α) : Prop where
  exists_iff : ∀ item, (∃ value, read item = .ok value)
    ↔ ∃ plain, item.plain? = some plain ∧ expected.Admits plain
  congr : ∀ first second, first.plain? = second.plain? →
    (read first).toOption = (read second).toOption

/-- It is enough to know which values without parts are read, wherever they stand, and that nothing
else is. -/
theorem readBy_of_plain {α : Type} {expected : Expected} {read : Item → Except Mismatch α}
    (moved : ∀ span value,
      (read (.scalar span value)).toOption = (read (.scalar default value)).toOption)
    (admits : ∀ value, (read (.scalar default value)).toOption.isSome ↔ expected.Admits value)
    (parts : ∀ item, item.plain? = none → (read item).toOption = none) : expected.ReadBy read := by
  have toOption_eq (item : Item) : (read item).toOption
      = item.plain?.bind fun value => (read (.scalar default value)).toOption := by
    cases item with
    | scalar span value => exact moved span value
    | list | table | sections => exact parts _ rfl
  refine ⟨fun item => ?_, fun first second same => ?_⟩
  · rw [exists_ok_iff_isSome, toOption_eq]
    cases item.plain? with
    | none => simp
    | some value => simpa using admits value
  · rw [toOption_eq, toOption_eq, same]

theorem readBy_text : text.ReadBy readText := by
  apply readBy_of_plain
  · intro span value
    cases value <;> rfl
  · intro value
    cases value <;> simp [Admits, readText, wrongKind, Except.toOption]
  · intro item parts
    cases item <;> first | rfl | cases parts

theorem readBy_number : number.ReadBy readNumber := by
  apply readBy_of_plain
  · intro span value
    cases value <;> rfl
  · intro value
    cases value with
    | integer value =>
      by_cases negative : value < 0
      · simp [Admits, readNumber, negative, Except.toOption]
      · have positive : 0 ≤ value := Int.not_lt.mp negative
        simp [Admits, readNumber, negative, positive, Except.toOption]
    | _ => simp [Admits, readNumber, wrongKind, Except.toOption]
  · intro item parts
    cases item <;> first | rfl | cases parts

theorem readBy_truthValue : truthValue.ReadBy readTruthValue := by
  apply readBy_of_plain
  · intro span value
    cases value <;> rfl
  · intro value
    cases value <;> simp [Admits, readTruthValue, wrongKind, Except.toOption]
  · intro item parts
    cases item <;> first | rfl | cases parts

end Expected

/-- What a field takes. -/
def PluginField.expected : PluginField → Expected
  | endpoint => .text
  | connectTimeout | reconnectBackoff | idleInterval | rpcTimeout => .number
  | keepaliveInterval | keepaliveTimeout => .number
  | keepaliveWhileIdle => .truthValue

/-- What a field takes. -/
def LoggingField.expected : LoggingField → Expected
  | level => .text
  | json => .truthValue

theorem PluginField.readBy (field : PluginField) : field.expected.ReadBy field.read := by
  cases field with
  | endpoint => exact Expected.readBy_text
  | keepaliveWhileIdle => exact Expected.readBy_truthValue
  | _ => exact Expected.readBy_number

theorem LoggingField.readBy (field : LoggingField) : field.expected.ReadBy field.read := by
  cases field with
  | level => exact Expected.readBy_text
  | json => exact Expected.readBy_truthValue

namespace Config

/-! ## Known keys -/

/-- What a table in a document holds under a key. -/
def under? (document : Table) (name key : String) : Option Item :=
  match document.get? name with
  | some (.table inner) => inner.get? key
  | _ => none

/-- The keys that matter. -/
inductive KnownKey where
  | plugin (field : PluginField)
  | logging (field : LoggingField)
  deriving Repr, DecidableEq, Inhabited

namespace KnownKey

/-- What a document holds under a known key. -/
def item? (document : Table) : KnownKey → Option Item
  | plugin field => under? document "plugin" field.key
  | logging field => under? document "logging" field.key

/-- What the field of a known key takes. -/
def expected : KnownKey → Expected
  | plugin field => field.expected
  | logging field => field.expected

end KnownKey

/-- The two sections of a document are tables, where they are there at all. -/
structure HasSections (document : Table) : Prop where
  plugin : SectionAt document "plugin"
  logging : SectionAt document "logging"

/-- Two documents hold the same under each known key: in both of them nothing, or the same value, or
something that is no value for a field. -/
def AgreeOnKnownKeys (first second : Table) : Prop :=
  ∀ known : KnownKey, (known.item? first).map Item.plain? = (known.item? second).map Item.plain?

section

variable {γ : Type} {layout : Layout γ} {document first second : Table} {name : String}

theorem ofSection_eq (field : layout.Field) :
    Overlay.ofSection layout document name field
      = (under? document name (layout.key field)).bind
        fun item => (layout.read field item).toOption := by
  unfold Overlay.ofSection under?
  cases document.get? name with
  | none => rfl
  | some item => cases item <;> rfl

/-- The values in a section are up to the known keys. -/
theorem ofSection_congr {expected : layout.Field → Expected}
    (readBy : ∀ field, (expected field).ReadBy (layout.read field))
    (agree : ∀ field, (under? first name (layout.key field)).map Item.plain?
      = (under? second name (layout.key field)).map Item.plain?) :
    Overlay.ofSection layout first name = Overlay.ofSection layout second name := by
  funext field
  rw [ofSection_eq, ofSection_eq]
  have same := agree field
  cases one : under? first name (layout.key field) with
  | none =>
    rw [one, Option.map_none, eq_comm, Option.map_eq_none_iff] at same
    rw [same]
  | some item =>
    rw [one, Option.map_some, eq_comm, Option.map_eq_some_iff] at same
    obtain ⟨other, found, plain⟩ := same
    rw [found]
    exact ((readBy field).congr item other plain.symm)

/-- A section that is a table is read exactly if the values under its keys do. -/
theorem exists_section_iff {expected : layout.Field → Expected}
    (readBy : ∀ field, (expected field).ReadBy (layout.read field)) (distinct : document.Distinct)
    (table : SectionAt document name) (values : γ) :
    (∀ inner, document.get? name = some (.table inner) →
        ∃ result, Setting.readTable layout.settings inner values = .ok result)
      ↔ ∀ field item, under? document name (layout.key field) = some item →
        ∃ plain, item.plain? = some plain ∧ (expected field).Admits plain := by
  simp only [← (readBy _).exists_iff]
  unfold under?
  cases found : document.get? name with
  | none => simp
  | some item =>
    obtain ⟨inner, rfl⟩ := table item found
    have apart : Table.Distinct inner := Toml.Item.distinct_table_iff.mp (distinct.get? found)
    simpa using Layout.exists_readTable_iff apart.keys values

/-- A setting that is a section takes a table that can be read on top of its defaults. -/
theorem exists_read_ofSection_iff {δ : Type} {key : String} {expected : Expected}
    {inside : List (Setting δ)} {defaults : δ} {store : δ → γ → γ} {place : Span} {inner : Table}
    {before : γ} :
    (∃ after, (Setting.ofSection key expected inside defaults store).read place (.table inner) before
        = .ok after)
      ↔ ∃ result, Setting.readTable inside inner defaults = .ok result := by
  constructor
  · rintro ⟨after, read⟩
    obtain ⟨shown, -, taken⟩ := Setting.exists_of_read_ofSection read
    exact ⟨shown, taken inner rfl⟩
  · rintro ⟨result, read⟩
    refine ⟨store result before, ?_⟩
    change (Setting.readTable inside inner defaults >>= fun shown => pure (store shown before)) = _
    rw [read]
    rfl

/-- A document is read exactly if its two sections are. -/
theorem exists_ofTable_iff_sections (distinct : document.Distinct)
    (sections : HasSections document) :
    (∃ config, ofTable document = .ok config)
      ↔ (∀ inner, document.get? "plugin" = some (.table inner) →
          ∃ result, Setting.readTable PluginConfig.layout.settings inner {} = .ok result)
        ∧ ∀ inner, document.get? "logging" = some (.table inner) →
          ∃ result, Setting.readTable LoggingConfig.layout.settings inner {} = .ok result := by
  let Suits (key : String) (item : Item) : Prop := ∀ inner, item = .table inner →
    (key = "plugin" → ∃ result, Setting.readTable PluginConfig.settings inner {} = .ok result)
      ∧ (key = "logging" →
        ∃ result, Setting.readTable LoggingConfig.settings inner {} = .ok result)
  have each : ∀ setting ∈ settings, ∀ item, document.get? setting.key = some item →
      ∀ place before, (∃ after, setting.read place item before = .ok after)
        ↔ Suits setting.key item := by
    intro setting listed item found place before
    simp only [settings, List.mem_cons, List.not_mem_nil, or_false] at listed
    rcases listed with rfl | rfl
    · obtain ⟨inner, rfl⟩ := sections.plugin item found
      rw [exists_read_ofSection_iff]
      refine ⟨fun read other same => ?_, fun suits => (suits inner rfl).1 rfl⟩
      cases same
      exact ⟨fun _ => read, fun apart => absurd apart (by decide)⟩
    · obtain ⟨inner, rfl⟩ := sections.logging item found
      rw [exists_read_ofSection_iff]
      refine ⟨fun read other same => ?_, fun suits => (suits inner rfl).2 rfl⟩
      cases same
      exact ⟨fun apart => absurd apart (by decide), fun _ => read⟩
  refine (Setting.exists_readTable_iff distinct.keys each {}).trans ⟨fun suits => ?_, ?_⟩
  · exact ⟨fun inner found => (suits _ List.mem_cons_self _ found inner rfl).1 rfl,
      fun inner found =>
        (suits _ (List.mem_cons_of_mem _ List.mem_cons_self) _ found inner rfl).2 rfl⟩
  · rintro ⟨plugin, logging⟩ setting _ item found inner rfl
    exact ⟨fun its => plugin inner (its ▸ found), fun its => logging inner (its ▸ found)⟩

/-- **A document gives a configuration exactly if what stands under each known key suits it.** -/
theorem exists_ofTable_iff (distinct : document.Distinct) (sections : HasSections document) :
    (∃ config, ofTable document = .ok config)
      ↔ ∀ (known : KnownKey) item, known.item? document = some item →
        ∃ plain, item.plain? = some plain ∧ known.expected.Admits plain := by
  rw [exists_ofTable_iff_sections distinct sections,
    exists_section_iff PluginField.readBy distinct sections.plugin,
    exists_section_iff LoggingField.readBy distinct sections.logging]
  constructor
  · rintro ⟨plugin, logging⟩ known item found
    cases known with
    | plugin field => exact plugin field item found
    | logging field => exact logging field item found
  · intro each
    exact ⟨fun field => each (.plugin field), fun field => each (.logging field)⟩

namespace AgreeOnKnownKeys

theorem symm (agree : AgreeOnKnownKeys first second) : AgreeOnKnownKeys second first :=
  fun known => (agree known).symm

theorem ofDocument_eq (agree : AgreeOnKnownKeys first second) :
    Overlay.ofDocument first = Overlay.ofDocument second := by
  have plugin : Overlay.ofSection PluginConfig.layout first "plugin"
      = Overlay.ofSection PluginConfig.layout second "plugin" :=
    ofSection_congr PluginField.readBy fun field => agree (.plugin field)
  have logging : Overlay.ofSection LoggingConfig.layout first "logging"
      = Overlay.ofSection LoggingConfig.layout second "logging" :=
    ofSection_congr LoggingField.readBy fun field => agree (.logging field)
  rw [Overlay.ofDocument, plugin, logging]
  rfl

/-- What suits in one of two documents that agree suits in the other. -/
theorem suits (agree : AgreeOnKnownKeys first second)
    (suits : ∀ (known : KnownKey) item, known.item? first = some item →
      ∃ plain, item.plain? = some plain ∧ known.expected.Admits plain)
    (known : KnownKey) (item : Item) (found : known.item? second = some item) :
    ∃ plain, item.plain? = some plain ∧ known.expected.Admits plain := by
  have same := agree known
  rw [found, Option.map_some, Option.map_eq_some_iff] at same
  obtain ⟨other, held, plain⟩ := same
  rw [← plain]
  exact suits known other held

end AgreeOnKnownKeys

/-- Documents that agree give the same configuration, or both of them none. -/
theorem toOption_ofTable_congr (distinct : first.Distinct) (others : second.Distinct)
    (sections : HasSections first) (sections' : HasSections second)
    (agree : AgreeOnKnownKeys first second) :
    (ofTable first).toOption = (ofTable second).toOption := by
  have both : (∃ config, ofTable first = .ok config) ↔ ∃ config, ofTable second = .ok config := by
    rw [exists_ofTable_iff distinct sections, exists_ofTable_iff others sections']
    exact ⟨agree.suits, agree.symm.suits⟩
  cases taken : ofTable first with
  | ok config =>
    obtain ⟨other, taken'⟩ := both.mp ⟨config, taken⟩
    rw [taken', ofTable_eq distinct sections.plugin sections.logging taken,
      ofTable_eq others sections'.plugin sections'.logging taken', agree.ofDocument_eq]
  | error complaint =>
    cases taken' : ofTable second with
    | ok config =>
      obtain ⟨other, success⟩ := both.mpr ⟨config, taken'⟩
      rw [taken] at success
      cases success
    | error complaint' => rfl

theorem toOption_parse {text : String} (read : Document.read text = some document) :
    (parse text).toOption = (ofTable document).toOption := by
  rw [parse, read]
  simp only
  split <;> next taken => rw [taken]; rfl

/-- **Nothing but the known keys of a document matters.**  Two documents that hold the same under
each known key of their sections give the same configuration, or both of them none; and a document
gives one exactly if each value under a known key is of the kind that its field takes. -/
theorem parse_of_known_keys {text other : String} (read : Document.read text = some first)
    (read' : Document.read other = some second) (sections : HasSections first)
    (sections' : HasSections second) (agree : AgreeOnKnownKeys first second) :
    (parse text).toOption = (parse other).toOption
      ∧ ((∃ config, parse text = .ok config)
        ↔ ∀ (known : KnownKey) item, known.item? first = some item →
          ∃ plain, item.plain? = some plain ∧ known.expected.Admits plain) := by
  have distinct := Document.distinct_of_read read
  have distinct' := Document.distinct_of_read read'
  constructor
  · rw [toOption_parse read, toOption_parse read']
    exact toOption_ofTable_congr distinct distinct' sections sections' agree
  · rw [exists_ok_iff_isSome, toOption_parse read, ← exists_ok_iff_isSome]
    exact exists_ofTable_iff distinct sections

end

/-- A document with a section under a header. -/
def headedDocument : Table :=
  { form := .headed
    span? := none
    entries :=
      [(⟨"logging", 35, 28⟩,
        .table
          { form := .headed
            span? := some ⟨36, 1⟩
            entries :=
              [(⟨"json", 26, 22⟩, .scalar ⟨19, 15⟩ (.boolean true)),
                (⟨"level", 14, 9⟩, .scalar ⟨6, 1⟩ (.text "off"))] })] }

/-- A document with a section in braces, and with keys that do not matter. -/
def bracedDocument : Table :=
  { form := .headed
    span? := none
    entries :=
      [(⟨"logging", 62, 55⟩,
          .table
            { form := .closed
              span? := some ⟨52, 14⟩
              entries :=
                [(⟨"level", 51, 46⟩, .scalar ⟨43, 38⟩ (.text "off")),
                  (⟨"x", 36, 35⟩,
                    .table
                      { form := .dotted
                        span? := none
                        entries := [(⟨"y", 34, 33⟩, .list ⟨30, 28⟩ [])] }),
                  (⟨"json", 26, 22⟩, .scalar ⟨19, 15⟩ (.boolean true))] }),
        (⟨"plugin", 13, 7⟩,
          .table
            { form := .dotted
              span? := none
              entries := [(⟨"z", 6, 5⟩, .scalar ⟨2, 1⟩ (.integer 1))] })] }

/-- Headers or braces, another order, other marks and surplus keys make no difference. -/
theorem parse_of_known_keys_braced :
    let text := "[logging]\njson = true\nlevel = \"off\"\n"
    let other := "logging = \x7blevel = 'off', x.y = [], json = true\x7d\nplugin.z = 1\n"
    Document.read text = some headedDocument ∧ Document.read other = some bracedDocument
      ∧ HasSections headedDocument ∧ HasSections bracedDocument
      ∧ AgreeOnKnownKeys headedDocument bracedDocument
      ∧ (parse text).toOption = (parse other).toOption
      ∧ ∃ config, parse text = .ok config := by
  intro text other
  have read : Document.read text = some headedDocument := by
    rw [Document.read, show text.toList = _ from String.toList_ofList]
    with_unfolding_all rfl
  have read' : Document.read other = some bracedDocument := by
    rw [Document.read, show other.toList = _ from String.toList_ofList]
    with_unfolding_all rfl
  have sections : HasSections headedDocument := by
    constructor <;> intro item found <;> cases found
    exact ⟨_, rfl⟩
  have sections' : HasSections bracedDocument := by
    constructor <;> intro item found <;> cases found <;> exact ⟨_, rfl⟩
  have agree : AgreeOnKnownKeys headedDocument bracedDocument := by
    intro known
    cases known with
    | plugin field => cases field <;> rfl
    | logging field => cases field <;> rfl
  obtain ⟨same, success⟩ := parse_of_known_keys read read' sections sections' agree
  refine ⟨read, read', sections, sections', agree, same, success.mpr fun known item found => ?_⟩
  cases known with
  | plugin field => cases field <;> cases found
  | logging field =>
    cases field with
    | level =>
      cases found
      exact ⟨.text "off", rfl, trivial⟩
    | json =>
      cases found
      exact ⟨.boolean true, rfl, trivial⟩

end Config

end JobHooks
