import JobHooks.Config.Load
import JobHooks.Proofs.Config.Fields
import JobHooks.Proofs.Wire.Numerals

/-!
# Variables whose text stands for no value

Three variables have to hold more than any text: two of them a number, and one a truth value.  What
characters are a number is said by `Text.Denotes`, and exactly the numbers below `2 ^ 64` are read
(`Environment.number?_isSome_iff`).

`Config.unusable_as_unset` compares an environment in which one of these variables holds a text that
stands for no value with one in which it is not set.  As long as the variable is one of the two for
numbers, a configuration comes out the same.  The variable for the form of log lines turns JSON off
with such a text, so there it comes out the same only if JSON was off before.
-/

namespace JobHooks

set_option autoImplicit false

/-! ## Numbers in texts -/

namespace Text

/-- What characters are a number: decimal digits, at least one, perhaps with a plus sign in front.
-/
inductive Denotes : List Char → Nat → Prop
  | plain {digits : List Char} (some : digits ≠ []) (each : ∀ digit ∈ digits, digit.isDigit) :
    Denotes digits (Nat.ofDigitChars 10 digits 0)
  | signed {digits : List Char} (some : digits ≠ []) (each : ∀ digit ∈ digits, digit.isDigit) :
    Denotes ('+' :: digits) (Nat.ofDigitChars 10 digits 0)

/-- More digits do not make a number smaller. -/
theorem le_ofDigitChars (digits : List Char) (start : Nat) :
    start ≤ Nat.ofDigitChars 10 digits start := by
  induction digits generalizing start with
  | nil => exact Nat.le_refl start
  | cons digit digits ih =>
    rw [Nat.ofDigitChars_cons]
    have step := ih (10 * start + (digit.toNat - '0'.toNat))
    omega

theorem le_toNat_of_isDigit {digit : Char} (decimal : digit.isDigit) : '0'.toNat ≤ digit.toNat := by
  simp only [Char.isDigit, Bool.and_eq_true, decide_eq_true_eq] at decimal
  exact decimal.1

/-- One more digit is taken as long as the number stays below `2 ^ 64`. -/
theorem pushDigit_word_eq_ok_iff {digit : Char} {start : Nat} {result : Int} :
    pushDigit .word false start digit = .ok result
      ↔ digit.isDigit ∧ 10 * start + (digit.toNat - '0'.toNat) < UInt64.size
        ∧ result = (10 * start + (digit.toNat - '0'.toNat) : Nat) := by
  unfold pushDigit
  by_cases decimal : digit.isDigit
  · obtain ⟨next, read⟩ : ∃ next : Nat, 10 * start + (digit.toNat - '0'.toNat) = next := ⟨_, rfl⟩
    have same : 10 * (start : Int) + ((digit.toNat : Int) - ('0'.toNat : Int)) = next := by
      have least := le_toNat_of_isDigit decimal
      omega
    have small : IntegerBounds.word.greatest < (next : Int) ↔ ¬ next < UInt64.size := by
      simp only [IntegerBounds.word, UInt64.size]
      omega
    have least : ¬ (next : Int) < IntegerBounds.word.least := by
      simp only [IntegerBounds.word]
      omega
    simp only [decimal, Bool.false_eq_true, ite_true, ite_false, same, read, least, small, true_and]
    by_cases fits : next < UInt64.size
    · simp [fits, eq_comm]
    · simp [fits]
  · simp [decimal]

theorem foldlM_pushDigit_eq_ok_iff {digits : List Char} {start : Nat} {result : Int}
    (small : start < UInt64.size) :
    digits.foldlM (pushDigit .word false) (start : Int) = .ok result
      ↔ (∀ digit ∈ digits, digit.isDigit) ∧ Nat.ofDigitChars 10 digits start < UInt64.size
        ∧ result = Nat.ofDigitChars 10 digits start := by
  induction digits generalizing start with
  | nil =>
    constructor
    · rintro ⟨⟩
      exact ⟨List.forall_mem_nil _, small, rfl⟩
    · rintro ⟨-, -, rfl⟩
      rfl
  | cons digit digits ih =>
    rw [List.foldlM_cons, Nat.ofDigitChars_cons, List.forall_mem_cons]
    constructor
    · intro read
      obtain ⟨between, first, rest⟩ := exists_of_bind_ok read
      obtain ⟨decimal, fits, rfl⟩ := pushDigit_word_eq_ok_iff.mp first
      obtain ⟨others, whole, same⟩ := (ih fits).mp rest
      exact ⟨⟨decimal, others⟩, whole, same⟩
    · rintro ⟨⟨decimal, others⟩, whole, same⟩
      have fits := Nat.lt_of_le_of_lt (le_ofDigitChars digits _) whole
      rw [pushDigit_word_eq_ok_iff.mpr ⟨decimal, fits, rfl⟩]
      exact (ih fits).mpr ⟨others, whole, same⟩

theorem denotes_plus_iff {digits : List Char} {number : Nat} :
    Denotes ('+' :: digits) number
      ↔ digits ≠ [] ∧ (∀ digit ∈ digits, digit.isDigit)
        ∧ number = Nat.ofDigitChars 10 digits 0 := by
  constructor
  · intro denotes
    cases denotes with
    | plain some each => exact absurd (each '+' List.mem_cons_self) (by decide)
    | signed some each => exact ⟨some, each, rfl⟩
  · rintro ⟨some, each, rfl⟩
    exact .signed some each

theorem denotes_iff {first : Char} {rest : List Char} {number : Nat} (unsigned : first ≠ '+') :
    Denotes (first :: rest) number
      ↔ (∀ digit ∈ first :: rest, digit.isDigit)
        ∧ number = Nat.ofDigitChars 10 (first :: rest) 0 := by
  constructor
  · intro denotes
    cases denotes with
    | plain some each => exact ⟨each, rfl⟩
    | signed => exact absurd rfl unsigned
  · rintro ⟨each, rfl⟩
    exact .plain (List.cons_ne_nil _ _) each

/-- **Exactly the numbers below `2 ^ 64` are read**, each from the texts that denote it. -/
theorem integerOf_word_eq_ok_iff {characters : List Char} {result : Int} :
    integerOf .word characters = .ok result
      ↔ ∃ number, Denotes characters number ∧ number < UInt64.size ∧ result = number := by
  have read {digits : List Char} := @foldlM_pushDigit_eq_ok_iff digits 0 result (by decide)
  cases characters with
  | nil =>
    constructor
    · rintro ⟨⟩
    · rintro ⟨number, denotes, -⟩
      cases denotes with
      | plain some => exact absurd rfl some
  | cons first rest =>
    have positive : ¬ (first = '-' ∧ IntegerBounds.word.least < 0) := fun negative =>
      absurd negative.2 (by decide)
    simp only [integerOf, positive, false_or, decide_false]
    by_cases plus : first = '+'
    · subst plus
      simp only [if_true, denotes_plus_iff]
      cases rest with
      | nil => simp
      | cons digit digits =>
        refine read.trans ⟨?_, ?_⟩
        · rintro ⟨each, small, same⟩
          exact ⟨_, ⟨List.cons_ne_nil _ _, each, rfl⟩, small, same⟩
        · rintro ⟨number, ⟨-, each, rfl⟩, small, same⟩
          exact ⟨each, small, same⟩
    · simp only [plus, if_false, denotes_iff plus]
      refine read.trans ⟨?_, ?_⟩
      · rintro ⟨each, small, same⟩
        exact ⟨_, ⟨each, rfl⟩, small, same⟩
      · rintro ⟨number, ⟨each, rfl⟩, small, same⟩
        exact ⟨each, small, same⟩

end Text

theorem Environment.number?_isSome_iff {text : String} :
    (number? text).isSome ↔ ∃ number, Text.Denotes text.toList number ∧ number < UInt64.size := by
  have read := @Text.integerOf_word_eq_ok_iff text.toList
  unfold number? Text.integer
  constructor
  · intro usable
    split at usable
    · next result found =>
      obtain ⟨number, denotes, small, -⟩ := read.mp found
      exact ⟨number, denotes, small⟩
    · cases usable
  · rintro ⟨number, denotes, small⟩
    rw [read.mpr ⟨number, denotes, small, rfl⟩]
    rfl

/-! ## Environments that differ in one variable -/

/-- Two environments hold the same texts, except perhaps in one variable. -/
def Environment.AgreeBut (name : String) (first second : Environment) : Prop :=
  ∀ other, other ≠ name → first.text? other = second.text? other

theorem Environment.agreeBut_cons (name : String) (value : Bytes) (environment : Environment) :
    AgreeBut name ((name, value) :: environment) environment := by
  intro other apart
  rw [text?, text?, List.lookup_cons, beq_false_of_ne apart]

namespace Environment.AgreeBut

variable {name : String} {first second : Environment}

theorem number_eq (agree : AgreeBut name first second) (other : String) (apart : other ≠ name) :
    first.number other = second.number other :=
  congrArg (·.bind number?) (agree other apart)

theorem truthValue_eq (agree : AgreeBut name first second) (other : String)
    (apart : other ≠ name) : first.truthValue other = second.truthValue other :=
  congrArg (·.map (· == "true")) (agree other apart)

end Environment.AgreeBut

namespace Config

variable {first second : Environment}

/-- A configuration is overridden by what five variables give. -/
theorem withEnvironment_congr
    (endpoint : first.text? "HOOKRELAY_PLUGIN_ENDPOINT" = second.text? "HOOKRELAY_PLUGIN_ENDPOINT")
    (connectTimeout : first.number "HOOKRELAY_CONNECT_TIMEOUT_MS"
      = second.number "HOOKRELAY_CONNECT_TIMEOUT_MS")
    (rpcTimeout : first.number "HOOKRELAY_RPC_TIMEOUT_MS"
      = second.number "HOOKRELAY_RPC_TIMEOUT_MS")
    (level : first.text? "HOOKRELAY_LOG_LEVEL" = second.text? "HOOKRELAY_LOG_LEVEL")
    (json : first.truthValue "HOOKRELAY_LOG_JSON" = second.truthValue "HOOKRELAY_LOG_JSON")
    (config : Config) : config.withEnvironment first = config.withEnvironment second := by
  simp only [withEnvironment, endpoint, connectTimeout, rpcTimeout, level, json]

end Config

/-- The variables that have to hold more than any text. -/
inductive TypedVariable where
  | connectTimeout
  | rpcTimeout
  | logJson
  deriving Repr, DecidableEq, Inhabited

namespace TypedVariable

/-- The name of a variable. -/
def name : TypedVariable → String
  | connectTimeout => "HOOKRELAY_CONNECT_TIMEOUT_MS"
  | rpcTimeout => "HOOKRELAY_RPC_TIMEOUT_MS"
  | logJson => "HOOKRELAY_LOG_JSON"

/-- Whether a text stands for a value of a variable. -/
def Takes : TypedVariable → String → Prop
  | connectTimeout, text | rpcTimeout, text =>
    ∃ number, Text.Denotes text.toList number ∧ number < UInt64.size
  | logJson, text => text = "true" ∨ text = "false"

/-- Whether two configurations have the same value in the field of a variable. -/
def SameField : TypedVariable → Config → Config → Prop
  | connectTimeout, first, second => first.plugin.connectTimeoutMs = second.plugin.connectTimeoutMs
  | rpcTimeout, first, second => first.plugin.rpcTimeoutMs = second.plugin.rpcTimeoutMs
  | logJson, first, second => first.logging.json = second.logging.json

/-- Whether a text without a value leaves a configuration as it is: the variable for the form of log
lines turns JSON off with such a text. -/
def Spares (typed : TypedVariable) (config : Config) : Prop :=
  typed = logJson → config.logging.json = false

end TypedVariable

namespace Config

variable {typed : TypedVariable} {set unset : Environment} {text : String}

/-- Every text but `true` turns JSON off. -/
theorem truthValue_of_unusable (given : set.text? TypedVariable.logJson.name = some text)
    (unusable : ¬ TypedVariable.logJson.Takes text) :
    set.truthValue "HOOKRELAY_LOG_JSON" = some false := by
  have other : (text == "true") = false := by
    rw [beq_eq_false_iff_ne]
    exact fun same => unusable (.inl same)
  rw [Environment.truthValue, show set.text? "HOOKRELAY_LOG_JSON" = some text from given,
    Option.map_some, other]

/-- A text that is no number gives as little as no text. -/
theorem number_of_unusable {name : String} (given : set.text? name = some text)
    (unusable : ¬ ∃ number, Text.Denotes text.toList number ∧ number < UInt64.size)
    (absent : unset.text? name = none) : set.number name = unset.number name := by
  have refused : Environment.number? text = none := by
    rw [← Option.not_isSome_iff_eq_none, Environment.number?_isSome_iff]
    exact unusable
  rw [Environment.number, Environment.number, given, absent, Option.bind_some, refused,
    Option.bind_none]

/-- **A text without a value is as good as none** where the configuration is spared, and only there.
-/
theorem withEnvironment_eq_iff_spares (given : set.text? typed.name = some text)
    (unusable : ¬ typed.Takes text) (absent : unset.text? typed.name = none)
    (others : Environment.AgreeBut typed.name set unset) (config : Config) :
    config.withEnvironment set = config.withEnvironment unset ↔ typed.Spares config := by
  have number (name : String) (apart : typed = .logJson → name ≠ typed.name) :
      set.number name = unset.number name := by
    by_cases its : name = typed.name
    · cases typed with
      | connectTimeout | rpcTimeout =>
        rw [its]
        exact number_of_unusable given unusable absent
      | logJson => exact absurd its (apart rfl)
    · exact others.number_eq name its
  cases typed with
  | connectTimeout | rpcTimeout =>
    refine iff_of_true (withEnvironment_congr ?_ (number _ nofun) (number _ nofun) ?_ ?_ config) nofun
    · exact others _ (by decide)
    · exact others _ (by decide)
    · exact others.truthValue_eq _ (by decide)
  | logJson =>
    have off : set.truthValue "HOOKRELAY_LOG_JSON" = some false :=
      truthValue_of_unusable given unusable
    have none : unset.truthValue "HOOKRELAY_LOG_JSON" = none :=
      congrArg (·.map (· == "true")) absent
    constructor
    · intro same _
      have json := congrArg (fun config => config.logging.json) same
      simpa only [withEnvironment, off, none, Option.getD_some, Option.getD_none] using json.symm
    · intro spared
      have endpoint := others "HOOKRELAY_PLUGIN_ENDPOINT" (by decide)
      have level := others "HOOKRELAY_LOG_LEVEL" (by decide)
      have connectTimeout := number "HOOKRELAY_CONNECT_TIMEOUT_MS" fun _ => by decide
      have rpcTimeout := number "HOOKRELAY_RPC_TIMEOUT_MS" fun _ => by decide
      simp only [withEnvironment, endpoint, level, connectTimeout, rpcTimeout, off, none,
        spared rfl, Option.getD_some, Option.getD_none]

/-- The field of a variable that is not set stays as it is. -/
theorem sameField_of_unset (absent : unset.text? typed.name = none) (config : Config) :
    typed.SameField (config.withEnvironment unset) config := by
  cases typed with
  | connectTimeout | rpcTimeout =>
    have none : Environment.number unset _ = none := congrArg (·.bind Environment.number?) absent
    simp only [TypedVariable.name] at none
    simp [TypedVariable.SameField, withEnvironment, none]
  | logJson =>
    have none : unset.truthValue "HOOKRELAY_LOG_JSON" = none :=
      congrArg (·.map (· == "true")) absent
    simp only [TypedVariable.SameField, withEnvironment, none, Option.getD_none]

/-- **A variable that holds a text without a value is as good as one that is not set**, and what is
below it stays in force.  This holds of each of the three variables and of every configuration,
except that the variable for the form of log lines turns JSON off where it was on.  So it holds of
the defaults, and of loading whatever the file says of other things. -/
theorem unusable_as_unset (given : set.text? typed.name = some text)
    (unusable : ¬ typed.Takes text) (absent : unset.text? typed.name = none)
    (others : Environment.AgreeBut typed.name set unset) :
    (∀ config : Config,
      (config.withEnvironment set = config.withEnvironment unset ↔ typed.Spares config)
        ∧ (typed.Spares config → typed.SameField (config.withEnvironment set) config))
      ∧ ofEnvironment set = ofEnvironment unset
      ∧ ∀ file, (∀ below, base file = .ok below → typed.Spares below) →
        load file set = load file unset := by
  have same (config : Config) := withEnvironment_eq_iff_spares given unusable absent others config
  refine ⟨fun config => ⟨same config, fun spared => ?_⟩, ?_, fun file spared => ?_⟩
  · rw [(same config).mpr spared]
    exact sameField_of_unset absent config
  · exact (same {}).mpr fun _ => rfl
  · unfold load
    cases below : base file with
    | error fault => rfl
    | ok config =>
      have merged := (same config).mpr (spared config below)
      exact congrArg validate merged

/-- A time that is not written as a number does not shorten the limit of a file. -/
theorem unusable_as_unset_exponent :
    let level := ("HOOKRELAY_LOG_LEVEL", Text.encode "debug")
    let set : Environment := [("HOOKRELAY_RPC_TIMEOUT_MS", Text.encode "1e3"), level]
    let config : Config := { plugin := { rpcTimeoutMs := some 500 } }
    ¬ TypedVariable.rpcTimeout.Takes "1e3"
      ∧ config.withEnvironment set = config.withEnvironment [level]
      ∧ (config.withEnvironment set).plugin.rpcTimeoutMs = some 500 := by
  intro level set config
  have unusable : ¬ TypedVariable.rpcTimeout.Takes "1e3" := by
    refine Environment.number?_isSome_iff.not.mp ?_
    decide
  have given : set.text? TypedVariable.rpcTimeout.name = some "1e3" := Text.decode?_encode "1e3"
  have others : Environment.AgreeBut TypedVariable.rpcTimeout.name set [level] :=
    Environment.agreeBut_cons _ _ _
  have spared : TypedVariable.rpcTimeout.Spares config := nofun
  obtain ⟨each, -⟩ := unusable_as_unset given unusable rfl others
  exact ⟨unusable, (each config).1.mpr spared, (each config).2 spared⟩

/-- A text that is neither of the two words turns the JSON of a file off. -/
theorem json_off_by_unusable :
    let set : Environment := [("HOOKRELAY_LOG_JSON", Text.encode "yes")]
    let config : Config := { logging := { json := true } }
    set.text? TypedVariable.logJson.name = some "yes"
      ∧ ¬ TypedVariable.logJson.Takes "yes"
      ∧ Environment.AgreeBut TypedVariable.logJson.name set []
      ∧ (config.withEnvironment set).logging.json = false
      ∧ (config.withEnvironment []).logging.json = true := by
  intro set config
  have given : set.text? TypedVariable.logJson.name = some "yes" := Text.decode?_encode "yes"
  have unusable : ¬ TypedVariable.logJson.Takes "yes" := by
    rintro (same | same) <;> exact absurd same (by decide)
  refine ⟨given, unusable, Environment.agreeBut_cons _ _ _, ?_, rfl⟩
  rw [withEnvironment, truthValue_of_unusable given unusable]
  rfl

end Config

end JobHooks
