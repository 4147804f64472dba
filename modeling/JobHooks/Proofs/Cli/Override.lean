import JobHooks.Cli.Run
import JobHooks.Proofs.Config.Endpoints
import JobHooks.Proofs.Config.Validity
import JobHooks.Proofs.Config.Variables

/-!
# The endpoint of a command line

An endpoint that is given on the command line is put in place of whatever the layers below say, and
the command works with what comes out (`Cli.endpoint_overrides`).  But the layers below are loaded
first, and loading validates them with their own endpoint.  So a command gets its configuration if
the overridden one is valid and, besides, the endpoint that is not used names a socket; apart from
that, the endpoint that is not used does not matter.

The variable for the endpoint also stands in for the option, but not where the option is given
(`Cli.parse_of_given`).
-/

namespace JobHooks

set_option autoImplicit false

namespace Cli

/-! ## The command line -/

/-- The variable that stands in for the endpoint. -/
def endpointVariable : String := "HOOKRELAY_PLUGIN_ENDPOINT"

/-- Whether reading with variables gives a value, unless the variable for the endpoint is no text.
-/
def Settles {ε α : Type} (standIns : Variables) (fault : ε) (result : Except ε α) (value : α) :
    Prop :=
  result = .ok value ∨ standIns endpointVariable = some none ∧ result = .error fault

namespace Settles

variable {ε ε' α β : Type} {standIns : Variables} {fault : ε}

theorem bind {first : Except ε α} {next : α → Except ε β} {between : α} {value : β}
    (step : Settles standIns fault first between)
    (rest : Settles standIns fault (next between) value) :
    Settles standIns fault (first >>= next) value := by
  rcases step with rfl | ⟨unreadable, rfl⟩
  · exact rest
  · exact .inr ⟨unreadable, rfl⟩

theorem mapError {result : Except ε α} {value : α} (settles : Settles standIns fault result value)
    (wrap : ε → ε') : Settles standIns (wrap fault) (result.mapError wrap) value := by
  rcases settles with rfl | ⟨unreadable, rfl⟩
  · exact .inl rfl
  · exact .inr ⟨unreadable, rfl⟩

end Settles

section

variable {standIns : Variables} {arguments : List String}

/-- No other variable stands in for an option. -/
theorem standIn?_eq (command? : Option CommandName) :
    let grammar := (command?.map behindCommand).getD topLevel
    ∀ option ∈ grammar.options,
      option.standIn? = none ∨ option.standIn? = some endpointVariable := by
  cases command? with
  | none => decide
  | some command => cases command <;> decide

variable (standIns) in
/-- A level that ends well where no variable is set ends alike with variables. -/
theorem endLevel_of_unset {grammar : Grammar} {reading settled : Reading}
    (known : ∀ option ∈ grammar.options,
      option.standIn? = none ∨ option.standIn? = some endpointVariable)
    (ended : endLevel grammar (fun _ => none) reading = .ok settled) :
    Settles standIns .notText (endLevel grammar standIns reading) settled := by
  obtain ⟨read, resolved, rest⟩ := exists_of_bind_ok ended
  have quiet : (grammar.options.any fun option =>
      !read.has option && option.standIn?.bind (fun _ => none) == some (none : Option String))
        = false := by
    rw [List.any_eq_false]
    intro option _
    cases option.standIn? <;> simp
  obtain rfl : read = settled := by
    simpa only [quiet, Bool.false_eq_true, if_false, pure, Except.pure, Except.ok.injEq] using rest
  refine .bind (.inl resolved) ?_
  by_cases unreadable : (grammar.options.any fun option =>
      !read.has option && option.standIn?.bind standIns == some none) = true
  · obtain ⟨option, member, held⟩ := List.any_eq_true.mp unreadable
    have found := (Bool.and_eq_true _ _ ▸ held : _ ∧ _).2
    refine .inr ⟨?_, if_pos unreadable⟩
    rcases known option member with none | some
    · rw [none] at found
      cases found
    · rw [some] at found
      simpa using found
  · exact .inl (if_neg unreadable)

theorem parseCommand_of_unset {command : CommandName} {settled : Reading}
    (read : parseCommand (fun _ => none) command arguments = .ok settled) :
    Settles standIns (.usage .notText) (parseCommand standIns command arguments) settled := by
  obtain ⟨⟨reading, _⟩, level, rest⟩ := exists_of_bind_ok read
  obtain ⟨ended, endsWell, complete⟩ := exists_of_bind_ok rest
  have ends := endLevel_of_unset standIns (standIn?_eq (some command))
    (mapError_eq_ok_iff.mp endsWell)
  exact .bind (.inl level) (.bind (ends.mapError Stop.usage) (.inl complete))

/-- A variable is asked only where no level of the command line gives a text. -/
theorem globalText?_of_given {front behind : Reading} {option : OptionSpec} {text : String}
    (given : globalText? (fun _ => none) front behind option = some text) :
    globalText? standIns front behind option = some text := by
  have silent : variableText? (fun _ => none) option = none := by
    cases standIn : option.standIn? <;> simp [variableText?, standIn]
  unfold globalText? at given ⊢
  cases found : behind.text? option with
  | some other =>
    simp only [found] at given
    exact given
  | none =>
    cases foundInFront : front.text? option with
    | some other =>
      simp only [found, foundInFront] at given
      exact given
    | none =>
      simp only [found, foundInFront, silent] at given
      cases given

/-- A command line that gives an endpoint, and what it is read as where no variable is set. -/
structure GivesEndpoint (arguments : List String) (parsed : Arguments) (endpoint : String) :
    Prop where
  parse_eq : parse (fun _ => none) arguments = .ok parsed
  endpoint_eq : parsed.endpoint? = some endpoint

/-- **The endpoint of the command line stands above that of the variable**: whatever text the
variable holds, the same is read. -/
theorem parse_of_given {parsed : Arguments} {endpoint : String}
    (given : GivesEndpoint arguments parsed endpoint) :
    Settles standIns (.usage .notText) (parse standIns arguments) parsed := by
  obtain ⟨read, gives⟩ := given
  obtain ⟨⟨front, next?⟩, level, rest⟩ := exists_of_bind_ok read
  refine .bind (.inl level) ?_
  cases next? with
  | none =>
    obtain ⟨_, -, thrown⟩ := exists_of_bind_ok rest
    cases thrown
  | some next =>
    obtain ⟨name, arguments⟩ := next
    cases named : CommandName.ofText? name with
    | none =>
      simp only [named] at rest
      cases rest
    | some command =>
      simp only [named] at rest ⊢
      obtain ⟨behind, behindRead, rest⟩ := exists_of_bind_ok rest
      obtain ⟨ended, endsWell, same⟩ := exists_of_bind_ok rest
      have ends := endLevel_of_unset standIns (standIn?_eq none)
        (mapError_eq_ok_iff.mp endsWell)
      refine .bind (parseCommand_of_unset behindRead) (.bind (ends.mapError Stop.usage) (.inl ?_))
      cases same
      -- Only what is read of the endpoint could differ.
      have same : globalText? standIns ended behind endpointOption
          = globalText? (fun _ => none) ended behind endpointOption :=
        (globalText?_of_given gives).trans gives.symm
      rw [same]
      rfl

end

end Cli

/-- Validation that looks at the times of a configuration before it looks at the endpoint. -/
def Config.validateTimesFirst (config : Config) : Except ConfigError Config :=
  match config.plugin.zeroTime? with
  | some setting => .error (.zero setting)
  | none => config.validate

namespace Cli

/-! ## The layers below -/

/-- The file that a command line names, as it is found. -/
def Surroundings.namedFile (surroundings : Surroundings) (parsed : Arguments) : Option NamedFile :=
  parsed.config?.map fun path => ⟨path, surroundings.fileAt path⟩

/-- What the defaults, the file and the environment give together, not validated. -/
def Surroundings.layered (surroundings : Surroundings) (parsed : Arguments) :
    Except ConfigError Config := do
  return (← Config.base (surroundings.namedFile parsed)).withEnvironment surroundings.environment

section

variable {surroundings : Surroundings} {parsed : Arguments} {endpoint : String} {merged : Config}

theorem configure_of_given (layers : surroundings.layered parsed = .ok merged)
    (given : parsed.endpoint? = some endpoint) :
    configure surroundings parsed
      = (do let loaded ← merged.validate; (loaded.withEndpoint endpoint).validate) := by
  obtain ⟨below, based, same⟩ := exists_of_bind_ok layers
  cases same
  simp only [configure, given, Config.load]
  change (Config.base (surroundings.namedFile parsed) >>= _) >>= _ = _
  rw [based]
  rfl

/-- **A configuration comes out if the overridden one is valid and the endpoint below names a
socket**, and then it is the overridden one. -/
theorem configure_eq_ok_iff (layers : surroundings.layered parsed = .ok merged)
    (given : parsed.endpoint? = some endpoint) (config : Config) :
    configure surroundings parsed = .ok config
      ↔ (∃ path, merged.plugin.socketPath = .ok path)
        ∧ (merged.withEndpoint endpoint).validate = .ok config := by
  rw [configure_of_given layers given]
  constructor
  · intro found
    obtain ⟨loaded, valid, overridden⟩ := exists_of_bind_ok found
    obtain ⟨rfl, sound⟩ := Config.validate_eq_ok_iff.mp valid
    exact ⟨sound.socket, overridden⟩
  · rintro ⟨named, overridden⟩
    have sound := (Config.validate_eq_ok_iff.mp overridden).2
    -- The times are those of the overridden configuration, so only the endpoint was in question.
    rw [Config.validate_of_sound ⟨named, sound.positive⟩]
    exact overridden

/-- Where the endpoint below names a socket, what comes out is up to the overridden configuration.
-/
theorem configure_eq_validateTimesFirst (layers : surroundings.layered parsed = .ok merged)
    (given : parsed.endpoint? = some endpoint)
    (named : ∃ path, merged.plugin.socketPath = .ok path) :
    configure surroundings parsed = (merged.withEndpoint endpoint).validateTimesFirst := by
  obtain ⟨path, named⟩ := named
  have fault : merged.fault? = merged.plugin.zeroTime?.map .zero :=
    merged.fault?_withEndpoint named
  rw [configure_of_given layers given, Config.validateTimesFirst, Config.validate, fault]
  change _ = match merged.plugin.zeroTime? with
    | some setting => _
    | none => _
  cases merged.plugin.zeroTime? with
  | some setting => rfl
  | none => rfl

end

/-! ## What a command line leads to -/

/-- What a command leads to with the configuration that it gets, or without one. -/
def proceed (surroundings : Surroundings) (command : Command) : Except ConfigError Config → Outcome
  | .error error => failed surroundings (.config error)
  | .ok config =>
    match (Log.install false surroundings.environment config.logging).run with
    | .error panic => failed surroundings (.panic panic)
    | .ok (.error error) => failed surroundings (.log error)
    | .ok (.ok logger) => finished surroundings logger (carryOut surroundings config command)

theorem run_of_parse {surroundings : Surroundings} {arguments : List String} {parsed : Arguments}
    (read : parse surroundings.standIns arguments = .ok parsed) :
    run surroundings arguments
      = proceed surroundings parsed.command (configure surroundings parsed) := by
  rw [run, read]
  change (match configure surroundings parsed with
    | .error error => _
    | .ok config => _) = _
  cases configure surroundings parsed <;> rfl

/-- Two surroundings of a command line that differ at most in the endpoints below that of the
command line: that of the variable and that of the file. -/
structure Surroundings.SameButEndpoint (parsed : Arguments) (first second : Surroundings) :
    Prop where
  environment : Environment.AgreeBut endpointVariable first.environment second.environment
  file : ∃ below endpoint, Config.base (first.namedFile parsed) = .ok below
    ∧ Config.base (second.namedFile parsed) = .ok (below.withEndpoint endpoint)
  rest : ∃ environment fileAt, second = { first with environment, fileAt }

/-- Whether the endpoint that is overridden lets a command line through: its variable, if it is set,
holds a text, and what the layers give names a socket. -/
structure Surroundings.Yields (surroundings : Surroundings) (merged : Config) : Prop where
  readable : surroundings.standIns endpointVariable ≠ some none
  named : ∃ path, merged.plugin.socketPath = .ok path

end Cli

/-- Configurations are overridden alike by environments that agree but on the endpoint, once another
endpoint is put in. -/
theorem Config.withEndpoint_withEnvironment {first second : Environment}
    (agree : Environment.AgreeBut Cli.endpointVariable first second) (below : Config)
    (other endpoint : String) :
    (((below.withEndpoint other).withEnvironment second).withEndpoint endpoint)
      = (below.withEnvironment first).withEndpoint endpoint := by
  have connectTimeout := agree.number_eq "HOOKRELAY_CONNECT_TIMEOUT_MS" (by decide)
  have rpcTimeout := agree.number_eq "HOOKRELAY_RPC_TIMEOUT_MS" (by decide)
  have level := agree "HOOKRELAY_LOG_LEVEL" (by decide)
  have json := agree.truthValue_eq "HOOKRELAY_LOG_JSON" (by decide)
  simp only [withEndpoint, withEnvironment, connectTimeout, rpcTimeout, level, json]

/-- An environment that sets the endpoint alone. -/
theorem Config.withEnvironment_endpoint (below : Config) (endpoint : String) :
    below.withEnvironment [(Cli.endpointVariable, Text.encode endpoint)]
      = below.withEndpoint endpoint := by
  have text : Environment.text? [(Cli.endpointVariable, Text.encode endpoint)]
      "HOOKRELAY_PLUGIN_ENDPOINT" = some endpoint := Text.decode?_encode endpoint
  rw [withEnvironment, text]
  rfl

namespace Cli

section

variable {surroundings other : Surroundings} {arguments : List String} {parsed : Arguments}
  {endpoint : String} {merged otherMerged : Config}

theorem run_of_given (given : GivesEndpoint arguments parsed endpoint) :
    run surroundings arguments
        = proceed surroundings parsed.command (configure surroundings parsed)
      ∨ surroundings.standIns endpointVariable = some none
        ∧ run surroundings arguments = stopped surroundings (.usage .notText) := by
  rcases parse_of_given given with read | ⟨unreadable, fault⟩
  · exact .inl (run_of_parse read)
  · refine .inr ⟨unreadable, ?_⟩
    rw [run, fault]

/-- What a command leads to with a configuration is up to neither the variable for the endpoint nor
the file. -/
theorem proceed_congr (same : surroundings.SameButEndpoint parsed other) (command : Command)
    (result : Except ConfigError Config) :
    proceed other command result = proceed surroundings command result := by
  obtain ⟨agree, -, environment, fileAt, rfl⟩ := same
  cases result with
  | error fault => rfl
  | ok config =>
    have filter := agree "RUST_LOG" (by decide)
    have log : Log.install false surroundings.environment config.logging
        = Log.install false environment config.logging := by
      simp only [Log.install, Log.chooseFilter, Log.environmentFilter?, filter]
    simp only [proceed, log]
    rfl

theorem withEndpoint_of_same (same : surroundings.SameButEndpoint parsed other)
    (layers : surroundings.layered parsed = .ok merged)
    (others : other.layered parsed = .ok otherMerged) (endpoint : String) :
    otherMerged.withEndpoint endpoint = merged.withEndpoint endpoint := by
  obtain ⟨agree, ⟨below, shadowed, based, otherBased⟩, -⟩ := same
  unfold Surroundings.layered at layers others
  rw [based] at layers
  rw [otherBased] at others
  cases layers
  cases others
  exact Config.withEndpoint_withEnvironment agree below shadowed endpoint

/-- **An endpoint of the command line overrides the layers below.**  Whatever the file and the
environment say, a command gets its configuration exactly if the overridden one is valid and the
endpoint that it overrides names a socket:

* then the configuration is the overridden one;
* what the command leads to is up to what it gets as its configuration, unless the variable for the
  endpoint is no text;
* two surroundings that differ only in the endpoint below lead to the same, as long as both of them
  let the command line through. -/
theorem endpoint_overrides (given : GivesEndpoint arguments parsed endpoint)
    (layers : surroundings.layered parsed = .ok merged) :
    (∀ config, configure surroundings parsed = .ok config
        ↔ (∃ path, merged.plugin.socketPath = .ok path)
          ∧ (merged.withEndpoint endpoint).validate = .ok config)
      ∧ (∀ config, configure surroundings parsed = .ok config →
        config = merged.withEndpoint endpoint)
      ∧ (run surroundings arguments
            = proceed surroundings parsed.command (configure surroundings parsed)
          ∨ surroundings.standIns endpointVariable = some none
            ∧ run surroundings arguments = stopped surroundings (.usage .notText))
      ∧ ∀ other otherMerged, other.layered parsed = .ok otherMerged →
        surroundings.SameButEndpoint parsed other →
        surroundings.Yields merged → other.Yields otherMerged →
        run other arguments = run surroundings arguments := by
  have exactly := configure_eq_ok_iff layers given.endpoint_eq
  refine ⟨exactly, ?_, run_of_given given, ?_⟩
  · intro config found
    exact (Config.validate_eq_ok_iff.mp ((exactly config).mp found).2).1
  · intro other otherMerged others same yields otherYields
    have runs : run surroundings arguments = _ :=
      (run_of_given given).resolve_right fun unreadable => yields.readable unreadable.1
    have otherRuns : run other arguments = _ :=
      (run_of_given given).resolve_right fun unreadable => otherYields.readable unreadable.1
    rw [runs, otherRuns, proceed_congr same,
      configure_eq_validateTimesFirst layers given.endpoint_eq yields.named,
      configure_eq_validateTimesFirst others given.endpoint_eq otherYields.named,
      withEndpoint_of_same same layers others]

/-- The variable names another socket than the command line. -/
theorem endpoint_overrides_variable :
    let arguments := ["check", "--endpoint", "d.sock"]
    let plain : Surroundings := { site := { socket := "d.sock" } }
    let set : Surroundings :=
      { plain with environment := [(endpointVariable, Text.encode "unix:other.sock")] }
    let parsed : Arguments := ⟨none, some "d.sock", .check⟩
    configure set parsed = .ok (({} : Config).withEndpoint "d.sock")
      ∧ run plain arguments = run set arguments := by
  intro arguments plain set parsed
  have given : GivesEndpoint arguments parsed "d.sock" := ⟨by rfl, rfl⟩
  have layers : set.layered parsed = .ok (({} : Config).withEndpoint "unix:other.sock") :=
    congrArg Except.ok (Config.withEnvironment_endpoint {} "unix:other.sock")
  obtain ⟨exactly, -, -, independent⟩ := endpoint_overrides given layers
  refine ⟨(exactly _).mpr ⟨⟨"other.sock", by rfl⟩, by rfl⟩, ?_⟩
  refine independent plain {} rfl ⟨?_, ⟨{}, _, rfl, rfl⟩, [], fun _ => .missing, rfl⟩ ?_ ?_
  · exact Environment.agreeBut_cons endpointVariable _ []
  · refine ⟨fun unreadable => ?_, "other.sock", by rfl⟩
    have text : Text.decode? (Text.encode "unix:other.sock") = none := Option.some.inj unreadable
    rw [Text.decode?_encode] at text
    cases text
  · exact ⟨nofun, "/run/crane/cplugind.sock", by rfl⟩

/-- A variable that names no socket keeps a command from the socket of the command line. -/
theorem overridden_endpoint_refused :
    let surroundings : Surroundings :=
      { environment := [(endpointVariable, Text.encode "http://bad")]
        site := { socket := "d.sock" } }
    let parsed : Arguments := ⟨none, some "d.sock", .check⟩
    GivesEndpoint ["check", "--endpoint", "d.sock"] parsed "d.sock"
      ∧ surroundings.layered parsed = .ok (({} : Config).withEndpoint "http://bad")
      ∧ ((({} : Config).withEndpoint "http://bad").withEndpoint "d.sock").validate
        = .ok (({} : Config).withEndpoint "d.sock")
      ∧ configure surroundings parsed = .error (.foreignScheme "http://bad") := by
  intro surroundings parsed
  have layers : surroundings.layered parsed = .ok (({} : Config).withEndpoint "http://bad") :=
    congrArg Except.ok (Config.withEnvironment_endpoint {} "http://bad")
  have refused : (({} : Config).withEndpoint "http://bad").validate
      = .error (.foreignScheme "http://bad") := rfl
  refine ⟨⟨rfl, rfl⟩, layers, rfl, ?_⟩
  rw [configure_of_given layers rfl, refused]
  rfl

end

end Cli

end JobHooks
