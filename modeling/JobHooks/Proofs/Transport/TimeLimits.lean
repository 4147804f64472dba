import JobHooks.Delivery.Settings
import JobHooks.Proofs.Config.Validity
import JobHooks.Proofs.Transport.Delivery

/-!
# The time limits of calls

A time limit `Rounds` a time if it falls short of it by less than one of its units, has at most
eight digits, and no finer unit would do.  `TimeLimit.ofMilliseconds?_eq_some_iff` says that the
limit of a call is the one that rounds the configured time, and
`TimeLimit.ofMilliseconds?_eq_none_iff` from which time on there is none.  What travels can be read
back (`TimeLimit.ofText?_text`).

Validation does not ask for a time limit that can be expressed.  `Transport.call_of_validate` says
what becomes of a call under a valid configuration: below the bound the request is made with the
limit that rounds the configured time, and from the bound on the caller panics.
-/

namespace JobHooks

set_option autoImplicit false

namespace Rpc

/-! ## Units -/

/-- The unit that a letter stands for. -/
def TimeUnit.ofLetter? (letter : Char) : Option TimeUnit :=
  TimeUnit.all.find? fun unit => unit.letter == letter

theorem TimeUnit.ofLetter?_letter (unit : TimeUnit) : ofLetter? unit.letter = some unit := by
  cases unit <;> rfl

theorem TimeUnit.mem_all (unit : TimeUnit) : unit ∈ TimeUnit.all := by
  cases unit <;> decide

theorem TimeUnit.nanoseconds_pos (unit : TimeUnit) : 0 < unit.nanoseconds := by
  cases unit <;> decide

theorem TimeUnit.pairwise_all : TimeUnit.all.Pairwise (·.nanoseconds < ·.nanoseconds) := by
  decide

theorem TimeUnit.nanoseconds_le_hour (unit : TimeUnit) :
    unit.nanoseconds ≤ hour.nanoseconds := by
  cases unit <;> decide

namespace TimeLimit

/-! ## The text of a time limit -/

/-- The time limit that a text stands for: up to eight digits, and the letter of a unit. -/
def ofText? (text : String) : Option TimeLimit :=
  let digits := text.toList.dropLast
  if digits ≠ [] ∧ digits.length ≤ 8 ∧ digits.all Char.isDigit = true then do
    let unit ← TimeUnit.ofLetter? (← text.toList.getLast?)
    return ⟨Nat.ofDigitChars 10 digits 0, unit⟩
  else none

theorem toList_text (limit : TimeLimit) :
    limit.text.toList = Nat.toDigits 10 limit.amount ++ [limit.unit.letter] := by
  simp [text]

theorem length_digits_le_iff (limit : TimeLimit) :
    (Nat.toDigits 10 limit.amount).length ≤ 8 ↔ limit.amount ≤ greatestAmount := by
  rw [Nat.length_toDigits_le_iff (by decide) (by decide), greatestAmount]
  omega

/-- **A time limit can be read off its text if its amount is short enough.** -/
theorem ofText?_text {limit : TimeLimit} (short : limit.amount ≤ greatestAmount) :
    ofText? limit.text = some limit := by
  have digits : ∀ digit ∈ Nat.toDigits 10 limit.amount, digit.isDigit = true :=
    fun digit member => Nat.isDigit_of_mem_toDigits (by decide) (by decide) member
  simp only [ofText?, toList_text, List.dropLast_concat, List.getLast?_concat]
  rw [if_pos ⟨Nat.toDigits_ne_nil, limit.length_digits_le_iff.mpr short,
    List.all_eq_true.mpr digits⟩]
  simp [TimeUnit.ofLetter?_letter, Nat.ofDigitChars_toDigits]

/-! ## Rounding -/

/-- A time limit is what is left of a time when it is cut off to units, the finest ones in which it
has no more than eight digits. -/
structure Rounds (limit : TimeLimit) (nanoseconds : Nat) : Prop where
  short : limit.amount ≤ greatestAmount
  atMost : limit.nanoseconds ≤ nanoseconds
  near : nanoseconds < limit.nanoseconds + limit.unit.nanoseconds
  finest : ∀ unit : TimeUnit, unit.nanoseconds < limit.unit.nanoseconds →
    greatestAmount < nanoseconds / unit.nanoseconds

theorem inUnit?_eq_none_iff {nanoseconds : Nat} {unit : TimeUnit} :
    inUnit? nanoseconds unit = none ↔ greatestAmount < nanoseconds / unit.nanoseconds := by
  simp [inUnit?]

theorem inUnit?_eq_some_iff {nanoseconds : Nat} {unit : TimeUnit} {limit : TimeLimit} :
    inUnit? nanoseconds unit = some limit
      ↔ limit.unit = unit ∧ limit.amount ≤ greatestAmount
        ∧ limit.amount = nanoseconds / unit.nanoseconds := by
  obtain ⟨amount, given⟩ := limit
  by_cases short : nanoseconds / unit.nanoseconds ≤ greatestAmount
  · simp only [inUnit?, if_pos short, Option.some.injEq, TimeLimit.mk.injEq]
    constructor
    · rintro ⟨rfl, rfl⟩
      exact ⟨rfl, short, rfl⟩
    · rintro ⟨rfl, -, same⟩
      exact ⟨same.symm, rfl⟩
  · simp only [inUnit?, if_neg short]
    constructor
    · intro absurdity
      cases absurdity
    · rintro ⟨-, few, rfl⟩
      exact absurd few short

/-- The amount of a limit that rounds a time down is the number of whole units. -/
theorem amount_eq_iff {limit : TimeLimit} {nanoseconds : Nat} :
    limit.amount = nanoseconds / limit.unit.nanoseconds
      ↔ limit.nanoseconds ≤ nanoseconds
        ∧ nanoseconds < limit.nanoseconds + limit.unit.nanoseconds := by
  have next : limit.nanoseconds + limit.unit.nanoseconds
      = (limit.amount + 1) * limit.unit.nanoseconds := (Nat.succ_mul _ _).symm
  rw [eq_comm, Nat.div_eq_iff limit.unit.nanoseconds_pos]
  have positive := limit.unit.nanoseconds_pos
  rw [next, TimeLimit.nanoseconds, Nat.succ_mul]
  omega

/-- **The limit that is found is the one that rounds the time.** -/
theorem findSome?_inUnit?_eq_some_iff {nanoseconds : Nat} {limit : TimeLimit} :
    TimeUnit.all.findSome? (inUnit? nanoseconds) = some limit ↔ limit.Rounds nanoseconds := by
  rw [List.findSome?_eq_some_iff]
  constructor
  · rintro ⟨finer, unit, coarser, whole, found, refused⟩
    obtain ⟨rfl, short, amount⟩ := inUnit?_eq_some_iff.mp found
    obtain ⟨atMost, near⟩ := amount_eq_iff.mp amount
    refine ⟨short, atMost, near, fun other less => ?_⟩
    have sorted := whole ▸ TimeUnit.pairwise_all
    have member := whole ▸ other.mem_all
    -- a finer unit stands in front of the one that was taken, since the units are sorted
    obtain early | rfl | late := by simpa using member
    · exact inUnit?_eq_none_iff.mp (refused other early)
    · exact absurd less (Nat.lt_irrefl _)
    · have greater := (List.pairwise_cons.mp (List.pairwise_append.mp sorted).2.1).1 other late
      exact absurd less (Nat.lt_asymm greater)
  · intro rounds
    obtain ⟨finer, coarser, whole⟩ := List.append_of_mem limit.unit.mem_all
    refine ⟨finer, limit.unit, coarser, whole, ?_, fun other early => ?_⟩
    · exact inUnit?_eq_some_iff.mpr
        ⟨rfl, rounds.short, amount_eq_iff.mpr ⟨rounds.atMost, rounds.near⟩⟩
    · have sorted := whole ▸ TimeUnit.pairwise_all
      have less := (List.pairwise_append.mp sorted).2.2 other early _ List.mem_cons_self
      exact inUnit?_eq_none_iff.mpr (rounds.finest other less)

/-- The least number of milliseconds that no time limit can express: so many hours take nine digits.
-/
def leastInexpressible : Nat := 100000000 * (60 * 60 * 1000)

/-- **The limit of a call rounds the time that was asked for.** -/
theorem ofMilliseconds?_eq_some_iff {milliseconds : Nat} {limit : TimeLimit} :
    ofMilliseconds? milliseconds = some limit ↔ limit.Rounds (milliseconds * 1000000) := by
  rw [ofMilliseconds?, findSome?_inUnit?_eq_some_iff]

/-- There is no limit if hours, the coarsest units, are too fine. -/
theorem ofMilliseconds?_eq_none_iff_hours {milliseconds : Nat} :
    ofMilliseconds? milliseconds = none
      ↔ greatestAmount < milliseconds * 1000000 / TimeUnit.hour.nanoseconds := by
  rw [ofMilliseconds?, List.findSome?_eq_none_iff]
  constructor
  · intro refused
    exact inUnit?_eq_none_iff.mp (refused .hour (TimeUnit.mem_all _))
  · intro many unit _
    apply inUnit?_eq_none_iff.mpr
    exact Nat.lt_of_lt_of_le many
      (Nat.div_le_div_left unit.nanoseconds_le_hour unit.nanoseconds_pos)

/-- **There is a limit for any time below the bound, and for no other.** -/
theorem ofMilliseconds?_eq_none_iff {milliseconds : Nat} :
    ofMilliseconds? milliseconds = none ↔ leastInexpressible ≤ milliseconds := by
  rw [ofMilliseconds?_eq_none_iff_hours]
  simp only [greatestAmount, TimeUnit.nanoseconds, leastInexpressible]
  omega

/-- The next finer unit is so near that one of a unit can be told in it. -/
theorem exists_finer {unit : TimeUnit} (coarse : unit ≠ .nanosecond) :
    ∃ finer : TimeUnit, finer.nanoseconds < unit.nanoseconds
      ∧ unit.nanoseconds ≤ finer.nanoseconds * greatestAmount := by
  cases unit with
  | nanosecond => exact absurd rfl coarse
  | microsecond => exact ⟨.nanosecond, by decide⟩
  | millisecond => exact ⟨.microsecond, by decide⟩
  | second => exact ⟨.millisecond, by decide⟩
  | minute => exact ⟨.second, by decide⟩
  | hour => exact ⟨.minute, by decide⟩

/-- A time that is not zero leaves a limit that is not zero. -/
theorem Rounds.amount_pos {limit : TimeLimit} {nanoseconds : Nat}
    (rounds : limit.Rounds nanoseconds) (positive : 0 < nanoseconds) : 0 < limit.amount := by
  obtain ⟨amount, unit⟩ := limit
  obtain ⟨-, -, near, finest⟩ := rounds
  apply Nat.pos_of_ne_zero
  rintro rfl
  simp only [TimeLimit.nanoseconds, Nat.zero_mul, Nat.zero_add] at near finest
  by_cases coarse : unit = .nanosecond
  · subst coarse
    simp only [TimeUnit.nanoseconds] at near
    omega
  · -- less than one unit is few of the unit that is a little finer
    obtain ⟨finer, less, few⟩ := exists_finer coarse
    have short : nanoseconds / finer.nanoseconds < greatestAmount :=
      Nat.div_lt_of_lt_mul (Nat.lt_of_lt_of_le near few)
    exact absurd (finest finer less) (Nat.lt_asymm short)

theorem exists_rounds {milliseconds : Nat} (less : milliseconds < leastInexpressible) :
    ∃ limit : TimeLimit, limit.Rounds (milliseconds * 1000000) := by
  cases found : ofMilliseconds? milliseconds with
  | none => exact absurd (ofMilliseconds?_eq_none_iff.mp found) (Nat.not_le.mpr less)
  | some limit => exact ⟨limit, ofMilliseconds?_eq_some_iff.mp found⟩

end TimeLimit

/-! ## Panics -/

/-- The panic of a caller whose time limit cannot be expressed. -/
def unrealistic : Panic := ⟨"duration is unrealistically large"⟩

/-- The time limit of a call, where limits are found in some way. -/
def limitBy (find? : Nat → Option TimeLimit) (timeout : Option Nat) :
    Except Panic (Option TimeLimit) :=
  match timeout with
  | none => .ok none
  | some milliseconds =>
    match find? milliseconds with
    | some limit => .ok (some limit)
    | none => .error ⟨"duration is unrealistically large"⟩

-- The way is kept apart, since the kernel would otherwise search for a unit of an unknown time.
theorem limitOf_eq (timeout : Option Nat) :
    limitOf timeout = limitBy TimeLimit.ofMilliseconds? timeout := by
  delta limitOf limitBy
  rfl

theorem limitBy_of_some {find? : Nat → Option TimeLimit} {milliseconds : Nat} {limit : TimeLimit}
    (found : find? milliseconds = some limit) :
    limitBy find? (some milliseconds) = .ok (some limit) := by
  simp only [limitBy, found]

theorem limitBy_of_none {find? : Nat → Option TimeLimit} {milliseconds : Nat}
    (missing : find? milliseconds = none) :
    limitBy find? (some milliseconds) = .error unrealistic := by
  simp only [limitBy, missing, unrealistic]

theorem limitOf_of_rounds {milliseconds : Nat} {limit : TimeLimit}
    (rounds : limit.Rounds (milliseconds * 1000000)) :
    limitOf (some milliseconds) = .ok (some limit) := by
  rw [limitOf_eq]
  exact limitBy_of_some (TimeLimit.ofMilliseconds?_eq_some_iff.mpr rounds)

/-- **From the bound on, the caller panics.** -/
theorem limitOf_of_le {milliseconds : Nat} (many : TimeLimit.leastInexpressible ≤ milliseconds) :
    limitOf (some milliseconds) = .error unrealistic := by
  rw [limitOf_eq]
  exact limitBy_of_none (TimeLimit.ofMilliseconds?_eq_none_iff.mpr many)

end Rpc

/-! ## Calls under a valid configuration -/

/-- The context with which a call begins under a configuration. -/
def Config.callContext (config : Config) : CallContext :=
  .fresh (DeliverySettings.ofConfig config.plugin).rpcTimeout

/-- A configuration with another limit on calls. -/
def Config.withRpcTimeout (config : Config) (time : UInt64) : Config :=
  { config with plugin := { config.plugin with rpcTimeoutMs := some time } }

theorem Config.timeout_callContext (config : Config) :
    config.callContext.timeout = config.plugin.rpcTimeoutMs.map UInt64.toNat := rfl

/-- **Validation does not ask for a limit on calls that can be expressed**, only for one that is not
zero. -/
theorem Config.validate_withRpcTimeout {config : Config} (sound : config.plugin.Sound)
    {time : UInt64} (many : Rpc.TimeLimit.leastInexpressible ≤ time.toNat) :
    (config.withRpcTimeout time).validate = .ok (config.withRpcTimeout time) := by
  apply Config.validate_of_sound
  apply sound.withRpcTimeout
  rintro rfl
  simp [Rpc.TimeLimit.leastInexpressible] at many

namespace Transport

open Rpc (TimeLimit Request unrealistic)

variable {σ ρ : Type} {link : Link σ ρ} {transport : Transport σ}

/-- A call sends the request for its payload over the channel, with a time limit or without one. -/
def Sends (link : Link σ ρ) (transport : Transport σ) (context : CallContext) (payload : Payload)
    (reply : ρ) (limit? : Option TimeLimit) : Prop :=
  transport.call link context payload reply
    = conclude link.socketPath context reply
      (link.exchange payload.hookType (.ofPayload limit? payload) transport.beyond)

/-- A call panics before anything is sent. -/
def Refuses (link : Link σ ρ) (transport : Transport σ) (context : CallContext) (payload : Payload)
    (reply : ρ) : Prop :=
  transport.call link context payload reply
    = { answer := .error unrealistic, context, reply, next := transport }

theorem mem_headers (limit : TimeLimit) (payload : Payload) :
    ("grpc-timeout", limit.text) ∈ (Request.ofPayload (some limit) payload).headers := by
  simp [Request.headers, Request.ofPayload]

/-- A call that must not take so long panics. -/
theorem refuses_of_le {context : CallContext} {milliseconds : Nat}
    (channel : transport.hasChannel = true) (set : context.timeout = some milliseconds)
    (many : TimeLimit.leastInexpressible ≤ milliseconds) (payload : Payload) (reply : ρ) :
    Refuses link transport context payload reply := by
  apply call_of_inexpressible channel
  rw [set]
  exact Rpc.limitOf_of_le many

/-- **What becomes of a call under a valid configuration**: without a limit, or with one below the
bound, the request is sent, and the limit that travels in front of it rounds the configured time.
But any limit from the bound on is just as valid, and every call under it panics. -/
theorem call_of_validate (link : Link σ ρ) {config accepted : Config}
    (valid : config.validate = .ok accepted) (channel : transport.hasChannel = true)
    (payload : Payload) (reply : ρ) :
    (accepted.plugin.rpcTimeoutMs = none →
        Sends link transport accepted.callContext payload reply none)
      ∧ (∀ time, accepted.plugin.rpcTimeoutMs = some time →
          time.toNat < TimeLimit.leastInexpressible →
          ∃ limit : TimeLimit,
            Sends link transport accepted.callContext payload reply (some limit)
              ∧ ("grpc-timeout", limit.text)
                ∈ (Request.ofPayload (some limit) payload).headers
              ∧ TimeLimit.ofText? limit.text = some limit
              ∧ 0 < limit.amount ∧ limit.Rounds (time.toNat * 1000000))
      ∧ ∀ time : UInt64, TimeLimit.leastInexpressible ≤ time.toNat →
          (accepted.withRpcTimeout time).validate = .ok (accepted.withRpcTimeout time)
            ∧ Refuses link transport (accepted.withRpcTimeout time).callContext payload reply := by
  obtain ⟨rfl, sound⟩ := Config.validate_eq_ok_iff.mp valid
  refine ⟨fun unset => ?_, fun time set less => ?_, fun time many => ⟨?_, ?_⟩⟩
  · apply call_of_channel channel
    rw [Config.timeout_callContext, unset]
    rfl
  · obtain ⟨limit, rounds⟩ := TimeLimit.exists_rounds less
    have positive : 0 < time.toNat * 1000000 := by
      have ne : time.toNat ≠ 0 := by
        simpa [← UInt64.toNat_inj] using sound.rpcTimeout_ne_zero set
      omega
    refine ⟨limit, ?_, mem_headers limit payload, TimeLimit.ofText?_text rounds.short,
      rounds.amount_pos positive, rounds⟩
    apply call_of_channel channel
    rw [Config.timeout_callContext, set]
    exact Rpc.limitOf_of_rounds rounds
  · exact Config.validate_withRpcTimeout sound many
  · exact refuses_of_le channel rfl many payload reply

/-- Under a limit of two and a half seconds a call travels with as many microseconds. -/
theorem call_of_validate_seconds :
    let config := ({} : Config).withRpcTimeout 2500
    let open_ : Transport Nat := { beyond := 0, hasChannel := true }
    let limit : TimeLimit := ⟨2500000, .microsecond⟩
    config.validate = .ok config ∧ open_.hasChannel = true ∧ config.plugin.rpcTimeoutMs = some 2500
      ∧ Sends flapping open_ config.callContext (.start []) () (some limit)
      ∧ TimeLimit.ofText? limit.text = some limit ∧ limit.Rounds (2500 * 1000000) := by
  intro config open_ limit
  have valid : config.validate = .ok config :=
    Config.validate_of_sound (PluginConfig.sound_default.withRpcTimeout (by decide))
  have channel : open_.hasChannel = true := rfl
  obtain ⟨-, limited, -⟩ := call_of_validate flapping valid channel (.start []) ()
  obtain ⟨found, sent, -, read, -, rounds⟩ := limited 2500 rfl (by decide)
  obtain rfl : limit = found := by
    have same : TimeLimit.ofMilliseconds? 2500 = some found :=
      TimeLimit.ofMilliseconds?_eq_some_iff.mpr rounds
    exact Option.some.inj same
  exact ⟨valid, rfl, rfl, sent, read, rounds⟩

/-- The least limit that cannot be expressed is valid, yet a call under it panics. -/
theorem valid_call_panics :
    let config := ({} : Config).withRpcTimeout 360000000000000
    let open_ : Transport Nat := { beyond := 0, hasChannel := true }
    config.validate = .ok config ∧ open_.hasChannel = true
      ∧ (open_.call flapping config.callContext (.start []) ()).answer
        = .error ⟨"duration is unrealistically large"⟩ := by
  intro config open_
  have refused : Refuses flapping open_ config.callContext (.start []) () :=
    refuses_of_le rfl rfl (Nat.le_refl _) (.start []) ()
  refine ⟨Config.validate_withRpcTimeout PluginConfig.sound_default (Nat.le_refl _), rfl, ?_⟩
  rw [refused]
  rfl

end Transport

/-- **A call that panics is the last one**: the worker dies with its batch, and nothing was sent. -/
theorem Worker.sendInOrder_of_inexpressible {σ ρ : Type} [Inhabited ρ] {link : Link σ ρ}
    {settings : DeliverySettings} {worker : Worker (Transport σ)} {milliseconds : Nat}
    (channel : worker.daemon.hasChannel = true)
    (set : settings.rpcTimeout = some milliseconds)
    (many : Rpc.TimeLimit.leastInexpressible ≤ milliseconds) (event : Event) (rest : List Event)
    (sent rejected : Nat) :
    let progress :=
      sendInOrder (Transport.daemon link) settings (event :: rest) sent rejected worker
    progress.outcome = .error Rpc.unrealistic ∧ progress.worker.daemon = worker.daemon := by
  have refused : Transport.Refuses link worker.daemon (.fresh settings.rpcTimeout) event.payload
      default :=
    Transport.refuses_of_le channel set many event.payload default
  have answer : (reaction (Transport.daemon link) settings event worker).answer
      = .error Rpc.unrealistic := by
    rw [Transport.reaction_daemon, Transport.callReaction, refused]
  rw [sendInOrder_of_panic rest sent rejected answer]
  refine ⟨rfl, ?_⟩
  rw [called, daemon_absorb, Transport.reaction_daemon, Transport.callReaction, refused]

end JobHooks
