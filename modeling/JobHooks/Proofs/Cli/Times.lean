import JobHooks.Proofs.Cli.Command
import JobHooks.Proofs.Transport.Received
import JobHooks.Proofs.Wire.Requests

/-!
# The times of a command

A command that tells of ended jobs reckons with three times.  It takes the seconds since the start
from its reading of the clock, and the client takes that start from a later reading.  Both are
numbers of 64 bits, and both differences may wrap around.  What is wrong with the start is made good
by the second difference, so the elapsed time is right whenever it has a number
(`Cli.toInt_elapsed`).

The third time is the moment until which delivery is waited for.  Where the clock cannot tell it the
command panics, though its client has started and the event is handed over
(`Cli.send_panics_iff`).  It does not wait then, but it still shuts its client down, whose worker
may deliver the event.  Whether the command panics or not, what the daemon receives is the event
with these times, and nothing else (`Cli.finish_reckons`).
-/

namespace JobHooks

set_option autoImplicit false

namespace Cli

/-! ## Start and elapsed time -/

/-- The start of jobs is the difference if that has a number, and otherwise another one. -/
theorem toInt_startStamp {now secondsAgo : Int64} (known : 0 ≤ now.toInt) :
    (startStamp now secondsAgo).seconds.toInt = now.toInt - secondsAgo.toInt
      ↔ now.toInt - secondsAgo.toInt < 0x8000000000000000 := by
  have ago := secondsAgo.toInt_lt
  constructor
  · intro same
    rw [← same]
    exact Int64.toInt_lt _
  · intro short
    rw [startStamp, Int64.toInt_sub]
    exact Int.bmod_eq_of_le (by omega) (by omega)

/-- **The elapsed time is right whenever it has a number**, even if the start has none. -/
theorem toInt_elapsed {now later secondsAgo : Int64}
    (least : -0x8000000000000000 ≤ secondsAgo.toInt + (later.toInt - now.toInt))
    (greatest : secondsAgo.toInt + (later.toInt - now.toInt) < 0x8000000000000000) :
    (later - (startStamp now secondsAgo).seconds).toInt
      = secondsAgo.toInt + (later.toInt - now.toInt) := by
  have same : later.toInt - (now.toInt - secondsAgo.toInt)
      = secondsAgo.toInt + (later.toInt - now.toInt) := by omega
  rw [startStamp, Int64.toInt_sub, Int64.toInt_sub, Int.sub_bmod_bmod, same]
  exact Int.bmod_eq_of_le (by omega) (by omega)

/-! ## The moment until which delivery is waited for -/

section

variable {surroundings : Surroundings} {plugin : PluginConfig} {payload : Payload}
  {drainSeconds : UInt64}

theorem send_of_unnamed {error : ConfigError} (unnamed : plugin.socketPath = .error error) :
    send surroundings plugin payload drainSeconds
      = { failure? := some (.setup plugin.endpoint error), site := surroundings.site } := by
  simp only [send, Client.connect, Site.linkOf, unnamed]
  rfl

theorem isTellable_eq_false_iff {uptime : Nat} :
    isTellable uptime drainSeconds = false
      ↔ 0x8000000000000000 ≤ uptime + drainSeconds.toNat := by
  rw [isTellable, decide_eq_false_iff_not, Nat.not_lt]

variable (surroundings plugin payload drainSeconds) in
/-- **A command that sends a hook panics if the clock cannot tell until when to wait, and only
then.** -/
theorem send_panics_iff :
    (∃ panic, (send surroundings plugin payload drainSeconds).failure? = some (.panic panic))
      ↔ (∃ path, plugin.socketPath = .ok path)
        ∧ 0x8000000000000000 ≤ surroundings.uptime + drainSeconds.toNat := by
  cases named : plugin.socketPath with
  | error error =>
    rw [send_of_unnamed named]
    simp
  | ok path =>
    rw [← isTellable_eq_false_iff, and_iff_right ⟨path, rfl⟩]
    cases tellable : isTellable surroundings.uptime drainSeconds with
    | false =>
      obtain ⟨schedule, -, -, -, failure, -⟩ :=
        send_of_untellable surroundings named payload tellable
      rw [failure]
      simp
    | true =>
      obtain ⟨schedule, sample, -, -, failure, -⟩ :=
        send_eq_session surroundings named payload tellable
      rw [failure, Sample.failure?]
      split <;> simp

end

/-! ## What the daemon receives -/

/-- In a session the site receives requests for the payload and for nothing else, and one at least
if the event is accepted. -/
theorem Session.exists_requested (path : String) (settings : DeliverySettings) (site : Site)
    (payload : Payload) (schedule : List Move) :
    let daemon := Transport.daemon (Site.link path)
    let session : Session (Transport Site) :=
      (start settings { beyond := site } payload).run daemon settings schedule
    session.stage ≠ .submitting →
      ∃ requests, session.machine.worker.daemon.beyond.received = site.received ++ requests
        ∧ (∀ request ∈ requests, request.IsFor payload)
        ∧ (event payload ∈ session.machine.accepted → requests ≠ []) := by
  intro daemon session handed
  obtain ⟨turns, same⟩ := exists_machine_run daemon settings schedule
    (start settings { beyond := site } payload)
  obtain ⟨requests, requested⟩ := Machine.exists_requested path settings { beyond := site }
    (fun who => if who = 0 then [payload] else []) turns
  have whole : session.machine.Requested site.received requests := by
    rw [same]
    exact requested
  have alone : session.Alone payload := (alone_start settings _ payload).run _ settings schedule
  refine ⟨requests, whole.received_eq, ?_, ?_⟩
  · intro request member
    obtain ⟨event, known, carries⟩ := whole.of_handedOver request member
    rw [alone.handedOver_of_handed handed, List.mem_singleton] at known
    rw [known] at carries
    exact carries
  · intro accepted
    obtain ⟨request, member, -⟩ := whole.of_accepted _ accepted
    exact List.ne_nil_of_mem member

/-- A command whose client can be set up leaves behind what a session leaves, whether it panics or
not, and succeeds only if its event was accepted. -/
theorem exists_session (surroundings : Surroundings) {plugin : PluginConfig} {path : String}
    (named : plugin.socketPath = .ok path) (payload : Payload) (drainSeconds : UInt64) :
    let settings := DeliverySettings.ofConfig plugin
    let result := send surroundings plugin payload drainSeconds
    ∃ schedule,
      let session : Session (Transport Site) :=
        (Session.start settings { beyond := surroundings.site }
          (payload.stamped surroundings.later)).run (Transport.daemon (Site.link path)) settings
            schedule
      session.stage ≠ .submitting
        ∧ result.site = session.machine.worker.daemon.beyond
        ∧ (result.failure? = none →
          Session.event (payload.stamped surroundings.later) ∈ session.machine.accepted) := by
  intro settings result
  cases tellable : isTellable surroundings.uptime drainSeconds with
  | false =>
    obtain ⟨schedule, waiting, -, -, failure, site⟩ :=
      send_of_untellable surroundings named payload tellable
    refine ⟨schedule, ?_, site, fun succeeds => ?_⟩
    · rw [waiting]
      nofun
    · exact absurd (failure.symm.trans succeeds) (Option.some_ne_none _)
  | true =>
    obtain ⟨schedule, sample, ended, -, failure, site⟩ :=
      send_eq_session surroundings named payload tellable
    refine ⟨schedule, ?_, site, fun succeeds => ?_⟩
    · rw [ended]
      nofun
    · exact Session.accepted_of_done ended (failure.symm.trans succeeds)

/-- **What a command sends is its payload, stamped when it is handed over**, and it does not succeed
without having sent it. -/
theorem exists_received (surroundings : Surroundings) (plugin : PluginConfig) (payload : Payload)
    (drainSeconds : UInt64) :
    let result := send surroundings plugin payload drainSeconds
    ∃ requests, result.site.received = surroundings.site.received ++ requests
      ∧ (∀ request ∈ requests, request.IsFor (payload.stamped surroundings.later))
      ∧ (result.failure? = none → requests ≠ []) := by
  intro result
  cases named : plugin.socketPath with
  | error error =>
    have same : result = _ := send_of_unnamed named
    rw [same]
    exact ⟨[], (List.append_nil _).symm, fun _ member => absurd member List.not_mem_nil, nofun⟩
  | ok path =>
    obtain ⟨schedule, handed, site, accepted⟩ :=
      exists_session surroundings named payload drainSeconds
    obtain ⟨requests, received, only, some⟩ :=
      Session.exists_requested path _ surroundings.site _ schedule handed
    exact ⟨requests, (congrArg Site.received site).trans received, only,
      fun succeeds => some (accepted succeeds)⟩

/-- **The times of ended jobs**, whatever the arguments of the command are and whatever the clock
shows whenever it is read.

* The command panics if the clock cannot tell the moment until which delivery is waited for, and
  only then.  By that time the event has been handed over, and nothing is reported about it.
* The start of the jobs is the difference between now and the seconds since then, exactly if that
  has a number.
* Their elapsed time is these seconds and those that have passed between the two readings of the
  clock, whenever that has a number, also where the start has none.
* All that the daemon receives of the command, also of one that panics, is the event with these
  times, and a command that succeeds has sent it. -/
theorem finish_reckons (surroundings : Surroundings) (config : Config) (jobIds : List UInt32)
    (secondsAgo : Int64) (drainSeconds : UInt64) :
    let result := carryOut surroundings config (.finish jobIds secondsAgo drainSeconds)
    let began := surroundings.now.toInt - secondsAgo.toInt
    let passed := secondsAgo.toInt + (surroundings.later.toInt - surroundings.now.toInt)
    ((∃ panic, result.failure? = some (.panic panic))
        ↔ (∃ path, config.plugin.socketPath = .ok path)
          ∧ 0x8000000000000000 ≤ surroundings.uptime + drainSeconds.toNat)
      ∧ (∀ panic, result.failure? = some (.panic panic) →
        .enqueued .finish ∈ result.notices ∧ result.lines = [])
      ∧ ∃ start elapsed : Int64,
        (0 ≤ surroundings.now.toInt → (start.toInt = began ↔ began < 0x8000000000000000))
          ∧ (-0x8000000000000000 ≤ passed → passed < 0x8000000000000000 → elapsed.toInt = passed)
          ∧ let jobs : List JobInfo := jobIds.map fun id =>
              { id, startTime := some ⟨start, 0⟩, elapsedTime := some ⟨elapsed, 0⟩ }
            ∃ requests, result.site.received = surroundings.site.received ++ requests
              ∧ (∀ request ∈ requests, request.IsFor (.finish jobs)
                ∧ ((Payload.finish jobs).message.length < 0x100000000 →
                  request.read? = some (.finish jobs)))
              ∧ (result.failure? = none → requests ≠ []) := by
  intro result began passed
  let start := (startStamp surroundings.now secondsAgo).seconds
  let elapsed := surroundings.later - start
  let jobs : List JobInfo := jobIds.map fun id => { id, startTime := some ⟨start, 0⟩ }
  have sent : result = send surroundings config.plugin (.finish jobs) drainSeconds := rfl
  have stamped : (Payload.finish jobs).stamped surroundings.later
      = .finish (jobIds.map fun id =>
        { id, startTime := some ⟨start, 0⟩, elapsedTime := some ⟨elapsed, 0⟩ }) := by
    rw [Payload.stamped, List.map_map]
    rfl
  have panics := send_panics_iff surroundings config.plugin (.finish jobs) drainSeconds
  rw [sent]
  refine ⟨panics, ?_, start, elapsed, toInt_startStamp, toInt_elapsed, ?_⟩
  · intro panic failed
    obtain ⟨⟨path, named⟩, far⟩ := panics.mp ⟨panic, failed⟩
    obtain ⟨schedule, -, handedOver, silent, -⟩ := send_of_untellable surroundings named
      (.finish jobs) (isTellable_eq_false_iff.mpr far)
    exact ⟨handedOver, silent⟩
  · obtain ⟨requests, received, only, some⟩ :=
      exists_received surroundings config.plugin (.finish jobs) drainSeconds
    rw [stamped] at only
    refine ⟨requests, received, fun request member => ⟨only request member, fun fits => ?_⟩, some⟩
    obtain ⟨limit?, rfl⟩ := only request member
    exact Payload.read?_ofPayload limit? fits

/-- A job that has run for five seconds ends, and three more pass until the client is told. -/
theorem finish_reckons_prompt :
    let surroundings : Surroundings :=
      { site := { socket := "d", listening := true }, now := 100, later := 103 }
    let config : Config := { plugin := { endpoint := "unix:d" } }
    let result := carryOut surroundings config (.finish [1] 5 60)
    let job : JobInfo := { id := 1, startTime := some ⟨95, 0⟩, elapsedTime := some ⟨8, 0⟩ }
    result.failure? = none
      ∧ result.site.received ≠ []
      ∧ (∀ request ∈ result.site.received, request.read? = some (.finish [job]))
      ∧ .enqueued .finish ∈ (carryOut surroundings config (.finish [1] 5 ⟨-1⟩)).notices := by
  intro surroundings config result job
  have succeeds : (carryOut
      { site := { socket := "d", listening := true }, now := 100, later := 103 }
      { plugin := { endpoint := "unix:d" } } (.finish [1] 5 60)).failure? = none := by
    have named : ({ endpoint := "unix:d" } : PluginConfig).socketPath = .ok "d" := rfl
    simp only [carryOut, Command.hook?, send, connect_of_socketPath named, Site.link,
      Site.dial_of_entry Path.entry?_letter]
    decide +kernel
  obtain ⟨-, -, start, elapsed, begins, passes, requests, received, read, some⟩ :=
    finish_reckons surroundings config [1] 5 60
  obtain ⟨-, handedOver, -⟩ := finish_reckons surroundings config [1] 5 ⟨-1⟩
  have atStart : start = 95 := Int64.toInt_inj.mp ((begins (by decide)).mpr (by decide))
  have since : elapsed = 8 := Int64.toInt_inj.mp (passes (by decide) (by decide))
  subst atStart since
  have fits : (Payload.finish [job]).message.length < 0x100000000 := by
    rw [Payload.length_message]
    decide
  have all : result.site.received = requests := received
  rw [all]
  exact ⟨succeeds, some succeeds, fun request member => (read request member).2 fits,
    (handedOver clockOverflow (by decide)).1⟩

/-- A time that is valid on the command line but lies too far ahead: the command panics and prints
nothing, but the daemon receives the event while the client is shut down. -/
theorem far_drain_panics :
    let surroundings : Surroundings := { site := { socket := "d", listening := true } }
    let config : Config := { plugin := { endpoint := "unix:d" } }
    let result := carryOut surroundings config (.finish [1] 5 ⟨-1⟩)
    config.validate = .ok config ∧ surroundings.uptime = 0
      ∧ result.failure? = some (.panic clockOverflow)
      ∧ result.lines = []
      ∧ result.site.received.map Rpc.Request.path = [Rpc.callPath .finish] := by
  intro surroundings config result
  have named : ({ endpoint := "unix:d" } : PluginConfig).socketPath = .ok "d" := rfl
  refine ⟨by decide, rfl, ?_⟩
  simp only [result, surroundings, config, carryOut, Command.hook?, send,
    connect_of_socketPath named, Site.link, Site.dial_of_entry Path.entry?_letter]
  decide +kernel

end Cli

end JobHooks
