import JobHooks.Daemon.Live
import JobHooks.Proofs.Counting
import JobHooks.Proofs.Transport.Delivery

/-!
# What a site receives

A site keeps the requests that reach its daemon.  Dialling adds none.  A call adds one, for its
payload, or else it is not accepted (`Transport.received_call`).

A worker that delivers over a transport calls for what it holds, whoever has the turn meanwhile.  So
whatever the schedule, a site receives requests for events that were handed over and for nothing
else, and for every event that it has accepted it has received one (`Machine.exists_requested`).
-/

namespace JobHooks

set_option autoImplicit false

/-- A request that carries a payload, with some time limit or none. -/
def Rpc.Request.IsFor (payload : Payload) (request : Rpc.Request) : Prop :=
  ∃ limit?, request = .ofPayload limit? payload

/-! ## A transport to a site -/

theorem Path.entry?_letter : Path.entry? "d" = some "d" := by
  have steps : Path.steps "d" = ["d"] := by
    rw [Path.steps, String.splitOn, if_neg (by decide), String.splitOnAux, if_neg (by decide),
      if_neg (by decide), String.splitOnAux, if_pos (by decide)]
    decide
  rw [Path.entry?, steps]
  decide +kernel

namespace Site

/-- A path that is the name of an entry leads to the socket of that name. -/
theorem dial_of_entry {path : String} (leads : Path.entry? path = some path) :
    dial path = fun timeout site =>
      if timeout = 0 then (.timedOut, site)
      else if site.listening && (path.utf8ByteSize ≤ longestPath && path == site.socket) then
        (.reached, { site with bound? := none })
      else (.failed, site) := by
  funext timeout site
  rw [dial, isFoundUnder, leads, Option.some_beq_some]

/-- Dialling changes a site only in what its last channel is bound to. -/
theorem exists_dial (path : String) (timeout : Nat) (site : Site) :
    ∃ bound?, (site.dial path timeout).2 = { site with bound? } := by
  rw [dial]
  split
  · exact ⟨_, rfl⟩
  · split <;> exact ⟨_, rfl⟩

/-- An exchange adds its request, unless the channel does not hold. -/
theorem exchange_cases (kind : HookType) (request : Rpc.Request) (site : Site) :
    (site.exchange kind request).2.received = site.received ++ [request]
      ∨ site.exchange kind request = (.ok (.error .broken), site) := by
  rw [exchange]
  split
  · left
    have kept : site.nextReply.2.received = site.received := by
      rw [nextReply]
      split <;> rfl
    exact congrArg (· ++ [request]) kept
  · exact .inr rfl

end Site

namespace Transport

theorem exists_poll (path : String) (timeout : Nat) (transport : Transport Site) :
    ∃ bound?, (transport.poll (Site.link path) timeout).2.beyond
      = { transport.beyond with bound? } := by
  cases channel : transport.hasChannel with
  | true =>
    rw [poll_of_channel channel]
    exact ⟨_, rfl⟩
  | false =>
    rw [poll_of_noChannel channel]
    exact Site.exists_dial path timeout transport.beyond

/-- **A call leaves a request for its payload at the site, or it leaves nothing and is not
accepted.** -/
theorem received_call (path : String) (context : CallContext) (payload : Payload) (reply : Reply)
    (transport : Transport Site) :
    let reaction := transport.call (Site.link path) context payload reply
    (∃ request : Rpc.Request, request.IsFor payload
        ∧ reaction.next.beyond.received = transport.beyond.received ++ [request])
      ∨ reaction.next.beyond = transport.beyond
        ∧ Verdict.ofAnswer reaction.answer ≠ .accepted := by
  intro reaction
  cases channel : transport.hasChannel with
  | false =>
    have same : reaction = _ := call_of_noChannel channel
    rw [same]
    exact .inr ⟨rfl, Verdict.noConfusion⟩
  | true =>
    cases limit : Rpc.limitOf context.timeout with
    | error panic =>
      have same : reaction = _ := call_of_inexpressible channel limit
      rw [same]
      exact .inr ⟨rfl, Verdict.noConfusion⟩
    | ok limit? =>
      have beyond : reaction.next.beyond = _ := beyond_call payload reply channel limit
      rcases Site.exchange_cases payload.hookType (.ofPayload limit? payload) transport.beyond with
        received | broken
      · refine .inl ⟨_, ⟨limit?, rfl⟩, ?_⟩
        rw [beyond]
        exact received
      · have same : reaction = _ := call_of_channel channel limit
        have result : (Site.link path).exchange payload.hookType (.ofPayload limit? payload)
            transport.beyond = (.ok (.error .broken), transport.beyond) := broken
        rw [same, result]
        exact .inr ⟨rfl, Verdict.noConfusion⟩

end Transport

/-! ## A worker and its site -/

namespace Machine

section

variable {σ : Type} {daemon : Daemon σ} {settings : DeliverySettings}

/-! Of the actions of the worker only polls and calls mean anything to the daemon. -/

theorem daemon_poll (machine : Machine σ) :
    (machine.poll daemon).worker.daemon = (Worker.polling daemon machine.worker).next := by
  cases answer : (Worker.polling daemon machine.worker).answer with
  | error => simp only [poll, answer]; rfl
  | ok connected => cases connected <;> simp only [poll, answer] <;> rfl

theorem daemon_receive (missing : Nat) (batch : List Event) (machine : Machine σ) :
    (machine.receive missing batch).worker.daemon = machine.worker.daemon := by
  rw [receive]
  split
  · rw [begin, worker_proceed]
    rfl
  · split
    · rw [begin, worker_proceed]
      rfl
    · rfl

theorem daemon_call (event : Event) (rest : List Event) (sent rejected : Nat)
    (machine : Machine σ) :
    (machine.call daemon settings event rest sent rejected).worker.daemon
      = (Worker.reaction daemon settings event machine.worker).next := rfl

theorem daemon_count (event : Event) (settlement : Settlement) (rest : List Event)
    (sent rejected : Nat) (machine : Machine σ) :
    (machine.count event settlement rest sent rejected).worker.daemon = machine.worker.daemon := by
  rw [count, worker_proceed]
  rfl

theorem daemon_handBack (deferral : Deferral) (event : Event) (rest : List Event)
    (machine : Machine σ) :
    (machine.handBack deferral event rest).worker.daemon = machine.worker.daemon := by
  cases rest <;> rfl

end

variable {path : String} {settings : DeliverySettings} {machine after : Machine (Transport Site)}
  {earlier requests : List Rpc.Request}

/-- What a turn sends to the site: requests for what the worker holds, and one for whatever is
accepted at this turn. -/
structure Sends (before after : Machine (Transport Site)) (requests : List Rpc.Request) :
    Prop where
  received_eq : after.worker.daemon.beyond.received
    = before.worker.daemon.beyond.received ++ requests
  of_held : ∀ request ∈ requests, ∃ event ∈ before.phase.held, request.IsFor event.payload
  of_accepted : ∀ event ∈ after.accepted, event ∉ before.accepted →
    ∃ request ∈ requests, request.IsFor event.payload

/-- A turn at which nothing is accepted. -/
theorem Sends.of_quiet
    (received : after.worker.daemon.beyond.received = machine.worker.daemon.beyond.received)
    (accepted : after.accepted = machine.accepted) : Sends machine after [] where
  received_eq := received.trans (List.append_nil _).symm
  of_held := fun _ member => absurd member List.not_mem_nil
  of_accepted := fun _ member new => absurd (accepted ▸ member) new

/-- A turn without a call. -/
theorem Sends.of_silent
    (received : after.worker.daemon.beyond.received = machine.worker.daemon.beyond.received)
    (adds : Adds machine after []) : Sends machine after [] := by
  refine .of_quiet received ?_
  rw [accepted, adds.attempts_eq, List.append_nil]
  rfl

theorem sends_call {event : Event} {rest : List Event} {sent rejected : Nat}
    (sending : machine.phase = .sending event rest sent rejected) :
    ∃ requests, Sends machine
      (machine.call (Transport.daemon (Site.link path)) settings event rest sent rejected)
      requests := by
  let daemon := Transport.daemon (Site.link path)
  let attempt := Worker.attempt daemon settings event machine.worker
  have reaction : Worker.reaction daemon settings event machine.worker = _ :=
    Transport.reaction_daemon (Site.link path) settings event machine.worker
  have accepted_eq : (machine.call daemon settings event rest sent rejected).accepted
      = machine.accepted ++ Attempts.withVerdict .accepted [attempt] := by
    rw [accepted, (adds_call sending).attempts_eq, Attempts.withVerdict_append]
    rfl
  rcases Transport.received_call path (.fresh settings.rpcTimeout) event.payload default
      machine.worker.daemon with ⟨request, same, received⟩ | ⟨kept, refused⟩
  · refine ⟨[request], ?_, ?_, ?_⟩
    · rw [daemon_call, reaction]
      exact received
    · intro other member
      rw [List.mem_singleton.mp member, sending]
      exact ⟨event, List.mem_cons_self, same⟩
    · intro other member new
      rw [accepted_eq, List.mem_append] at member
      obtain ⟨made, only, rfl⟩ := List.mem_map.mp (member.resolve_left new)
      rw [List.mem_singleton.mp (List.mem_of_mem_filter only)]
      exact ⟨request, List.mem_cons_self, same⟩
  · have verdict : attempt.verdict ≠ .accepted := by
      have answered : attempt.answer = (machine.worker.daemon.callReaction (Site.link path)
          (.fresh settings.rpcTimeout) event.payload).answer := congrArg (·.answer) reaction
      rw [Attempt.verdict, answered]
      exact refused
    refine ⟨[], .of_quiet ?_ ?_⟩
    · rw [daemon_call, reaction]
      exact congrArg Site.received kept
    · rw [accepted_eq, Attempts.withVerdict_cons, if_neg verdict]
      exact List.append_nil _

/-- Whatever the worker does, it sends requests only for what it holds. -/
theorem sends_work (path : String) (settings : DeliverySettings)
    (machine : Machine (Transport Site)) :
    ∃ requests,
      Sends machine (machine.work (Transport.daemon (Site.link path)) settings) requests := by
  cases phase : machine.phase with
  | resting | sizing =>
    simp only [work, phase]
    split
    all_goals exact ⟨[], .of_quiet rfl rfl⟩
  | polling =>
    simp only [work, phase]
    refine ⟨[], .of_silent ?_ (adds_poll phase)⟩
    obtain ⟨bound?, beyond⟩ := Transport.exists_poll path machine.worker.monitor.timeout
      machine.worker.daemon
    rw [daemon_poll]
    exact (congrArg Site.received beyond).trans rfl
  | taking missing batch =>
    simp only [work, phase]
    refine ⟨[], .of_silent ?_ (adds_receive phase)⟩
    rw [daemon_receive]
  | sending event rest sent rejected =>
    simp only [work, phase]
    exact sends_call phase
  | counting event settlement rest sent rejected =>
    simp only [work, phase]
    refine ⟨[], .of_silent ?_ (adds_count phase)⟩
    rw [daemon_count]
  | returning deferral event rest =>
    simp only [work, phase]
    refine ⟨[], .of_silent ?_ (adds_handBack phase)⟩
    rw [daemon_handBack]
  | dead =>
    simp only [work, phase]
    exact ⟨[], .of_quiet rfl rfl⟩

theorem sends_take (path : String) (settings : DeliverySettings)
    (machine : Machine (Transport Site)) (turn : Turn) :
    ∃ requests,
      Sends machine (machine.take (Transport.daemon (Site.link path)) settings turn) requests := by
  cases turn with
  | worker => exact sends_work path settings machine
  | producer who =>
    refine ⟨[], ?_⟩
    rw [take, produce]
    split
    all_goals exact .of_quiet rfl rfl
  | stop stop => exact ⟨[], .of_quiet rfl rfl⟩

/-- What a site has received since some earlier moment: requests for events that were handed over,
and one at least for every event that was accepted. -/
structure Requested (earlier : List Rpc.Request) (machine : Machine (Transport Site))
    (requests : List Rpc.Request) : Prop where
  received_eq : machine.worker.daemon.beyond.received = earlier ++ requests
  of_handedOver : ∀ request ∈ requests, ∃ event ∈ machine.handedOver,
    request.IsFor event.payload
  of_accepted : ∀ event ∈ machine.accepted, ∃ request ∈ requests, request.IsFor event.payload

theorem Requested.take (requested : machine.Requested earlier requests)
    (accounted : machine.Accounted) (path : String) (settings : DeliverySettings) (turn : Turn) :
    ∃ later, (machine.take (Transport.daemon (Site.link path)) settings turn).Requested earlier
      (requests ++ later) := by
  obtain ⟨later, sends⟩ := sends_take path settings machine turn
  obtain ⟨arrived, joins⟩ :=
    joins_take (Transport.daemon (Site.link path)) settings machine turn
  refine ⟨later, ?_, ?_, ?_⟩
  · rw [sends.received_eq, requested.received_eq, List.append_assoc]
  · intro request member
    rw [joins.handedOver_eq]
    rcases List.mem_append.mp member with before | now
    · obtain ⟨event, known, same⟩ := requested.of_handedOver request before
      exact ⟨event, List.mem_append_left _ known, same⟩
    · -- what the worker holds is in its place, so it was handed over
      obtain ⟨event, held, same⟩ := sends.of_held request now
      have placed : event ∈ machine.places := by
        simp only [places, List.mem_append, held, or_true, true_or]
      exact ⟨event, List.mem_append_left _ (accounted.perm.mem_iff.mpr placed), same⟩
  · intro event member
    by_cases before : event ∈ machine.accepted
    · obtain ⟨request, known, same⟩ := requested.of_accepted event before
      exact ⟨request, List.mem_append_left _ known, same⟩
    · obtain ⟨request, new, same⟩ := sends.of_accepted event member before
      exact ⟨request, List.mem_append_right _ new, same⟩

/-- **A site receives requests for what was handed over, and one for all that it accepts**, whoever
has the turn. -/
theorem exists_requested (path : String) (settings : DeliverySettings) (transport : Transport Site)
    (programs : Nat → List Payload) (schedule : List Turn) :
    ∃ requests, ((fresh settings transport programs).run (Transport.daemon (Site.link path))
      settings schedule).Requested transport.beyond.received requests := by
  have start : (fresh settings transport programs).Requested transport.beyond.received [] :=
    ⟨(List.append_nil _).symm, fun _ member => absurd member List.not_mem_nil,
      fun _ member => absurd member List.not_mem_nil⟩
  have accounted := accounted_fresh settings transport programs
  generalize fresh settings transport programs = machine at start accounted ⊢
  generalize [] = requests at start
  induction schedule generalizing machine requests with
  | nil => exact ⟨requests, start⟩
  | cons turn schedule ih =>
    obtain ⟨later, requested⟩ := start.take accounted path settings turn
    have account := accounted.run (Transport.daemon (Site.link path)) settings [turn]
    exact ih _ account _ requested

end Machine

end JobHooks
