import JobHooks.Proofs.Transport.Delivery

/-!
# Which failures are tried again

A failed call tells of its causes, the direct one first.  If the direct cause is an error of the
transport or of input and output, the connection is to blame, and the failure passes for one of an
unavailable daemon.  Causes behind the direct one are not looked at
(`Rpc.Failure.isTransient_normalized`).

For the worker this decides what becomes of the event: it goes back to the queue with all behind it,
or it is rejected for good (`Transport.failure_tried_again`).  So an event is lost whose failure
hides a broken connection behind another error (`Transport.buried_cause_rejects`).
-/

namespace JobHooks

set_option autoImplicit false

namespace Rpc

/-- Whether the connection is to blame for an error. -/
def CauseKind.isConnection : CauseKind → Bool
  | transport | inputOutput => true
  | other => false

namespace Failure

variable (failure : Failure)

/-- Whether the connection is to blame, as far as the direct cause tells. -/
def blamesConnection : Bool := failure.causes.head?.any (·.kind.isConnection)

/-- Whether any cause tells that the connection is to blame, however far behind. -/
def tellsOfConnection : Bool := failure.causes.any (·.kind.isConnection)

/-- **Only the direct cause decides.** -/
theorem normalized_eq :
    failure.normalized
      = if failure.blamesConnection then ⟨.unavailable, failure.status.message⟩
        else failure.status := by
  obtain ⟨status, causes⟩ := failure
  rcases causes with _ | ⟨⟨kind, text⟩, causes⟩
  · rfl
  · cases kind <;> rfl

/-- The words of a failure are kept. -/
theorem message_normalized : failure.normalized.message = failure.status.message := by
  rw [normalized_eq]
  split <;> rfl

/-- A failure is tried again if its direct cause blames the connection, or the daemon has said that
it is unavailable. -/
theorem isTransient_normalized :
    failure.normalized.isTransient = (failure.blamesConnection || failure.status.isTransient) := by
  rw [normalized_eq]
  cases failure.blamesConnection <;> rfl

variable {failure}

theorem tellsOfConnection_of_blames (blames : failure.blamesConnection = true) :
    failure.tellsOfConnection = true := by
  obtain ⟨status, causes⟩ := failure
  cases causes with
  | nil => exact Bool.noConfusion blames
  | cons cause causes =>
    exact List.any_eq_true.mpr ⟨cause, List.mem_cons_self, blames⟩

/-- A failure that tells nowhere of the connection stays what it is. -/
theorem normalized_of_not_told (silent : failure.tellsOfConnection = false) :
    failure.normalized = failure.status := by
  have free : failure.blamesConnection = false := by
    by_contra blames
    rw [tellsOfConnection_of_blames (Bool.not_eq_false _ ▸ blames)] at silent
    exact Bool.noConfusion silent
  rw [normalized_eq, free]
  rfl

end Failure

end Rpc

namespace Transport

variable {σ ρ : Type} [Inhabited ρ] {link : Link σ ρ} {settings : DeliverySettings}
  {worker : Worker (Transport σ)} {event : Event} {limit? : Option Rpc.TimeLimit}
  {failure : Rpc.Failure} {beyond : σ}

/-- A call over the channel brings the worker the failure of its exchange. -/
theorem answer_of_failure (channel : worker.daemon.hasChannel = true)
    (expressible : Rpc.limitOf settings.rpcTimeout = .ok limit?)
    (failed : link.exchange event.payload.hookType (.ofPayload limit? event.payload)
      worker.daemon.beyond = (.ok (.error failure), beyond)) :
    (Worker.reaction (daemon link) settings event worker).answer
      = .ok (.error failure.normalized) := by
  have called : worker.daemon.call link (.fresh settings.rpcTimeout) event.payload default
      = conclude link.socketPath (.fresh settings.rpcTimeout) default
        (.ok (.error failure), beyond) :=
    failed ▸ call_of_channel channel expressible
  rw [reaction_daemon, callReaction, called]
  rfl

/-- While the daemon is called over a transport, nothing is handed over. -/
theorem toList_called (link : Link σ ρ) (settings : DeliverySettings) (event : Event)
    (worker : Worker (Transport σ)) :
    (Worker.called (daemon link) settings event worker).queue.toList = worker.queue.toList := by
  rw [Worker.called, reaction_daemon, Worker.toList_absorb]
  exact List.append_nil _

variable (settings event) in
/-- **What becomes of an event whose call has failed.**  The words of the failure are kept, and a
failure that tells nowhere of the connection is kept as it is.

* If its direct cause blames the connection, or the daemon has said that it is unavailable, the
  event goes back to the queue with all behind it.
* Otherwise it is rejected and done with, even if the connection is to blame further behind. -/
theorem failure_tried_again (channel : worker.daemon.hasChannel = true)
    (expressible : Rpc.limitOf settings.rpcTimeout = .ok limit?)
    (failed : link.exchange event.payload.hookType (.ofPayload limit? event.payload)
      worker.daemon.beyond = (.ok (.error failure), beyond))
    (rest : List Event) (sent rejected : Nat) :
    let progress := Worker.sendInOrder (daemon link) settings (event :: rest) sent rejected worker
    let attempt := Worker.attempt (daemon link) settings event worker
    attempt.answer = .ok (.error failure.normalized)
      ∧ failure.normalized.message = failure.status.message
      ∧ (failure.tellsOfConnection = false → failure.normalized = failure.status)
      ∧ (failure.blamesConnection = true ∨ failure.status.code = .unavailable →
        failure.normalized.code = .unavailable
          ∧ progress.outcome = .ok (.deferred sent rejected (event :: rest).length)
          ∧ progress.worker.queue.toList = worker.queue.toList ++ event :: rest)
      ∧ (failure.blamesConnection = false → failure.status.code ≠ .unavailable →
        failure.normalized = failure.status
          ∧ attempt.verdict = .rejected
          ∧ attempt ∈ progress.trace.attempts
          ∧ event ∈ Attempts.settled progress.trace.attempts) := by
  intro progress attempt
  have answer := answer_of_failure channel expressible failed
  have verdict : attempt.verdict = .ofAnswer (.ok (.error failure.normalized)) :=
    congrArg Verdict.ofAnswer answer
  have unavailable : failure.status.isTransient = true ↔ failure.status.code = .unavailable :=
    beq_iff_eq
  refine ⟨answer, failure.message_normalized, Rpc.Failure.normalized_of_not_told, ?_, ?_⟩
  · intro again
    have transient : failure.normalized.isTransient = true := by
      rw [failure.isTransient_normalized, Bool.or_eq_true, unavailable]
      exact again
    have deferred : progress = _ := Worker.sendInOrder_of_unavailable rest sent rejected answer
      transient
    rw [deferred]
    refine ⟨beq_iff_eq.mp transient, rfl, ?_⟩
    exact congrArg (· ++ _) (toList_called link settings event worker)
  · intro free available
    have kept : failure.normalized = failure.status := by
      rw [failure.normalized_eq, free]
      rfl
    have final : failure.normalized.isTransient = false := by
      rw [kept, ← Bool.not_eq_true, unavailable]
      exact available
    have refused : attempt.verdict = .rejected := by
      rw [verdict, Verdict.ofAnswer, final]
      rfl
    have same : progress = _ := Worker.sendInOrder_of_rejected rest sent rejected answer final
    have made : attempt ∈ progress.trace.attempts := by
      rw [same, Progress.after, Trace.attempts_append, Trace.attempts_append,
        Worker.attempts_attemptTrace]
      exact List.mem_append_left _ (List.mem_append_left _ List.mem_cons_self)
    refine ⟨kept, refused, made, List.mem_map.mpr ⟨attempt, List.mem_filter.mpr ⟨made, ?_⟩, rfl⟩⟩
    rw [refused]
    rfl

/-- A link to a daemon that can be dialled, but over which every exchange fails, with an unknown
code and with causes. -/
def failing (causes : List Rpc.Cause) : Link Unit Unit where
  socketPath := "socket"
  dial := fun _ _ => (.reached, ())
  exchange := fun _ _ _ => (.ok (.error ⟨⟨.unknown, "error reading a body"⟩, causes⟩), ())

/-- A worker that has a channel, and has taken the only event out of its queue. -/
def ready : Worker (Transport Unit) :=
  { Worker.fresh {} { beyond := (), hasChannel := true } with arrivals := 1 }

/-- A connection that is reset makes the worker try again. -/
theorem failure_tried_again_reset :
    let link := failing [⟨.inputOutput, "connection reset"⟩]
    ready.daemon.hasChannel = true ∧ Rpc.limitOf ({} : DeliverySettings).rpcTimeout = .ok none
      ∧ (Worker.sendInOrder (daemon link) {} [⟨.start [], 0⟩] 0 0 ready).outcome
        = .ok (.deferred 0 0 1) := by
  intro link
  have failed : link.exchange .start (.ofPayload none (.start [])) ready.daemon.beyond
      = (.ok (.error ⟨⟨.unknown, "error reading a body"⟩, [⟨.inputOutput, "connection reset"⟩]⟩),
        ()) := rfl
  obtain ⟨-, -, -, again, -⟩ := failure_tried_again {} ⟨.start [], 0⟩ rfl rfl failed [] 0 0
  exact ⟨rfl, rfl, (again (.inl rfl)).2.1⟩

/-- Behind another error, the same reset is not seen: the failure keeps its code, and the event is
rejected for good. -/
theorem buried_cause_rejects :
    let causes : List Rpc.Cause := [⟨.other, "body"⟩, ⟨.inputOutput, "connection reset"⟩]
    let failure : Rpc.Failure := ⟨⟨.unknown, "error reading a body"⟩, causes⟩
    let progress := Worker.sendInOrder (daemon (failing causes)) {} [⟨.start [], 0⟩] 0 0 ready
    failure.tellsOfConnection = true ∧ failure.normalized.code ≠ .unavailable
      ∧ progress.outcome = .ok (.drained 0 1)
      ∧ progress.worker.queue.toList = [] := by
  decide

end Transport

end JobHooks
