import JobHooks.Proofs.Client.Life

/-!
# Elapsed times

When a client is told of ended jobs, it reads the clock once and stamps every job with the time that
has elapsed since its start.  The stamped jobs are what is handed over, and no attempt to deliver
them looks at the clock again: `Client.live_congr` says that a life depends on no other readings.

An event keeps its payload under its number (`History.handedOver_prefix`), and each attempt carries
that payload (`History.attempt_of_handedOver`).  So the jobs are delivered as they were stamped,
however often they were put off and whatever the clock shows by then.  This is
`Client.elapsed_stamped_once`.
-/

namespace JobHooks

set_option autoImplicit false

/-! ## One job -/

namespace JobInfo

/-- The elapsed time is the difference between now and the start, if that has a number. -/
theorem toInt_sub_startSecond {now : Int64} {job : JobInfo}
    (least : Int64.minValue.toInt ≤ now.toInt - job.startTime.elim 0 (·.seconds.toInt))
    (greatest : now.toInt - job.startTime.elim 0 (·.seconds.toInt) ≤ Int64.maxValue.toInt) :
    (now - job.startSecond).toInt = now.toInt - job.startTime.elim 0 (·.seconds.toInt) := by
  have start : job.startSecond.toInt = job.startTime.elim 0 (·.seconds.toInt) := by
    unfold startSecond
    cases job.startTime <;> rfl
  have lowest : Int64.minValue.toInt = -9223372036854775808 := by decide
  have highest : Int64.maxValue.toInt = 9223372036854775807 := by decide
  rw [Int64.toInt_sub, start]
  exact Int.bmod_eq_of_le (by omega) (by omega)

end JobInfo

namespace Client

variable {σ : Type} {daemon : Daemon σ} {settings : DeliverySettings} {clock other : Nat → Int64}

/-! ## Readings of the clock -/

/-- **The clock is read when the client is told of ended jobs, once for all of them, and never
else.** -/
theorem clockReads_perform (client : Client σ) (operation : Operation σ) :
    (perform daemon settings clock client operation).client.clockReads
      = client.clockReads + operation.finishes.toNat := by
  have answered (client : Client σ) :
      (client.answerPoll daemon settings).client.clockReads = client.clockReads := by
    obtain ⟨worker, state, same⟩ := exists_answerPoll daemon settings client
    rw [same]
  cases operation with
  | startJobs | finishJobs | monitorJob | adjust => rfl
  | answerPoll => exact answered client
  | shutdown =>
    rw [perform, Client.shutdown]
    split
    · rfl
    · exact answered client.askToStop
  | retire =>
    rw [perform, Client.retire]
    split
    · rfl
    · split
      · unfold settle
        split <;> rfl
      · rfl

theorem clockReads_live (operations : List (Operation σ)) (life : ClientStep σ) :
    (live daemon settings clock operations life).client.clockReads
      = life.client.clockReads + operations.countP Operation.finishes := by
  induction operations generalizing life with
  | nil => rfl
  | cons operation operations ih =>
    have read : (perform daemon settings clock life.client operation).client.clockReads
        = life.client.clockReads + operation.finishes.toNat :=
      clockReads_perform life.client operation
    rw [Operation.countP_cons, ← Nat.add_assoc, ← read]
    exact ih _

/-- An operation depends on the clock only when it reads it. -/
theorem perform_congr {client : Client σ} {operation : Operation σ}
    (same : operation.finishes = true → other client.clockReads = clock client.clockReads) :
    perform daemon settings other client operation
      = perform daemon settings clock client operation := by
  cases operation with
  | finishJobs jobs => rw [perform, perform, same rfl]
  | startJobs | monitorJob | adjust | answerPoll | shutdown | retire => rfl

/-- **A life depends on no other readings of the clock than those for ended jobs.** -/
theorem live_congr {operations : List (Operation σ)} {life : ClientStep σ}
    (same : ∀ reading < life.client.clockReads + operations.countP Operation.finishes,
      other reading = clock reading) :
    live daemon settings other operations life = live daemon settings clock operations life := by
  induction operations generalizing life with
  | nil => simp only [live, List.foldl_nil]
  | cons operation operations ih =>
    have read : (perform daemon settings clock life.client operation).client.clockReads
        = life.client.clockReads + operation.finishes.toNat :=
      clockReads_perform life.client operation
    rw [Operation.countP_cons, ← Nat.add_assoc, ← read] at same
    have first : perform daemon settings other life.client operation
        = perform daemon settings clock life.client operation := by
      refine perform_congr fun finishes => same _ ?_
      rw [read, finishes, Bool.toNat_true]
      omega
    calc live daemon settings other (operation :: operations) life
        = live daemon settings other operations
            (life.followedBy (perform daemon settings other life.client operation)) := rfl
      _ = live daemon settings other operations
            (life.followedBy (perform daemon settings clock life.client operation)) := by rw [first]
      _ = live daemon settings clock operations
            (life.followedBy (perform daemon settings clock life.client operation)) :=
        ih (by rw [ClientStep.client_followedBy]; exact same)
      _ = live daemon settings clock (operation :: operations) life := rfl

/-! ## Every attempt carries the stamped jobs -/

/-- What is submitted in the course of a life is what every attempt to deliver it carries, whatever
is done with the client later. -/
theorem attempt_of_submitted {state : σ} {before after : List (Operation σ)}
    {operation : Operation σ} {payload : Payload} {attempt : Attempt} :
    let earlier := live daemon settings clock before (start settings state)
    let life := live daemon settings clock (before ++ operation :: after) (start settings state)
    operation.payload? (clock earlier.client.clockReads) = some payload →
      attempt ∈ life.trace.attempts → attempt.event.arrival = earlier.client.worker.arrivals →
      attempt.call = ⟨payload.hookType, .fresh settings.rpcTimeout, payload⟩
        ∧ ∃ found, attempt.answer = (daemon.receive attempt.call found).answer := by
  intro earlier life given made number
  obtain ⟨first, mirrors⟩ := exists_mirror daemon settings clock state before
  obtain ⟨later, whole⟩ := (mirrors.submit given).live daemon settings clock after
  let history := History.run daemon.withoutStop settings first (.fresh settings state)
  let event : Event := ⟨payload, history.worker.arrivals⟩
  have both : History.run daemon.withoutStop settings later
        (history.act daemon.withoutStop settings (.enqueue [payload]))
      = .run daemon.withoutStop settings (first ++ .enqueue [payload] :: later)
        (.fresh settings state) := by
    rw [History.run, History.run, List.foldl_append]
    rfl
  have lived : live daemon settings clock after
      (earlier.followedBy (perform daemon settings clock earlier.client operation)) = life :=
    (live_append daemon settings clock before (operation :: after) _).symm
  rw [both, lived] at whole
  have known : event ∈ (History.run daemon.withoutStop settings
      (first ++ .enqueue [payload] :: later) (.fresh settings state)).handedOver := by
    rw [← both]
    refine (History.handedOver_prefix daemon.withoutStop settings later _).subset ?_
    rw [History.handedOver_of_deeds rfl]
    exact List.mem_append_right _ List.mem_cons_self
  have arrivals : earlier.client.worker.arrivals = event.arrival :=
    (congrArg Worker.arrivals mirrors.worker_eq).trans rfl
  rw [← whole.attempts_eq] at made
  obtain ⟨call, found, answer⟩ :=
    History.attempt_of_handedOver known made (number.trans arrivals)
  rw [Daemon.receive_withoutStop] at answer
  exact ⟨call, found, answer⟩

/-- **The elapsed time is stamped once**, when the client is told of ended jobs, whatever happened
before and happens later, and whatever the clock shows whenever it is read.

* The clock is read by these operations alone, once by each; a life depends on no other readings.
* Every job is stamped with the whole seconds between its start, or zero, and the reading for its
  batch; nothing else of it changes, and an elapsed time that it had before is overwritten.  Where
  the difference has no number of 64 bits it wraps around.
* The stamped jobs are handed over as one event, and every call for this event, the first attempt or
  one after it was put off, carries exactly these jobs. -/
theorem elapsed_stamped_once (daemon : Daemon σ) (settings : DeliverySettings)
    (clock : Nat → Int64) (state : σ) (before after : List (Operation σ)) (jobs : List JobInfo) :
    let operations := before ++ .finishJobs jobs :: after
    let earlier := live daemon settings clock before (start settings state)
    let life := live daemon settings clock operations (start settings state)
    let now := clock (before.countP Operation.finishes)
    (∀ (client : Client σ) (operation : Operation σ),
        (perform daemon settings clock client operation).client.clockReads
          = client.clockReads + operation.finishes.toNat)
      ∧ life.client.clockReads = operations.countP Operation.finishes
      ∧ (∀ other : Nat → Int64,
        (∀ reading < operations.countP Operation.finishes, other reading = clock reading) →
        live daemon settings other operations (start settings state) = life)
      ∧ ∃ stamped : List JobInfo, stamped.length = jobs.length
        ∧ (∀ (index : Nat) (job : JobInfo), jobs[index]? = some job →
          ∃ seconds : Int64,
            stamped[index]? = some { job with elapsedTime := some ⟨seconds, 0⟩ }
              ∧ (Int64.minValue.toInt ≤ now.toInt - job.startTime.elim 0 (·.seconds.toInt) →
                now.toInt - job.startTime.elim 0 (·.seconds.toInt) ≤ Int64.maxValue.toInt →
                seconds.toInt = now.toInt - job.startTime.elim 0 (·.seconds.toInt)))
        ∧ (perform daemon settings clock earlier.client (.finishJobs jobs)).client.worker.queue.toList
          = earlier.client.worker.queue.toList
            ++ [⟨.finish stamped, earlier.client.worker.arrivals⟩]
        ∧ ∀ attempt ∈ life.trace.attempts,
          attempt.event.arrival = earlier.client.worker.arrivals →
          attempt.call = ⟨.finish, .fresh settings.rpcTimeout, .finish stamped⟩
            ∧ ∃ found, attempt.answer
              = (daemon.finishHook (.fresh settings.rpcTimeout) stamped found).answer := by
  intro operations earlier life now
  have reads : earlier.client.clockReads = before.countP Operation.finishes :=
    (clockReads_live before _).trans (Nat.zero_add _)
  have total : life.client.clockReads = operations.countP Operation.finishes :=
    (clockReads_live operations _).trans (Nat.zero_add _)
  let stamped : List JobInfo := jobs.map (JobInfo.withElapsed now)
  have given : (Operation.finishJobs jobs : Operation σ).payload? (clock earlier.client.clockReads)
      = some (.finish stamped) := by
    rw [reads]
    rfl
  refine ⟨clockReads_perform, total, ?_, stamped, List.length_map _, ?_, ?_, ?_⟩
  · intro other same
    refine live_congr ?_
    have none : (start settings state).client.clockReads = 0 := rfl
    rw [none, Nat.zero_add]
    exact same
  · intro index job here
    refine ⟨now - job.startSecond, ?_, JobInfo.toInt_sub_startSecond⟩
    rw [List.getElem?_map, here]
    rfl
  · rw [perform_of_payload given]
    rfl
  · intro attempt made number
    obtain ⟨same, found, answer⟩ := attempt_of_submitted given made number
    rw [same] at answer
    exact ⟨same, found, answer⟩

/-- Two jobs end at second 100 and are put off; when they are delivered, the clock shows more, but
both attempts carry what had elapsed then. -/
theorem elapsed_stamped_once_faltering :
    let clock (reading : Nat) : Int64 := .ofNat (100 + 50 * reading)
    let late : JobInfo := { startTime := some ⟨40, 5⟩, elapsedTime := some ⟨7, 7⟩ }
    let operations : List (Operation Nat) :=
      [.finishJobs [late, {}], .answerPoll, .finishJobs [], .answerPoll]
    let life := live History.faltering {} clock operations (start {} 0)
    let deliveries := life.trace.attempts.filter (·.event.arrival = 0)
    ∃ stamped : List JobInfo,
      (∃ seconds, stamped[0]? = some { late with elapsedTime := some ⟨seconds, 0⟩ }
          ∧ seconds.toInt = 60)
        ∧ (∃ seconds, stamped[1]? = some { elapsedTime := some ⟨seconds, 0⟩ }
          ∧ seconds.toInt = 100)
        ∧ deliveries.map Attempt.verdict = [.unavailable, .accepted]
        ∧ (∀ attempt ∈ deliveries, attempt.call.request = .finish stamped)
        ∧ live History.faltering {} (fun reading => if reading < 2 then clock reading else 0)
          operations (start {} 0) = life := by
  intro clock late operations life deliveries
  obtain ⟨-, -, others, stamped, -, jobs, -, carried⟩ := elapsed_stamped_once History.faltering {}
    clock 0 [] [.answerPoll, .finishJobs [], .answerPoll] [late, {}]
  obtain ⟨first, here, elapsed⟩ := jobs 0 late rfl
  obtain ⟨second, there, since⟩ := jobs 1 {} rfl
  refine ⟨stamped, ⟨first, here, elapsed (by decide) (by decide)⟩,
    ⟨second, there, since (by decide) (by decide)⟩, by decide, ?_, others _ ?_⟩
  · intro attempt delivered
    obtain ⟨made, number⟩ := List.mem_filter.mp delivered
    rw [(carried attempt made (of_decide_eq_true number)).1]
  · intro reading early
    exact if_pos early

end Client

end JobHooks
