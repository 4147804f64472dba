import Mathlib.Data.List.Induction
import JobHooks.Transport

/-!
# The channel of a transport

`Link.logging` keeps a log of what a transport has to do with what is beyond it: whenever it
dials, and whenever it sends a request.  A channel is `Standing` after contacts if the daemon was
reached in one of them and no call has found it unavailable since.

Every use of a transport adds to the log nothing, a dial where there was no channel, or a request
over the channel (`Transport.Advance`).  So the transport has a channel exactly if the log says
that one stands, and whenever a request was sent, one stood (`Transport.Traced`).  This is what
`Transport.channel_stands` draws on: after a call that finds the daemon unavailable, nothing is sent
until the daemon was dialled and reached again.
-/

namespace JobHooks

set_option autoImplicit false

variable {σ ρ : Type}

/-! ## Contacts -/

/-- What a transport has to do with what is beyond it. -/
inductive Contact (ρ : Type) where
  /-- The daemon was dialled for so many milliseconds. -/
  | dialled (timeout : Nat) (outcome : PollOutcome)
  /-- A request of a kind was sent, and this came of it. -/
  | exchanged (kind : HookType) (request : Rpc.Request)
      (result : Except Panic (Except Rpc.Failure ρ))

/-- Whether a request has found the daemon unavailable. -/
def Contact.breaks : Contact ρ → Bool
  | exchanged _ _ (.ok (.error failure)) => failure.normalized.isTransient
  | exchanged _ _ (.ok (.ok _)) | exchanged _ _ (.error _) | dialled _ _ => false

/-- After these contacts a channel stands: the daemon was reached, and no request has found it
unavailable since. -/
def Standing (contacts : List (Contact ρ)) : Prop :=
  ∃ before timeout since, contacts = before ++ .dialled timeout .reached :: since
    ∧ ∀ contact ∈ since, contact.breaks = false

/-- A link that keeps a log of its contacts. -/
def Link.logging (link : Link σ ρ) : Link (σ × List (Contact ρ)) ρ where
  socketPath := link.socketPath
  dial := fun timeout state =>
    let (outcome, beyond) := link.dial timeout state.1
    (outcome, beyond, state.2 ++ [.dialled timeout outcome])
  exchange := fun kind request state =>
    let (result, beyond) := link.exchange kind request state.1
    (result, beyond, state.2 ++ [.exchanged kind request result])

theorem not_standing_nil : ¬ Standing ([] : List (Contact ρ)) := by
  rintro ⟨before, timeout, since, whole, -⟩
  exact absurd whole.symm (List.append_ne_nil_of_right_ne_nil _ (List.cons_ne_nil _ _))

/-- A channel stands behind a contact that has made it, or that has left it as it was. -/
theorem standing_concat {contacts : List (Contact ρ)} {contact : Contact ρ} :
    Standing (contacts ++ [contact])
      ↔ (∃ timeout, contact = .dialled timeout .reached)
        ∨ Standing contacts ∧ contact.breaks = false := by
  constructor
  · rintro ⟨before, timeout, since, whole, kept⟩
    cases since using List.reverseRecOn with
    | nil =>
      obtain ⟨-, same⟩ := List.append_inj' whole rfl
      exact .inl ⟨timeout, (List.cons.inj same).1⟩
    | append_singleton since last =>
      rw [← List.cons_append, ← List.append_assoc] at whole
      obtain ⟨earlier, same⟩ := List.append_inj' whole rfl
      obtain rfl := (List.cons.inj same).1
      obtain ⟨still, left⟩ := List.forall_mem_append.mp kept
      exact .inr ⟨⟨before, timeout, since, earlier, still⟩, left _ List.mem_cons_self⟩
  · rintro (⟨timeout, rfl⟩ | ⟨⟨before, timeout, since, rfl, kept⟩, left⟩)
    · exact ⟨contacts, timeout, [], rfl, fun _ member => absurd member List.not_mem_nil⟩
    · refine ⟨before, timeout, since ++ [contact], List.append_assoc _ _ _, ?_⟩
      exact List.forall_mem_append.mpr ⟨kept, List.forall_mem_singleton.mpr left⟩

/-- **A channel that stands where another one broke before has been dialled since.** -/
theorem exists_dialled {before between : List (Contact ρ)} {broken : Contact ρ}
    (breaks : broken.breaks = true) (standing : Standing (before ++ broken :: between)) :
    ∃ timeout, .dialled timeout .reached ∈ between := by
  induction between using List.reverseRecOn with
  | nil =>
    rcases standing_concat.mp standing with ⟨timeout, rfl⟩ | ⟨-, kept⟩
    · cases breaks
    · exact absurd (breaks.symm.trans kept) nofun
  | append_singleton between last ih =>
    rw [← List.cons_append, ← List.append_assoc] at standing
    rcases standing_concat.mp standing with ⟨timeout, rfl⟩ | ⟨earlier, -⟩
    · exact ⟨timeout, List.mem_append_right _ List.mem_cons_self⟩
    · obtain ⟨timeout, found⟩ := ih earlier
      exact ⟨timeout, List.mem_append_left _ found⟩

namespace Transport

/-! ## Polls and calls -/

section

variable {link : Link σ ρ} {transport : Transport σ} {timeout : Nat} {context : CallContext}
  {payload : Payload} {reply : ρ} {limit? : Option Rpc.TimeLimit}

theorem poll_of_channel (channel : transport.hasChannel = true) :
    transport.poll link timeout = (.reached, transport) := by
  rw [poll, if_pos channel]

theorem poll_of_noChannel (closed : transport.hasChannel = false) :
    transport.poll link timeout
      = ((link.dial timeout transport.beyond).1,
        { beyond := (link.dial timeout transport.beyond).2
          hasChannel := (link.dial timeout transport.beyond).1.isReached }) := by
  rw [poll, closed]
  exact if_neg Bool.false_ne_true

/-- **A poll finds the daemon reached if there is a channel after it, and only then.** -/
theorem isReached_poll (link : Link σ ρ) (timeout : Nat) (transport : Transport σ) :
    (transport.poll link timeout).1.isReached = (transport.poll link timeout).2.hasChannel := by
  cases channel : transport.hasChannel with
  | true =>
    rw [poll_of_channel channel]
    exact channel.symm
  | false => rw [poll_of_noChannel channel]

theorem call_of_noChannel (closed : transport.hasChannel = false) :
    transport.call link context payload reply
      = { answer := .ok (.error noChannel), context, reply, next := transport } := by
  rw [call, closed]
  exact if_neg Bool.false_ne_true

/-- A call whose time limit cannot be expressed is not made. -/
theorem call_of_inexpressible {panic : Panic} (channel : transport.hasChannel = true)
    (inexpressible : Rpc.limitOf context.timeout = .error panic) :
    transport.call link context payload reply
      = { answer := .error panic, context, reply, next := transport } := by
  rw [call, if_pos channel, inexpressible]

/-- What comes of a request that was sent. -/
def conclude (socketPath : String) (context : CallContext) (reply : ρ) :
    Except Panic (Except Rpc.Failure ρ) × σ → TransportReaction σ ρ
  | (.error panic, beyond) =>
    { answer := .error panic, context, reply, next := { beyond, hasChannel := true } }
  | (.ok result, beyond) => complete socketPath result context reply beyond

theorem call_of_channel (channel : transport.hasChannel = true)
    (expressible : Rpc.limitOf context.timeout = .ok limit?) :
    transport.call link context payload reply
      = conclude link.socketPath context reply
        (link.exchange payload.hookType (.ofPayload limit? payload) transport.beyond) := by
  obtain ⟨result, beyond, exchanged⟩ : ∃ result beyond,
      link.exchange payload.hookType (.ofPayload limit? payload) transport.beyond
        = (result, beyond) := ⟨_, _, rfl⟩
  simp only [call, if_pos channel, expressible, exchanged]
  cases result with
  | error panic => simp only [conclude, channel]
  | ok result => rfl

@[simp] theorem beyond_conclude (socketPath : String) (context : CallContext) (reply : ρ)
    (result : Except Panic (Except Rpc.Failure ρ)) (beyond : σ) :
    (conclude socketPath context reply (result, beyond)).next.beyond = beyond := by
  rcases result with panic | failure | received <;> rfl

/-- A call over a channel is one exchange, whatever comes of it. -/
theorem beyond_call (payload : Payload) (reply : ρ) {limit? : Option Rpc.TimeLimit}
    (channel : transport.hasChannel = true)
    (expressible : Rpc.limitOf context.timeout = .ok limit?) :
    (transport.call link context payload reply).next.beyond
      = (link.exchange payload.hookType (.ofPayload limit? payload) transport.beyond).2 := by
  rw [call_of_channel channel expressible]
  exact beyond_conclude _ _ _ _ _

theorem answer_conclude (socketPath : String) (context : CallContext) (reply : ρ)
    (result : Except Panic (Except Rpc.Failure ρ)) (beyond : σ) :
    (conclude socketPath context reply (result, beyond)).answer
      = result.map fun received => (received.mapError Rpc.Failure.normalized).map fun _ => () := by
  rcases result with panic | failure | received <;> rfl

/-- A request that was sent leaves the channel unless it has found the daemon unavailable. -/
theorem hasChannel_conclude (socketPath : String) (context : CallContext) (reply : ρ)
    (kind : HookType) (request : Rpc.Request) (result : Except Panic (Except Rpc.Failure ρ))
    (beyond : σ) :
    (conclude socketPath context reply (result, beyond)).next.hasChannel
      = !(Contact.exchanged kind request result).breaks := by
  rcases result with panic | failure | received <;> rfl

/-- **A call leaves the channel as it is unless it finds the daemon unavailable.** -/
theorem hasChannel_call (link : Link σ ρ) (transport : Transport σ) (context : CallContext)
    (payload : Payload) (reply : ρ) :
    (transport.call link context payload reply).next.hasChannel = true
      ↔ transport.hasChannel = true
        ∧ ∀ status, (transport.call link context payload reply).answer = .ok (.error status) →
          status.code ≠ .unavailable := by
  cases channel : transport.hasChannel with
  | false =>
    rw [call_of_noChannel channel, channel]
    exact ⟨fun same => absurd same nofun, fun both => absurd both.1 nofun⟩
  | true =>
    rw [and_iff_right rfl]
    cases limit : Rpc.limitOf context.timeout with
    | error panic =>
      rw [call_of_inexpressible channel limit]
      exact ⟨fun _ status same => absurd same nofun, fun _ => channel⟩
    | ok limit? =>
      rw [call_of_channel channel limit]
      rcases link.exchange payload.hookType (.ofPayload limit? payload) transport.beyond with
        ⟨panic | failure | received, beyond⟩
      · exact ⟨fun _ status same => absurd same nofun, fun _ => rfl⟩
      · simp only [conclude, complete, Bool.not_eq_true', Status.isTransient, beq_eq_false_iff_ne,
          Except.ok.injEq, Except.error.injEq, forall_eq']
      · exact ⟨fun _ status same => absurd same nofun, fun _ => rfl⟩

end

/-! ## Uses of a transport -/

/-- What a transport is used for, and what goes on beyond it meanwhile. -/
inductive Use (σ ρ : Type) where
  /-- The daemon is polled. -/
  | poll (timeout : Nat)
  /-- A call is made, with a place for its reply. -/
  | call (context : CallContext) (payload : Payload) (reply : ρ)
  /-- Something changes beyond the transport. -/
  | adjust (change : σ → σ)

/-- A transport that keeps a log, after it was used. -/
def use (link : Link σ ρ) (transport : Transport (σ × List (Contact ρ))) :
    Use σ ρ → Transport (σ × List (Contact ρ))
  | .poll timeout => (transport.poll link.logging timeout).2
  | .call context payload reply => (transport.call link.logging context payload reply).next
  | .adjust change => { transport with beyond := transport.beyond.map change id }

/-- A transport that was used for one thing after the other, since it was fresh. -/
def used (link : Link σ ρ) (state : σ) (uses : List (Use σ ρ)) :
    Transport (σ × List (Contact ρ)) :=
  uses.foldl (use link) { beyond := (state, []) }

/-- A transport without its log. -/
def unlogged (transport : Transport (σ × List (Contact ρ))) : Transport σ :=
  { beyond := transport.beyond.1, hasChannel := transport.hasChannel }

end Transport

/-- What comes of a call, without the log. -/
def TransportReaction.unlogged (reaction : TransportReaction (σ × List (Contact ρ)) ρ) :
    TransportReaction σ ρ where
  answer := reaction.answer
  notices := reaction.notices
  context := reaction.context
  reply := reaction.reply
  next := reaction.next.unlogged

namespace Transport

section

variable {transport next : Transport (σ × List (Contact ρ))}

/-- A call over a channel is one request, which is logged with what came of it. -/
theorem exists_exchange (link : Link σ ρ) (context : CallContext) (payload : Payload) (reply : ρ)
    {limit? : Option Rpc.TimeLimit} (channel : transport.hasChannel = true)
    (expressible : Rpc.limitOf context.timeout = .ok limit?) :
    ∃ result beyond,
      link.exchange payload.hookType (.ofPayload limit? payload) transport.beyond.1
          = (result, beyond)
        ∧ transport.call link.logging context payload reply
          = conclude link.socketPath context reply
            (result, beyond, transport.beyond.2
              ++ [.exchanged payload.hookType (.ofPayload limit? payload) result]) :=
  ⟨_, _, rfl, call_of_channel channel expressible⟩

/-- **To keep a log changes nothing else**: the poll has the same outcome and leads to the same
transport. -/
theorem unlogged_poll (link : Link σ ρ) (timeout : Nat) :
    (transport.poll link.logging timeout).map id unlogged
      = transport.unlogged.poll link timeout := by
  cases channel : transport.hasChannel with
  | true =>
    have same : transport.unlogged.hasChannel = true := channel
    rw [poll_of_channel channel, poll_of_channel same]
    rfl
  | false =>
    have same : transport.unlogged.hasChannel = false := channel
    rw [poll_of_noChannel channel, poll_of_noChannel same]
    rfl

/-- **To keep a log changes nothing else**: the call comes to the same and leads to the same
transport. -/
theorem unlogged_call (link : Link σ ρ) (context : CallContext) (payload : Payload) (reply : ρ) :
    (transport.call link.logging context payload reply).unlogged
      = transport.unlogged.call link context payload reply := by
  cases channel : transport.hasChannel with
  | false =>
    have same : transport.unlogged.hasChannel = false := channel
    rw [call_of_noChannel channel, call_of_noChannel same]
    rfl
  | true =>
    have open_ : transport.unlogged.hasChannel = true := channel
    cases limit : Rpc.limitOf context.timeout with
    | error panic =>
      rw [call_of_inexpressible channel limit, call_of_inexpressible open_ limit]
      rfl
    | ok limit? =>
      obtain ⟨result, beyond, exchanged, same⟩ :=
        exists_exchange link context payload reply channel limit
      have bare : transport.unlogged.call link context payload reply
          = conclude link.socketPath context reply (result, beyond) := by
        rw [call_of_channel open_ limit]
        exact congrArg (conclude link.socketPath context reply) exchanged
      rw [same, bare]
      rcases result with panic | failure | received <;> rfl

/-- What a use adds to the log, and what it makes of the channel. -/
inductive Advance (transport next : Transport (σ × List (Contact ρ))) : Prop
  | silent (log : next.beyond.2 = transport.beyond.2)
      (channel : next.hasChannel = transport.hasChannel)
  | dialled {timeout : Nat} {outcome : PollOutcome} (closed : transport.hasChannel = false)
      (log : next.beyond.2 = transport.beyond.2 ++ [.dialled timeout outcome])
      (channel : next.hasChannel = outcome.isReached)
  | exchanged {kind : HookType} {request : Rpc.Request}
      {result : Except Panic (Except Rpc.Failure ρ)} (open_ : transport.hasChannel = true)
      (log : next.beyond.2 = transport.beyond.2 ++ [.exchanged kind request result])
      (channel : next.hasChannel = !(Contact.exchanged kind request result).breaks)

theorem advance_poll (link : Link σ ρ) (timeout : Nat) :
    Advance transport (transport.poll link.logging timeout).2 := by
  cases channel : transport.hasChannel with
  | true =>
    rw [poll_of_channel channel]
    exact .silent rfl rfl
  | false =>
    rw [poll_of_noChannel channel]
    exact .dialled channel rfl rfl

theorem advance_call (link : Link σ ρ) (context : CallContext) (payload : Payload) (reply : ρ) :
    Advance transport (transport.call link.logging context payload reply).next := by
  cases channel : transport.hasChannel with
  | false =>
    rw [call_of_noChannel channel]
    exact .silent rfl rfl
  | true =>
    cases limit : Rpc.limitOf context.timeout with
    | error panic =>
      rw [call_of_inexpressible channel limit]
      exact .silent rfl rfl
    | ok limit? =>
      obtain ⟨result, beyond, -, same⟩ := exists_exchange link context payload reply channel limit
      rw [same]
      have log := congrArg Prod.snd (beyond_conclude link.socketPath context reply result
        (beyond, transport.beyond.2
          ++ [.exchanged payload.hookType (.ofPayload limit? payload) result]))
      exact .exchanged channel log (hasChannel_conclude _ _ _ _ _ _ _)

/-- **Whatever a transport is used for**, nothing is added to its log, or a dial where there was
no channel, or a request over the channel. -/
theorem advance_use (link : Link σ ρ) (use : Use σ ρ) :
    Advance transport (transport.use link use) := by
  cases use with
  | poll timeout => exact advance_poll link timeout
  | call context payload reply => exact advance_call link context payload reply
  | adjust change => exact .silent rfl rfl

/-- The log of a transport agrees with its channel, and no request was sent without one. -/
structure Traced (transport : Transport (σ × List (Contact ρ))) : Prop where
  standing : transport.hasChannel = true ↔ Standing transport.beyond.2
  sent : ∀ before kind request result after,
    transport.beyond.2 = before ++ .exchanged kind request result :: after → Standing before

/-- A request in a log that has become longer was sent before, or it is the last contact. -/
theorem split_concat {contacts before after : List (Contact ρ)} {last contact : Contact ρ}
    (whole : contacts ++ [last] = before ++ contact :: after) :
    (before = contacts ∧ contact = last)
      ∨ ∃ between, contacts = before ++ contact :: between := by
  cases after using List.reverseRecOn with
  | nil =>
    obtain ⟨same, tail⟩ := List.append_inj' whole rfl
    exact .inl ⟨same.symm, (List.cons.inj tail).1.symm⟩
  | append_singleton between other =>
    rw [← List.cons_append, ← List.append_assoc] at whole
    exact .inr ⟨between, (List.append_inj' whole rfl).1⟩

/-- **A use keeps log and channel in agreement.** -/
theorem Traced.advance (traced : transport.Traced) (advance : Advance transport next) :
    next.Traced := by
  cases advance with
  | silent log channel =>
    refine ⟨?_, ?_⟩
    · rw [log, channel]
      exact traced.standing
    · rw [log]
      exact traced.sent
  | @dialled timeout outcome closed log channel =>
    refine ⟨?_, ?_⟩
    · have none : ¬ Standing transport.beyond.2 := by
        rw [← traced.standing, closed]
        exact Bool.false_ne_true
      rw [log, channel, standing_concat]
      constructor
      · intro reached
        cases outcome with
        | reached => exact .inl ⟨timeout, rfl⟩
        | failed | timedOut => cases reached
      · rintro (⟨_, same⟩ | ⟨standing, -⟩)
        · cases same
          rfl
        · exact absurd standing none
    · intro before kind request result after whole
      rcases split_concat (log.symm.trans whole) with ⟨-, same⟩ | ⟨between, earlier⟩
      · cases same
      · exact traced.sent _ _ _ _ _ earlier
  | exchanged open_ log channel =>
    have standing := traced.standing.mp open_
    refine ⟨?_, ?_⟩
    · rw [log, channel, standing_concat, Bool.not_eq_true']
      constructor
      · exact fun kept => .inr ⟨standing, kept⟩
      · rintro (⟨_, same⟩ | ⟨-, kept⟩)
        · cases same
        · exact kept
    · intro before kind request result after whole
      rcases split_concat (log.symm.trans whole) with ⟨same, -⟩ | ⟨between, earlier⟩
      · rw [same]
        exact standing
      · exact traced.sent _ _ _ _ _ earlier

theorem traced_used (link : Link σ ρ) (state : σ) (uses : List (Use σ ρ)) :
    (used link state uses).Traced := by
  induction uses using List.reverseRecOn with
  | nil =>
    refine ⟨⟨fun channel => absurd channel Bool.false_ne_true, fun standing =>
      absurd standing not_standing_nil⟩, ?_⟩
    intro before kind request result after whole
    exact absurd whole.symm (List.append_ne_nil_of_right_ne_nil _ (List.cons_ne_nil _ _))
  | append_singleton uses use ih =>
    rw [used, List.foldl_append]
    exact ih.advance (advance_use link use)

end

/-- **The channel of a transport**, whatever it is used for, whatever comes of dialling the daemon
and of the requests, and whatever goes on beyond the transport.

* It has a channel exactly if the daemon was reached when it was dialled and no request has found it
  unavailable since.  Nothing is ever sent without a channel, nor over one on which a request has
  found the daemon unavailable: it is dialled and reached in between.
* A poll finds the daemon reached exactly if there is a channel behind it; it dials if there was
  none before, and does nothing otherwise.
* A call makes no channel.  One that comes to an end leaves the channel exactly if it does not find
  the daemon unavailable.  Without a channel it does, changing nothing and contacting nobody.
* A call over a channel whose time limit can be expressed sends one request, which decides what
  comes of it: a reply takes its place; a failure leaves the place for the reply as it was and the
  cause in the context. -/
theorem channel_stands (link : Link σ ρ) (state : σ) (uses : List (Use σ ρ)) :
    let transport := used link state uses
    let contacts := transport.beyond.2
    (transport.hasChannel = true ↔ Standing contacts)
      ∧ (∀ before kind request result after,
        contacts = before ++ .exchanged kind request result :: after → Standing before)
      ∧ (∀ before broken between kind request result after,
        contacts = before ++ broken :: between ++ .exchanged kind request result :: after →
        broken.breaks = true → ∃ timeout, .dialled timeout .reached ∈ between)
      ∧ (∀ timeout,
        let polled := transport.poll link.logging timeout
        (polled.1.isReached = true ↔ polled.2.hasChannel = true)
          ∧ (transport.hasChannel = true → polled.2 = transport)
          ∧ (transport.hasChannel = false →
            polled.2.beyond.2 = contacts ++ [.dialled timeout polled.1]))
      ∧ ∀ context payload reply,
        let reaction := transport.call link.logging context payload reply
        (reaction.next.hasChannel = true
            ↔ transport.hasChannel = true
              ∧ ∀ status, reaction.answer = .ok (.error status) → status.code ≠ .unavailable)
          ∧ (transport.hasChannel = false →
            (∃ message, reaction.answer = .ok (.error ⟨.unavailable, message⟩))
              ∧ reaction.next = transport ∧ reaction.context = context ∧ reaction.reply = reply)
          ∧ (transport.hasChannel = true →
            ∀ limit?, Rpc.limitOf context.timeout = .ok limit? →
              ∃ result,
                reaction.next.beyond.2 = contacts
                  ++ [.exchanged payload.hookType (.ofPayload limit? payload) result]
                ∧ match result with
                  | .ok (.ok received) =>
                    reaction.answer = .ok (.ok ()) ∧ reaction.reply = received
                      ∧ reaction.context = context
                  | .ok (.error failure) =>
                    reaction.answer = .ok (.error failure.normalized) ∧ reaction.reply = reply
                      ∧ reaction.context = { context with detail? := some failure.detail }
                  | .error panic =>
                    reaction.answer = .error panic ∧ reaction.reply = reply
                      ∧ reaction.context = context) := by
  intro transport contacts
  have traced : transport.Traced := traced_used link state uses
  refine ⟨traced.standing, traced.sent, ?_, ?_, ?_⟩
  · intro before broken between kind request result after whole breaks
    exact exists_dialled breaks (traced.sent _ _ _ _ _ whole)
  · intro timeout polled
    refine ⟨by rw [isReached_poll], ?_, ?_⟩
    · intro channel
      exact congrArg Prod.snd (poll_of_channel channel)
    · intro closed
      have same : polled = _ := poll_of_noChannel closed
      rw [same]
      rfl
  · intro context payload reply reaction
    refine ⟨hasChannel_call link.logging transport context payload reply, ?_, ?_⟩
    · intro closed
      have same : reaction = _ := call_of_noChannel closed
      rw [same]
      exact ⟨⟨_, rfl⟩, rfl, rfl, rfl⟩
    · intro channel limit? expressible
      obtain ⟨result, beyond, -, same⟩ :=
        exists_exchange link context payload reply channel expressible
      have found : reaction = _ := same
      refine ⟨result, ?_, ?_⟩
      · rw [found, beyond_conclude]
      · rw [found]
        rcases result with panic | failure | received <;> exact ⟨rfl, rfl, rfl⟩

/-- A link to a daemon that can always be dialled, and that is not available for the first request.
-/
def flapping : Link Nat Unit where
  socketPath := "socket"
  dial := fun _ sent => (.reached, sent)
  exchange := fun _ _ sent =>
    (.ok (if sent = 0 then .error (.ofStatus ⟨.unavailable, "gone"⟩) else .ok ()), sent + 1)

/-- The first request breaks the channel; the next one is not sent, and the one after that is sent
when the daemon has been dialled again. -/
theorem channel_stands_flapping :
    let context : CallContext := .fresh (some 10)
    let hook : Use Nat Unit := .call context (.start []) ()
    let request : Rpc.Request := .ofPayload (some ⟨10000000, .nanosecond⟩) (.start [])
    let broken : Contact Unit :=
      .exchanged .start request (.ok (.error (.ofStatus ⟨.unavailable, "gone"⟩)))
    let between : List (Contact Unit) := [.dialled 7 .reached]
    let closed := used flapping 0 [.poll 5, hook]
    let open_ := used flapping 0 [.poll 5, hook, hook, .poll 7, hook]
    let unsent := closed.call flapping.logging context (.start []) ()
    let sent := open_.call flapping.logging context (.start []) ()
    open_.beyond.2 = [.dialled 5 .reached] ++ broken :: between
        ++ .exchanged .start request (.ok (.ok ())) :: []
      ∧ (∃ timeout, .dialled timeout .reached ∈ between)
      ∧ Standing open_.beyond.2
      ∧ closed.hasChannel = false ∧ unsent.next = closed ∧ unsent.context.detail? = none
      ∧ (closed.poll flapping.logging 7).2.beyond.2 = closed.beyond.2 ++ [.dialled 7 .reached]
      ∧ ∃ result,
        sent.next.beyond.2 = open_.beyond.2 ++ [.exchanged .start request result] := by
  intro context hook request broken between closed open_ unsent sent
  have whole : open_.beyond.2 = [.dialled 5 .reached] ++ broken :: between
      ++ .exchanged .start request (.ok (.ok ())) :: [] := rfl
  obtain ⟨-, -, -, polls, calls⟩ := channel_stands flapping 0 [.poll 5, hook]
  obtain ⟨-, nothing, -⟩ := calls context (.start []) ()
  obtain ⟨-, unchanged, same, -⟩ := nothing rfl
  obtain ⟨standing, -, dialled, -, later⟩ :=
    channel_stands flapping 0 [.poll 5, hook, hook, .poll 7, hook]
  obtain ⟨-, -, one⟩ := later context (.start []) ()
  obtain ⟨result, logged, -⟩ := one rfl (some ⟨10000000, .nanosecond⟩) rfl
  refine ⟨whole, dialled _ broken between _ _ _ _ whole rfl, standing.mp rfl, rfl, unchanged, ?_,
    (polls 7).2.2 rfl, result, logged⟩
  have kept : unsent.context = context := same
  rw [kept]
  rfl

end Transport

end JobHooks
