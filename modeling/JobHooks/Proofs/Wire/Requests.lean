import JobHooks.Daemon.Live
import JobHooks.Dispatch
import JobHooks.Proofs.Transport.Channel
import JobHooks.Proofs.Wire.RoundTrip

/-!
# What a request tells the daemon

A request names its call in its path and holds the message in its body, in one frame that is not
compressed.  `Rpc.Request.read?` is how a daemon reads it: the path gives the kind of hook, and the
message in the frame is decoded as a request of that kind.

The messages that start and end jobs are written in the same way, so that the body alone does not
tell a payload, but path and body together do (`Payload.identified_by_request`).  To say that such a
request is what goes out when the worker sends a payload, `Link.recording` keeps what has gone over a
link.
-/

namespace JobHooks

set_option autoImplicit false

/-! ## Frames -/

/-- Four bytes hold every number below `2 ^ 32`. -/
theorem Bytes.toNumber_ofNumber {number : Nat} (fits : number < 0x100000000) :
    toNumber (ofNumber number) = number := by
  simp only [ofNumber, toNumber, List.foldl_cons, List.foldl_nil, UInt8.toNat_ofNat']
  omega

namespace Rpc

/-- The message in a body that is one frame, not compressed, and nothing else.  Unlike `scan`, this
takes messages of any length. -/
def unframe? : Bytes → Option Bytes
  | 0 :: a :: b :: c :: d :: message =>
    if Bytes.toNumber [a, b, c, d] = message.length then some message else none
  | _ => none

section

variable {message : Bytes} (fits : message.length < 0x100000000)
include fits

theorem unframe?_frame : unframe? (frame message) = some message := by
  have announced : Bytes.toNumber (Bytes.ofNumber message.length) = message.length :=
    Bytes.toNumber_ofNumber fits
  exact if_pos announced

/-- A frame at the front of a run of bytes is found whole, unless its message is too long. -/
theorem front_frame (rest : Bytes) :
    front (frame message ++ rest)
      = if message.length ≤ longestMessage then .whole message rest
        else .refused (.tooLong message.length) := by
  have announced : Bytes.toNumber (Bytes.ofNumber message.length) = message.length :=
    Bytes.toNumber_ofNumber fits
  unfold Bytes.ofNumber at announced
  simp only [frame, Bytes.ofNumber, List.cons_append, List.nil_append, front, announced]
  by_cases short : message.length ≤ longestMessage
  · have long : ¬longestMessage < message.length := Nat.not_lt.mpr short
    simp [short, long]
  · have long : longestMessage < message.length := Nat.lt_of_not_le short
    simp [short, long]

/-- What a body with one frame is scanned for. -/
theorem scan_frame :
    scan (frame message)
      = if message.length ≤ longestMessage then ([message], .ok [])
        else ([], .error (.tooLong message.length)) := by
  have step := front_frame fits []
  rw [List.append_nil] at step
  have nothing : scan [] = ([], .ok []) := by
    rw [scan]
    rfl
  by_cases short : message.length ≤ longestMessage
  · rw [if_pos short] at step ⊢
    rw [scan]
    split
    · next unread found => cases step.symm.trans found
    · next fault found => cases step.symm.trans found
    · next whole rest found =>
      cases step.symm.trans found
      rw [nothing]
  · rw [if_neg short] at step ⊢
    rw [scan]
    split
    · next unread found => cases step.symm.trans found
    · next fault found =>
      cases step.symm.trans found
      rfl
    · next whole rest found => cases step.symm.trans found

end

/-! ## Paths -/

/-- The path of a call tells the kind of hook that it carries. -/
theorem kindOfPath?_callPath (kind : HookType) : kindOfPath? (callPath kind) = some kind := by
  cases kind <;> decide

theorem callPath_eq (kind : HookType) :
    callPath kind = "/crane.grpc.plugin.CranePluginD/" ++ kind.callName := by
  cases kind <;> decide

theorem callPath_injective : Function.Injective callPath := by
  intro first second same
  have found := kindOfPath?_callPath first
  rw [same, kindOfPath?_callPath second] at found
  exact (Option.some.inj found).symm

/-! ## Requests -/

namespace Request

/-- The payload that a request carries, as a daemon reads it that takes messages of any length. -/
def read? (request : Request) : Option Payload :=
  match kindOfPath? request.path, unframe? request.body with
  | some kind, some message => (Payload.ofMessage kind message).toOption
  | _, _ => none

end Request

end Rpc

namespace Payload

open Wire

/-- Every payload travels in a lawful format, in which it is decoded as a request of its kind. -/
theorem exists_format (payload : Payload) :
    ∃ (μ : Type) (format : Format μ) (depth : Nat) (make : μ → Payload) (value : μ),
      format.Lawful depth ∧ depth ≤ Format.maxLevels ∧ payload = make value
        ∧ payload.message = format.encode value ∧ payload.messageSize = format.size value
        ∧ ∀ bytes, ofMessage payload.hookType bytes = (format.decode bytes).map make := by
  cases payload with
  | start jobs =>
    exact ⟨_, JobInfo.startFormat, 2, start, jobs, JobInfo.listFormat_lawful _, by decide, rfl, rfl,
      rfl, fun _ => rfl⟩
  | finish jobs =>
    exact ⟨_, JobInfo.finishFormat, 2, finish, jobs, JobInfo.listFormat_lawful _, by decide, rfl,
      rfl, rfl, fun _ => rfl⟩
  | monitor target =>
    exact ⟨_, MonitorTarget.format, 0, monitor, target, MonitorTarget.format_lawful, by decide, rfl,
      rfl, rfl, fun _ => rfl⟩

theorem length_message (payload : Payload) : payload.message.length = payload.messageSize := by
  obtain ⟨μ, format, depth, make, value, lawful, -, -, written, size, -⟩ := payload.exists_format
  rw [written, size, lawful.length_encode]

/-- A message is decoded to the payload that it was made of. -/
theorem ofMessage_message {payload : Payload} (fits : payload.message.length < 0x100000000) :
    ofMessage payload.hookType payload.message = .ok payload := by
  obtain ⟨μ, format, depth, make, value, lawful, deep, made, written, -, read⟩ :=
    payload.exists_format
  rw [written, lawful.length_encode] at fits
  have small : Varint.Fits (format.size value) := by
    unfold Varint.Fits
    omega
  rw [read, written, lawful.decode_encode deep small, made]
  rfl

/-- A request for a payload is read as that payload. -/
theorem read?_ofPayload (limit? : Option Rpc.TimeLimit) {payload : Payload}
    (fits : payload.message.length < 0x100000000) :
    (Rpc.Request.ofPayload limit? payload).read? = some payload := by
  simp only [Rpc.Request.read?, Rpc.Request.ofPayload, Rpc.kindOfPath?_callPath,
    Rpc.unframe?_frame fits, ofMessage_message fits]
  rfl

/-- A daemon that takes only messages up to a limit reads the same, or nothing. -/
theorem payload?_ofPayload (limit? : Option Rpc.TimeLimit) {payload : Payload}
    (fits : payload.message.length < 0x100000000) :
    (Rpc.Request.ofPayload limit? payload).payload?
      = if payload.message.length ≤ Rpc.longestMessage then some payload else none := by
  simp only [Rpc.Request.payload?, Rpc.Request.ofPayload, Rpc.kindOfPath?_callPath,
    Rpc.scan_frame fits]
  by_cases short : payload.message.length ≤ Rpc.longestMessage
  · simp only [if_pos short, ofMessage_message fits]
    rfl
  · simp only [if_neg short]

end Payload

/-! ## What goes out -/

namespace Transport

variable {σ ρ : Type} {link : Link σ ρ} {context : CallContext} {transport : Transport σ}

/-- Dispatching a payload over a transport is a call over it. -/
theorem reaction_dispatch [Inhabited ρ] (payload : Payload) :
    ((daemon link).dispatch context payload transport).reaction
      = transport.callReaction link context payload := by
  cases payload <;> rfl

end Transport

namespace Link

variable {σ ρ : Type}

/-- The same link, which keeps beside what is beyond it the requests that have gone over it, the
oldest first. -/
def recording (link : Link σ ρ) : Link (σ × List Rpc.Request) ρ where
  socketPath := link.socketPath
  dial := fun timeout (beyond, sent) =>
    let (outcome, next) := link.dial timeout beyond
    (outcome, next, sent)
  exchange := fun kind request (beyond, sent) =>
    let (result, next) := link.exchange kind request beyond
    (result, next, sent ++ [request])

/-- Dispatching a payload over a channel sends one request: the one for the payload. -/
theorem sent_dispatch [Inhabited ρ] (link : Link σ ρ) (payload : Payload) {context : CallContext}
    {transport : Transport (σ × List Rpc.Request)} {limit? : Option Rpc.TimeLimit}
    (channel : transport.hasChannel = true)
    (expressible : Rpc.limitOf context.timeout = .ok limit?) :
    ((Transport.daemon link.recording).dispatch context payload transport).reaction.next.beyond.2
      = transport.beyond.2 ++ [.ofPayload limit? payload] := by
  rw [Transport.reaction_dispatch]
  have gone : (transport.call link.recording context payload default).next.beyond = _ :=
    Transport.beyond_call payload default channel expressible
  exact congrArg Prod.snd gone

end Link

/-! ## Path and body -/

section

open Rpc

/-- **Path and body of a request tell its payload.**  Whatever is beyond the channel, a payload that
is dispatched over it goes out as one request.  Its path names the call for the payload's own kind,
and its body is one frame: a zero for "not compressed", the length of the message in four bytes with
the most significant one first, and the message.  Read by the path, the body gives back the payload;
a daemon that limits the length of messages refuses those that are longer.  So two payloads that
differ never have the same path and body, though for the same jobs the requests that they have
started and that they have ended differ in nothing but the path. -/
theorem Payload.identified_by_request {σ ρ : Type} [Inhabited ρ] (link : Link σ ρ) :
    (∀ (payload : Payload) (context : CallContext) (limit? : Option TimeLimit)
        (transport : Transport (σ × List Request)),
        transport.hasChannel = true → limitOf context.timeout = .ok limit? →
        let sent := (Transport.daemon link.recording).dispatch context payload transport
        sent.reaction.next.beyond.2 = transport.beyond.2 ++ [.ofPayload limit? payload])
      ∧ (∀ (payload : Payload) (limit? : Option TimeLimit), payload.message.length < 0x100000000 →
        let request := Request.ofPayload limit? payload
        request.path = "/crane.grpc.plugin.CranePluginD/" ++ payload.hookType.callName
          ∧ (∃ a b c d : UInt8, request.body = 0 :: a :: b :: c :: d :: payload.message
            ∧ payload.message.length
              = 0x1000000 * a.toNat + 0x10000 * b.toNat + 0x100 * c.toNat + d.toNat)
          ∧ request.read? = some payload
          ∧ request.payload?
            = if payload.message.length ≤ longestMessage then some payload else none)
      ∧ (∀ (first second : Payload) (firstLimit? secondLimit? : Option TimeLimit),
        first.message.length < 0x100000000 → second.message.length < 0x100000000 →
        (Request.ofPayload firstLimit? first).path = (Request.ofPayload secondLimit? second).path →
        (Request.ofPayload firstLimit? first).body = (Request.ofPayload secondLimit? second).body →
        first = second)
      ∧ ∀ (jobs : List JobInfo) (limit? : Option TimeLimit),
        (Request.ofPayload limit? (.start jobs)).body
            = (Request.ofPayload limit? (.finish jobs)).body
          ∧ (Request.ofPayload limit? (.start jobs)).path
            ≠ (Request.ofPayload limit? (.finish jobs)).path := by
  refine ⟨?_, ?_, ?_, ?_⟩
  · intro payload context limit? transport channel expressible
    exact link.sent_dispatch payload channel expressible
  · intro payload limit? fits request
    refine ⟨?_, ⟨_, _, _, _, rfl, ?_⟩, read?_ofPayload limit? fits, payload?_ofPayload limit? fits⟩
    · exact callPath_eq payload.hookType
    · have announced := Bytes.toNumber_ofNumber fits
      simp only [Bytes.ofNumber, Bytes.toNumber, List.foldl_cons, List.foldl_nil] at announced
      omega
  · intro first second firstLimit? secondLimit? firstFits secondFits path body
    have same : (Request.ofPayload firstLimit? first).read?
        = (Request.ofPayload secondLimit? second).read? := by
      simp only [Request.read?, path, body]
    rw [read?_ofPayload firstLimit? firstFits, read?_ofPayload secondLimit? secondFits] at same
    exact Option.some.inj same
  · intro jobs limit?
    refine ⟨rfl, ?_⟩
    intro path
    exact HookType.noConfusion (callPath_injective path)

/-- An end hook with two jobs goes out over a live channel, its request is read as such, and one job
less makes another body. -/
theorem Payload.identified_by_request_finish :
    let link := Site.link "d.sock"
    let payload : Payload := .finish [{ id := 7, name := "é" }, {}]
    let other : Payload := .finish [{ id := 7, name := "é" }]
    let transport : Transport (Site × List Request) :=
      { beyond := ({ socket := "d.sock", listening := true }, []), hasChannel := true }
    let request := Request.ofPayload (some ⟨5000000, .microsecond⟩) payload
    ((Transport.daemon link.recording).dispatch (.fresh (some 5000)) payload
        transport).reaction.next.beyond.2 = [request]
      ∧ request.read? = some payload
      ∧ request.path = (Request.ofPayload none other).path
      ∧ request.body ≠ (Request.ofPayload none other).body := by
  intro link payload other transport request
  obtain ⟨sends, identifies, apart, -⟩ := identified_by_request link
  have fits : payload.message.length < 0x100000000 := by
    rw [length_message]
    decide
  have otherFits : other.message.length < 0x100000000 := by
    rw [length_message]
    decide
  refine ⟨?_, ?_, rfl, ?_⟩
  · exact sends payload (.fresh (some 5000)) _ transport rfl (by decide)
  · exact (identifies payload _ fits).2.2.1
  · intro body
    have same : payload = other := apart payload other _ none fits otherFits rfl body
    exact absurd same (by decide)

end

end JobHooks
