import JobHooks.Proofs.Queue.Operations

/-!
# A queue on a pipe

A pipe carries messages from its sending ends to its receiving ends, one at a time and oldest first.
A `Pipe` is any way of doing this, with states of its own; `Pipe.Keeps` says what its operations
have to do to the messages under way, as long as there are ends to do it with.

Each handle to a queue is a sending and a receiving end of one pipe.  Several elements are sent one
after the other and counted, whatever becomes of each sending; elements are received one after the
other until there are enough or none comes; a handle is made and dropped end by end.  What the loops
come to is one lemma each (`Pipe.Keeps.enqueueAll`, `Pipe.Keeps.dequeueUpTo`).  No sending is in
vain while a receiving end is left, and each handle has one: this is why the number counted is the
number sent.

`Pipe.refines_list` puts it together: whatever is done through the handles, a pipe answers as a
queue does, and both are one list.
-/

namespace JobHooks

set_option autoImplicit false

variable {κ α : Type}

/-! ## Pipes -/

/-- Why no message was received. -/
inductive Pipe.Unreceived where
  /-- No message is under way. -/
  | empty
  /-- No message is under way, and no sending end is left. -/
  | disconnected
  deriving Repr, DecidableEq, Inhabited

/-- The messages under way, oldest first, and how many ends are left. -/
structure Pipe.Contents (α : Type) where
  messages : List α := []
  senders : Nat := 1
  receivers : Nat := 1
  deriving Repr, DecidableEq, Inhabited

/-- The operations of a pipe, with states of type `κ`. -/
structure Pipe (κ α : Type) where
  /-- A pipe with one sending and one receiving end, and no message under way. -/
  created : κ
  /-- Sends a message, or gives it back. -/
  send : α → κ → Except α Unit × κ
  /-- Receives the oldest message, if one is under way. -/
  tryReceive : κ → Except Pipe.Unreceived α × κ
  length : κ → Nat
  isEmpty : κ → Bool
  cloneSender : κ → κ
  cloneReceiver : κ → κ
  dropSender : κ → κ
  dropReceiver : κ → κ

/-- A queue seen as a pipe: each handle is a sending and a receiving end. -/
def Queue.contents (queue : Queue α) : Pipe.Contents α where
  messages := queue.waiting
  senders := queue.handles
  receivers := queue.handles

namespace Pipe

/-- What a pipe has to do to its contents.  Nothing is said of dropping the last sending or
receiving end, nor of sending when no receiving end is left. -/
structure Keeps (pipe : Pipe κ α) (contents : κ → Contents α) : Prop where
  created : contents pipe.created = {}
  send : ∀ {state : κ} (message : α), 0 < (contents state).receivers →
    contents (pipe.send message state).2
      = { contents state with messages := (contents state).messages ++ [message] }
  receive : ∀ {state : κ} {message : α} {rest : List α},
    (contents state).messages = message :: rest →
    (pipe.tryReceive state).1 = .ok message
      ∧ contents (pipe.tryReceive state).2 = { contents state with messages := rest }
  receive_nothing : ∀ {state : κ}, (contents state).messages = [] →
    (∃ reason, (pipe.tryReceive state).1 = .error reason)
      ∧ contents (pipe.tryReceive state).2 = contents state
  length_eq : ∀ state : κ, pipe.length state = (contents state).messages.length
  isEmpty_eq : ∀ state : κ, pipe.isEmpty state = (contents state).messages.isEmpty
  cloneSender : ∀ {state : κ}, 0 < (contents state).senders →
    contents (pipe.cloneSender state)
      = { contents state with senders := (contents state).senders + 1 }
  cloneReceiver : ∀ {state : κ}, 0 < (contents state).receivers →
    contents (pipe.cloneReceiver state)
      = { contents state with receivers := (contents state).receivers + 1 }
  dropSender : ∀ {state : κ}, 1 < (contents state).senders →
    contents (pipe.dropSender state)
      = { contents state with senders := (contents state).senders - 1 }
  dropReceiver : ∀ {state : κ}, 1 < (contents state).receivers →
    contents (pipe.dropReceiver state)
      = { contents state with receivers := (contents state).receivers - 1 }

/-! ## What is done through a handle -/

/-- What came of receiving: the number counted, what has been received, and the state after it. -/
structure Received (κ α : Type) where
  count : Nat
  elements : List α
  state : κ

variable (pipe : Pipe κ α)

/-- Sends an element, and does not look whether it was given back. -/
def enqueue (element : α) (state : κ) : κ := (pipe.send element state).2

/-- Sends elements in their order when `count` were sent before, and counts them. -/
def enqueueAll : List α → (count : Nat) → κ → Nat × κ
  | [], count, state => (count, state)
  | element :: rest, count, state => enqueueAll rest (count + 1) (pipe.enqueue element state)

/-- Receives elements behind those that are there, until `limit` are counted or none comes.  The
count does not go beyond the limit. -/
def dequeueUpTo (limit count : Nat) (elements : List α) (state : κ) : Received κ α :=
  if count < limit then
    match pipe.tryReceive state with
    | (.ok element, next) => dequeueUpTo limit (count + 1) (elements ++ [element]) next
    | (.error _, next) => ⟨count, elements, next⟩
  else ⟨count, elements, state⟩
termination_by limit - count

/-- Makes another handle. -/
def cloneHandle (state : κ) : κ := pipe.cloneReceiver (pipe.cloneSender state)

/-- Drops a handle. -/
def dropHandle (state : κ) : κ := pipe.dropReceiver (pipe.dropSender state)

/-- Carries an operation out through a handle. -/
def perform : Queue.Operation α → κ → Queue.Answer α × κ
  | .enqueue element, state => (.done, pipe.enqueue element state)
  | .enqueueAll elements, state =>
    let (count, next) := pipe.enqueueAll elements 0 state
    (.handedOver count, next)
  | .dequeue limit, state =>
    let received := pipe.dequeueUpTo limit 0 [] state
    (.took received.elements received.count, received.state)
  | .defer limit skip, state =>
    let received := pipe.dequeueUpTo limit 0 [] state
    let (returned, next) := pipe.enqueueAll (received.elements.drop skip) 0 received.state
    (.deferred received.elements received.count returned, next)
  | .clone, state => (.done, pipe.cloneHandle state)
  | .drop, state => (.done, pipe.dropHandle state)

/-- The operations of queues on a pipe. -/
def service : Queue.Service κ α := ⟨pipe.perform, pipe.length, pipe.isEmpty⟩

/-- Elements are counted whatever becomes of them. -/
theorem count_enqueueAll (elements : List α) (count : Nat) (state : κ) :
    (pipe.enqueueAll elements count state).1 = count + elements.length := by
  induction elements generalizing count state with
  | nil => rfl
  | cons element rest ih =>
    rw [enqueueAll, ih, List.length_cons]
    omega

/-! ## What the operations come to -/

namespace Keeps

variable {pipe} {contents : κ → Contents α} {state : κ}

/-- **All that is sent is under way.** -/
theorem enqueueAll (keeps : pipe.Keeps contents) (elements : List α) (count : Nat)
    (reachable : 0 < (contents state).receivers) :
    contents (pipe.enqueueAll elements count state).2
      = { contents state with messages := (contents state).messages ++ elements } := by
  induction elements generalizing count state with
  | nil => simp [Pipe.enqueueAll]
  | cons element rest ih =>
    have sent : contents (pipe.enqueue element state)
        = { contents state with messages := (contents state).messages ++ [element] } :=
      keeps.send element reachable
    rw [Pipe.enqueueAll, ih (count + 1) (by rwa [sent]), sent, List.append_assoc,
      List.singleton_append]

/-- **What is received is the front of what is under way**, as far as the limit allows, and it is
counted. -/
theorem dequeueUpTo (keeps : pipe.Keeps contents) (limit count : Nat) (elements : List α)
    (state : κ) :
    let front := (contents state).messages.take (limit - count)
    let received := pipe.dequeueUpTo limit count elements state
    received.count = count + front.length
      ∧ received.elements = elements ++ front
      ∧ contents received.state
        = { contents state with messages := (contents state).messages.drop (limit - count) } := by
  -- The function has one case in which it goes on: there is room, and a message was received.
  fun_induction Pipe.dequeueUpTo pipe limit count elements state with
  | case1 count elements state room element next receives ih =>
    cases messages : (contents state).messages with
    | nil =>
      obtain ⟨⟨reason, refused⟩, -⟩ := keeps.receive_nothing messages
      rw [receives] at refused
      nomatch refused
    | cons message rest =>
      obtain ⟨same, left⟩ := keeps.receive messages
      rw [receives] at same left
      obtain rfl : element = message := Except.ok.inj same
      simp only [left] at ih
      obtain ⟨number, all, after⟩ := ih
      have missing : limit - count = (limit - (count + 1)) + 1 := by omega
      rw [missing, List.take_succ_cons, List.drop_succ_cons]
      refine ⟨?_, ?_, after⟩
      · rw [number, List.length_cons]
        omega
      · rw [all, List.append_assoc, List.singleton_append]
  | case2 count elements state room reason next refuses =>
    cases messages : (contents state).messages with
    | nil =>
      have same : contents next = contents state := by
        simpa only [refuses] using (keeps.receive_nothing messages).2
      refine ⟨by simp, by simp, ?_⟩
      rw [List.drop_nil, same, ← messages]
    | cons message rest =>
      have received := (keeps.receive messages).1
      rw [refuses] at received
      nomatch received
  | case3 count elements state full =>
    have none : limit - count = 0 := by omega
    simp [none]

/-- Another handle is a sending and a receiving end more. -/
theorem cloneHandle (keeps : pipe.Keeps contents) (senders : 0 < (contents state).senders)
    (receivers : 0 < (contents state).receivers) :
    contents (pipe.cloneHandle state)
      = { contents state with
          senders := (contents state).senders + 1
          receivers := (contents state).receivers + 1 } := by
  have sender := keeps.cloneSender senders
  rw [Pipe.cloneHandle, keeps.cloneReceiver (by rwa [sender]), sender]

/-- While another handle is left, dropping one gives up nothing but its ends. -/
theorem dropHandle (keeps : pipe.Keeps contents) (senders : 1 < (contents state).senders)
    (receivers : 1 < (contents state).receivers) :
    contents (pipe.dropHandle state)
      = { contents state with
          senders := (contents state).senders - 1
          receivers := (contents state).receivers - 1 } := by
  have sender := keeps.dropSender senders
  rw [Pipe.dropHandle, keeps.dropReceiver (by rwa [sender]), sender]

/-! ## Pipe and queue -/

variable {queue : Queue α}

/-- A pipe to which elements are sent holds what a queue holds to which they are handed over. -/
theorem enqueueAll_eq (keeps : pipe.Keeps contents) (same : contents state = queue.contents)
    (some : 0 < queue.handles) (elements : List α) :
    contents (pipe.enqueueAll elements 0 state).2 = (queue.enqueueAll elements).contents := by
  rw [keeps.enqueueAll elements 0 (same ▸ some), same]
  rfl

/-- From a pipe comes what is taken from a queue, and the same is left. -/
theorem dequeueUpTo_eq (keeps : pipe.Keeps contents) (same : contents state = queue.contents)
    (limit : Nat) :
    let received := pipe.dequeueUpTo limit 0 [] state
    received.count = (queue.dequeueUpTo limit).1.length
      ∧ received.elements = (queue.dequeueUpTo limit).1
      ∧ contents received.state = (queue.dequeueUpTo limit).2.contents := by
  intro received
  obtain ⟨count, elements, left⟩ := keeps.dequeueUpTo limit 0 [] state
  rw [same, Nat.sub_zero] at count elements left
  exact ⟨count.trans (Nat.zero_add _), elements.trans (List.nil_append _), left⟩

/-- **A pipe answers as a queue does** to an operation that leaves a handle, and then holds the
same. -/
theorem perform_eq (keeps : pipe.Keeps contents) (same : contents state = queue.contents)
    {operation : Queue.Operation α} (some : 0 < queue.handles)
    (left : 0 < operation.handlesAfter queue.handles) :
    (pipe.perform operation state).1 = (Queue.perform operation queue).1
      ∧ contents (pipe.perform operation state).2
        = (Queue.perform operation queue).2.contents := by
  cases operation with
  | enqueue element =>
    have sent : contents (pipe.send element state).2 = _ := keeps.send element (same ▸ some)
    rw [same] at sent
    exact ⟨rfl, sent⟩
  | enqueueAll elements =>
    have count : (pipe.enqueueAll elements 0 state).1 = elements.length :=
      (pipe.count_enqueueAll elements 0 state).trans (Nat.zero_add _)
    exact ⟨congrArg Queue.Answer.handedOver count, keeps.enqueueAll_eq same some elements⟩
  | dequeue limit =>
    obtain ⟨count, taken, rest⟩ := keeps.dequeueUpTo_eq same limit
    refine ⟨?_, rest⟩
    simp only [Pipe.perform, count, taken]
    rfl
  | defer limit skip =>
    obtain ⟨count, taken, rest⟩ := keeps.dequeueUpTo_eq same limit
    have again := keeps.enqueueAll_eq rest some ((queue.dequeueUpTo limit).1.drop skip)
    refine ⟨?_, ?_⟩
    · simp only [Pipe.perform, count_enqueueAll, count, taken, Nat.zero_add]
      rfl
    · simp only [Pipe.perform, taken]
      exact again
  | clone =>
    have cloned : contents (pipe.cloneHandle state) = _ :=
      keeps.cloneHandle (same ▸ some) (same ▸ some)
    rw [same] at cloned
    exact ⟨rfl, cloned⟩
  | drop =>
    have several : 1 < queue.handles := Nat.lt_of_sub_pos left
    have dropped : contents (pipe.dropHandle state) = _ :=
      keeps.dropHandle (same ▸ several) (same ▸ several)
    refine ⟨rfl, ?_⟩
    rw [Pipe.perform, dropped, same, Queue.perform, Queue.drop_of_several several]
    rfl

/-- A step on a pipe shows what the step on a queue shows. -/
theorem step_eq (keeps : pipe.Keeps contents) (same : contents state = queue.contents)
    {operation : Queue.Operation α} (some : 0 < queue.handles)
    (left : 0 < operation.handlesAfter queue.handles) :
    pipe.service.step operation state = Queue.service.step operation queue := by
  obtain ⟨answer, next⟩ := keeps.perform_eq same some left
  have size : pipe.length (pipe.perform operation state).2
      = (Queue.perform operation queue).2.size := by
    rw [keeps.length_eq, next]
    rfl
  have isEmpty : pipe.isEmpty (pipe.perform operation state).2
      = (Queue.perform operation queue).2.isEmpty := by
    rw [keeps.isEmpty_eq, next]
    rfl
  simp only [Queue.Service.step, service, Queue.service, answer, size, isEmpty]

/-- **A pipe answers as a queue does**, whatever is done through its handles. -/
theorem run_eq (keeps : pipe.Keeps contents) (queue : Queue α)
    (same : contents state = queue.contents) {operations : List (Queue.Operation α)}
    (held : Queue.Held queue.handles operations) :
    (pipe.service.run operations state).steps = (Queue.service.run operations queue).steps
      ∧ contents (pipe.service.run operations state).state
        = (Queue.service.run operations queue).state.contents := by
  induction operations generalizing state queue with
  | nil => exact ⟨rfl, same⟩
  | cons operation rest ih =>
    have next := (keeps.perform_eq same held.pos held.2.pos).2
    have later : Queue.Held (Queue.perform operation queue).2.handles rest := by
      rw [Queue.handles_perform]
      exact held.2
    obtain ⟨steps, last⟩ := ih _ next later
    exact ⟨List.cons_eq_cons.mpr ⟨keeps.step_eq same held.pos held.2.pos, steps⟩, last⟩

end Keeps

/-! ## A pipe that is its contents -/

/-- The pipe whose states are its contents.  With its last receiving end it gives the messages up.
-/
def plain : Pipe (Contents α) α where
  created := {}
  send message contents :=
    if contents.receivers = 0 then (.error message, contents)
    else (.ok (), { contents with messages := contents.messages ++ [message] })
  tryReceive contents :=
    match contents.messages with
    | [] => (.error (if contents.senders = 0 then .disconnected else .empty), contents)
    | message :: rest => (.ok message, { contents with messages := rest })
  length contents := contents.messages.length
  isEmpty contents := contents.messages.isEmpty
  cloneSender contents := { contents with senders := contents.senders + 1 }
  cloneReceiver contents := { contents with receivers := contents.receivers + 1 }
  dropSender contents := { contents with senders := contents.senders - 1 }
  dropReceiver contents :=
    if contents.receivers ≤ 1 then { contents with messages := [], receivers := 0 }
    else { contents with receivers := contents.receivers - 1 }

theorem plain_keeps : (plain (α := α)).Keeps id where
  created := rfl
  send := by
    intro state message (reachable : 0 < state.receivers)
    simp [plain, Nat.ne_of_gt reachable]
  receive := by
    intro state message rest (messages : state.messages = message :: rest)
    simp [plain, messages]
  receive_nothing := by
    intro state (messages : state.messages = [])
    simp [plain, messages]
  length_eq _ := rfl
  isEmpty_eq _ := rfl
  cloneSender _ := rfl
  cloneReceiver _ := rfl
  dropSender _ := rfl
  dropReceiver := by
    intro state (several : 1 < state.receivers)
    simp only [plain, id, if_neg (Nat.not_le.mpr several)]

/-! ## One list -/

/-- **A queue on a pipe is one list.**  Whatever is done through the handles of a new queue while at
least one of them is left, on any pipe that keeps its messages: the pipe answers as the queue does
and holds the same; each operation does to one list what it has to do, with the true numbers, and
shows how long the list is and whether it is empty; to replace a handle by another one, at any time,
changes nothing; and unless something is handed over again, what was taken and what is waiting is
what was handed over, in its order. -/
theorem refines_list {pipe : Pipe κ α} {contents : κ → Contents α} (keeps : pipe.Keeps contents)
    (operations : List (Queue.Operation α)) (held : Queue.Held 1 operations) :
    let onPipe := pipe.service.run operations pipe.created
    let onQueue := Queue.service.run operations Queue.empty
    let waiting := onQueue.state.toList
    onPipe.steps = onQueue.steps
      ∧ contents onPipe.state = onQueue.state.contents
      ∧ onPipe.steps.map Queue.Step.operation = operations
      ∧ Queue.Runs [] onPipe.steps waiting
      ∧ (∀ earlier later, operations = earlier ++ later →
        let replaced := pipe.service.run (earlier ++ .clone :: .drop :: later) pipe.created
        contents replaced.state = contents onPipe.state
          ∧ ∃ before cloned dropped after, before.map Queue.Step.operation = earlier
            ∧ onPipe.steps = before ++ after
            ∧ replaced.steps = before ++ cloned :: dropped :: after)
      ∧ ((∀ step ∈ onPipe.steps, step.answer.returned = 0) →
        onPipe.steps.flatMap Queue.Step.taken ++ waiting
          = operations.flatMap Queue.Operation.enqueued) := by
  intro onPipe onQueue waiting
  obtain ⟨steps, same⟩ := keeps.run_eq .empty keeps.created held
  have operations_eq : onPipe.steps.map Queue.Step.operation = operations :=
    pipe.service.map_operation_run operations pipe.created
  have runs : Queue.Runs [] onPipe.steps waiting := by
    rw [steps]
    exact Queue.runs_of_held .empty held
  refine ⟨steps, same, operations_eq, runs, ?_, ?_⟩
  · rintro earlier later rfl replaced
    obtain ⟨replacedSteps, replacedSame⟩ :=
      keeps.run_eq .empty keeps.created held.replacing
    obtain ⟨kept, before, cloned, dropped, after, first, without, all⟩ :=
      Queue.run_replacing .empty held
    refine ⟨by rw [replacedSame, kept, same], before, cloned, dropped, after, first, ?_, ?_⟩
    · rw [steps, without]
    · rw [replacedSteps, all]
  · intro once
    rw [runs.in_order_of_once once, operations_eq, List.nil_append]

/-- All but the first of three elements are put off, and then everything is taken; a handle may be
replaced in between.  In the second sequence nothing is left to be put off behind what is skipped.
-/
theorem refines_list_putOff :
    let most := 18446744073709551615
    let pipe : Pipe (Contents Nat) Nat := plain
    let earlier : List (Queue.Operation Nat) := [.enqueueAll [1, 2, 3], .defer most 1, .enqueue 4]
    let later : List (Queue.Operation Nat) := [.dequeue 0, .dequeue most]
    let once : List (Queue.Operation Nat) :=
      [.enqueueAll [1, 2, 3], .clone, .dequeue 1, .defer 1 5, .drop, .enqueue 4]
    pipe.Keeps id ∧ Queue.Held 1 (earlier ++ later) ∧ Queue.Held 1 once
      ∧ (pipe.service.run (earlier ++ later) pipe.created).steps
        = [⟨.enqueueAll [1, 2, 3], .handedOver 3, 3, false⟩,
          ⟨.defer most 1, .deferred [1, 2, 3] 3 2, 2, false⟩,
          ⟨.enqueue 4, .done, 3, false⟩,
          ⟨.dequeue 0, .took [] 0, 3, false⟩,
          ⟨.dequeue most, .took [2, 3, 4] 3, 0, true⟩]
      ∧ (pipe.service.run (earlier ++ .clone :: .drop :: later) pipe.created).state
        = (pipe.service.run (earlier ++ later) pipe.created).state
      ∧ (pipe.service.run once pipe.created).steps.flatMap Queue.Step.taken ++ [3, 4]
        = [1, 2, 3, 4] := by
  intro most pipe earlier later once
  have held : Queue.Held 1 (earlier ++ later) := by decide
  have heldOnce : Queue.Held 1 once := by decide
  obtain ⟨steps, -, -, -, replacing, -⟩ := refines_list plain_keeps (earlier ++ later) held
  obtain ⟨stepsOnce, -, -, -, -, inOrder⟩ := refines_list plain_keeps once heldOnce
  have returned : ∀ step ∈ (pipe.service.run once pipe.created).steps,
      step.answer.returned = 0 := by
    rw [stepsOnce]
    decide
  exact ⟨plain_keeps, held, heldOnce, steps.trans (by decide), (replacing earlier later rfl).1,
    inOrder returned⟩

end Pipe

end JobHooks
