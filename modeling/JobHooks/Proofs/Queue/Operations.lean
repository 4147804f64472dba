import JobHooks.Queue

/-!
# Any sequence of operations

What is done with a queue is a sequence of operations: elements are handed over one by one or
several at once, elements are taken, elements are taken and handed over again but for the first few,
handles are made and dropped.  A `Service` is any way of carrying operations out; after each one it
is asked for the answer, for how many elements are waiting, and for whether there are any.

What an operation has to do is said of one list of what is waiting, oldest first: `Queue.Acts` has
one case for each kind of operation, and `Queue.Runs` one step after another.  A queue does this as
long as a handle is left to it (`Queue.runs_of_held`).  In such a course nothing overtakes: what was
waiting and what came in later, in the order of time, is what was taken followed by what is waiting
in the end (`Queue.Runs.in_order`).
-/

namespace JobHooks

set_option autoImplicit false

namespace Queue

variable {α σ : Type}

/-! ## Operations and their answers -/

/-- What is done with a queue by way of one of its handles. -/
inductive Operation (α : Type) where
  /-- One element is handed over. -/
  | enqueue (element : α)
  /-- Elements are handed over in their order. -/
  | enqueueAll (elements : List α)
  /-- Elements are taken, `limit` at most. -/
  | dequeue (limit : Nat)
  /-- Elements are taken, `limit` at most, and all but the first `skip` are handed over again. -/
  | defer (limit skip : Nat)
  /-- Another handle is made. -/
  | clone
  /-- A handle is dropped. -/
  | drop
  deriving Repr, DecidableEq, Inhabited

/-- What an operation returns. -/
inductive Answer (α : Type) where
  | done
  /-- So many elements were handed over. -/
  | handedOver (count : Nat)
  /-- These elements were taken, and so many. -/
  | took (elements : List α) (count : Nat)
  /-- These elements were taken, and so many; so many of them were handed over again. -/
  | deferred (elements : List α) (count returned : Nat)
  deriving Repr, DecidableEq, Inhabited

/-- An operation, its answer, and what is shown of the queue after it. -/
structure Step (α : Type) where
  operation : Operation α
  answer : Answer α
  size : Nat
  isEmpty : Bool
  deriving Repr, DecidableEq, Inhabited

namespace Operation

/-- What an operation hands over for the first time. -/
def enqueued : Operation α → List α
  | enqueue element => [element]
  | enqueueAll elements => elements
  | _ => []

/-- How many handles there are after an operation. -/
def handlesAfter : Operation α → Nat → Nat
  | clone, handles => handles + 1
  | drop, handles => handles - 1
  | _, handles => handles

end Operation

/-- A handle is left before each operation and after the last one, when there are so many in the
beginning. -/
def Held : Nat → List (Operation α) → Prop
  | handles, [] => 0 < handles
  | handles, operation :: rest => 0 < handles ∧ Held (operation.handlesAfter handles) rest

instance decidableHeld : (handles : Nat) → (operations : List (Operation α)) →
    Decidable (Held handles operations)
  | handles, [] => inferInstanceAs (Decidable (0 < handles))
  | handles, operation :: rest =>
    have := decidableHeld (operation.handlesAfter handles) rest
    inferInstanceAs (Decidable (0 < handles ∧ Held (operation.handlesAfter handles) rest))

namespace Held

variable {handles : Nat} {operations earlier later : List (Operation α)}

theorem pos (held : Held handles operations) : 0 < handles := by
  cases operations with
  | nil => exact held
  | cons operation rest => exact held.1

theorem of_append (held : Held handles (earlier ++ later)) : Held handles earlier := by
  induction earlier generalizing handles with
  | nil => exact held.pos
  | cons operation rest ih => exact ⟨held.1, ih held.2⟩

/-- Wherever a handle is left, it may be replaced by another one. -/
theorem replacing (held : Held handles (earlier ++ later)) :
    Held handles (earlier ++ .clone :: .drop :: later) := by
  induction earlier generalizing handles with
  | nil => exact ⟨held.pos, Nat.succ_pos handles, held⟩
  | cons operation rest ih => exact ⟨held.1, ih held.2⟩

end Held

namespace Answer

/-- What was taken. -/
def taken : Answer α → List α
  | took elements _ => elements
  | deferred elements _ _ => elements
  | _ => []

/-- How many elements were handed over again. -/
def returned : Answer α → Nat
  | deferred _ _ returned => returned
  | _ => 0

end Answer

/-- What is taken in a step. -/
def Step.taken (step : Step α) : List α := step.answer.taken

/-- What comes in with a step, be it for the first time or again. -/
def Step.entered (step : Step α) : List α :=
  match step.operation with
  | .defer _ skip => step.taken.drop skip
  | operation => operation.enqueued

/-! ## One list -/

/-- What an operation does to the list of what is waiting, and what it returns. -/
inductive Acts : Operation α → Answer α → List α → List α → Prop where
  | enqueue (element : α) (list : List α) :
      Acts (.enqueue element) .done list (list ++ [element])
  | enqueueAll (elements list : List α) :
      Acts (.enqueueAll elements) (.handedOver elements.length) list (list ++ elements)
  | dequeue {limit : Nat} {taken rest : List α}
      (number : taken.length = min limit (taken ++ rest).length) :
      Acts (.dequeue limit) (.took taken taken.length) (taken ++ rest) rest
  | defer {limit skip : Nat} {kept returned rest : List α}
      (number : (kept ++ returned).length = min limit (kept ++ returned ++ rest).length)
      (skipped : kept.length = min skip (kept ++ returned).length) :
      Acts (.defer limit skip)
        (.deferred (kept ++ returned) (kept ++ returned).length returned.length)
        (kept ++ returned ++ rest) (rest ++ returned)
  | clone (list : List α) : Acts .clone .done list list
  | drop (list : List α) : Acts .drop .done list list

/-- A step does to the list what its operation has to do, and shows the list that it leaves. -/
structure Step.Sound (before : List α) (step : Step α) (after : List α) : Prop where
  acts : Acts step.operation step.answer before after
  size_eq : step.size = after.length
  isEmpty_iff : step.isEmpty = true ↔ step.size = 0

/-- Sound steps, one after the other. -/
inductive Runs : List α → List (Step α) → List α → Prop where
  | nil (list : List α) : Runs list [] list
  | cons {before between after : List α} {step : Step α} {steps : List (Step α)}
      (sound : step.Sound before between) (rest : Runs between steps after) :
      Runs before (step :: steps) after

/-- Behind the elements that are skipped is what goes back. -/
theorem drop_skipped {skip : Nat} {kept returned : List α}
    (skipped : kept.length = min skip (kept ++ returned).length) :
    (kept ++ returned).drop skip = returned := by
  rcases Nat.le_total skip (kept ++ returned).length with few | many
  · rw [Nat.min_eq_left few] at skipped
    rw [← skipped, List.drop_left]
  · rw [Nat.min_eq_right many, List.length_append] at skipped
    have none : returned = [] := List.eq_nil_of_length_eq_zero (by omega)
    rw [List.drop_of_length_le many, none]

/-- What was waiting and what comes in is what is taken and what is waiting then. -/
theorem Step.Sound.in_order {before after : List α} {step : Step α}
    (sound : step.Sound before after) :
    before ++ step.entered = step.taken ++ after := by
  obtain ⟨operation, answer, size, isEmpty⟩ := step
  cases sound.acts with
  | enqueue | enqueueAll | dequeue | clone | drop =>
    simp [entered, taken, Operation.enqueued, Answer.taken]
  | defer number skipped => simp [entered, taken, Answer.taken, drop_skipped skipped]

/-- **Nothing overtakes.**  What was waiting and what came in, in the order of time, is what was
taken and what is waiting in the end. -/
theorem Runs.in_order {before after : List α} {steps : List (Step α)}
    (runs : Runs before steps after) :
    before ++ steps.flatMap Step.entered = steps.flatMap Step.taken ++ after := by
  induction runs with
  | nil list => simp
  | @cons before between after step steps sound _ ih =>
    calc before ++ (step :: steps).flatMap Step.entered
        = before ++ step.entered ++ steps.flatMap Step.entered := by simp
      _ = step.taken ++ (between ++ steps.flatMap Step.entered) := by
          rw [sound.in_order, List.append_assoc]
      _ = (step :: steps).flatMap Step.taken ++ after := by
          rw [ih]
          simp

/-- A step that hands nothing over again lets in what it hands over for the first time. -/
theorem Step.Sound.entered_eq {before after : List α} {step : Step α}
    (sound : step.Sound before after) (once : step.answer.returned = 0) :
    step.entered = step.operation.enqueued := by
  obtain ⟨operation, answer, size, isEmpty⟩ := step
  cases sound.acts with
  | enqueue | enqueueAll | dequeue | clone | drop => rfl
  | @defer limit skip kept returned rest number skipped =>
    show (kept ++ returned).drop skip = []
    rw [drop_skipped skipped]
    exact List.eq_nil_of_length_eq_zero once

/-- **First in, first out.**  Where nothing is handed over again, what was taken and what is waiting
in the end is what was waiting and what was handed over, in the order of time. -/
theorem Runs.in_order_of_once {before after : List α} {steps : List (Step α)}
    (runs : Runs before steps after) (once : ∀ step ∈ steps, step.answer.returned = 0) :
    steps.flatMap Step.taken ++ after
      = before ++ (steps.map Step.operation).flatMap Operation.enqueued := by
  have entered : steps.flatMap Step.entered
      = (steps.map Step.operation).flatMap Operation.enqueued := by
    induction runs with
    | nil => rfl
    | cons sound _ ih =>
      rw [List.flatMap_cons, List.map_cons, List.flatMap_cons,
        sound.entered_eq (once _ List.mem_cons_self),
        ih fun step member => once step (List.mem_cons_of_mem _ member)]
  rw [← entered, runs.in_order]

/-! ## Carrying operations out -/

/-- A way of carrying operations out, with states of type `σ`. -/
structure Service (σ α : Type) where
  perform : Operation α → σ → Answer α × σ
  size : σ → Nat
  isEmpty : σ → Bool

/-- The steps that operations lead to, and the state after them. -/
structure Run (σ α : Type) where
  steps : List (Step α)
  state : σ

namespace Service

/-- Carries an operation out and looks at what it leaves. -/
def step (service : Service σ α) (operation : Operation α) (state : σ) : Step α where
  operation
  answer := (service.perform operation state).1
  size := service.size (service.perform operation state).2
  isEmpty := service.isEmpty (service.perform operation state).2

/-- Carries operations out, one after the other. -/
def run (service : Service σ α) : List (Operation α) → σ → Run σ α
  | [], state => ⟨[], state⟩
  | operation :: rest, state =>
    let later := service.run rest (service.perform operation state).2
    ⟨service.step operation state :: later.steps, later.state⟩

variable (service : Service σ α)

/-- There is one step for each operation. -/
theorem map_operation_run (operations : List (Operation α)) (state : σ) :
    (service.run operations state).steps.map Step.operation = operations := by
  induction operations generalizing state with
  | nil => rfl
  | cons operation rest ih => exact congrArg (operation :: ·) (ih _)

theorem run_append (earlier later : List (Operation α)) (state : σ) :
    let first := service.run earlier state
    let last := service.run later first.state
    service.run (earlier ++ later) state = ⟨first.steps ++ last.steps, last.state⟩ := by
  induction earlier generalizing state with
  | nil => rfl
  | cons operation rest ih =>
    have rest_eq := ih (service.perform operation state).2
    simp only [List.cons_append, run, rest_eq]

end Service

/-- Carries an operation out on a queue. -/
def perform : Operation α → Queue α → Answer α × Queue α
  | .enqueue element, queue => (.done, queue.enqueue element)
  | .enqueueAll elements, queue => (.handedOver elements.length, queue.enqueueAll elements)
  | .dequeue limit, queue =>
    let (taken, left) := queue.dequeueUpTo limit
    (.took taken taken.length, left)
  | .defer limit skip, queue =>
    let (taken, _) := queue.dequeueUpTo limit
    let (returned, left) := queue.deferUpTo limit skip
    (.deferred taken taken.length returned, left)
  | .clone, queue => (.done, queue.clone)
  | .drop, queue => (.done, queue.drop)

/-- The operations of queues. -/
def service : Service (Queue α) α := ⟨perform, size, isEmpty⟩

variable {queue : Queue α}

theorem handles_perform (operation : Operation α) (queue : Queue α) :
    (perform operation queue).2.handles = operation.handlesAfter queue.handles := by
  cases operation with
  | enqueue | enqueueAll | dequeue | defer | clone => rfl
  | drop =>
    rcases Nat.lt_or_ge 1 queue.handles with several | last
    · simp [perform, drop, Operation.handlesAfter, Nat.not_le.mpr several]
    · simp [perform, drop, Operation.handlesAfter, last]

/-- Operations that leave a handle at any time leave one in the end. -/
theorem handles_run_pos (queue : Queue α) {operations : List (Operation α)}
    (held : Held queue.handles operations) :
    0 < (service.run operations queue).state.handles := by
  induction operations generalizing queue with
  | nil => exact held
  | cons operation rest ih =>
    apply ih
    rw [service, handles_perform]
    exact held.2

/-- Dropping a handle gives nothing up while another one is left. -/
theorem drop_of_several (several : 1 < queue.handles) :
    queue.drop = { queue with handles := queue.handles - 1 } := by
  rw [drop, if_neg (Nat.not_le.mpr several)]

/-- A handle may be replaced by another one, if the other one is made first. -/
theorem drop_clone (some : 0 < queue.handles) : queue.clone.drop = queue :=
  drop_of_several (Nat.lt_add_of_pos_left some)

/-- **To replace a handle changes nothing** of what comes before and after, nor of the queue. -/
theorem run_replacing (queue : Queue α) {earlier later : List (Operation α)}
    (held : Held queue.handles (earlier ++ later)) :
    let replaced := service.run (earlier ++ .clone :: .drop :: later) queue
    let kept := service.run (earlier ++ later) queue
    replaced.state = kept.state
      ∧ ∃ before cloned dropped after, before.map Step.operation = earlier
        ∧ kept.steps = before ++ after ∧ replaced.steps = before ++ cloned :: dropped :: after := by
  intro replaced kept
  let middle := (service.run earlier queue).state
  let cloned := service.step .clone middle
  let dropped := service.step .drop middle.clone
  have kept_eq : kept = _ := service.run_append earlier later queue
  have replaced_eq : replaced = _ := service.run_append earlier (.clone :: .drop :: later) queue
  have between : service.run (.clone :: .drop :: later) middle
      = ⟨cloned :: dropped :: (service.run later middle.clone.drop).steps,
        (service.run later middle.clone.drop).state⟩ := rfl
  have same : middle.clone.drop = middle := drop_clone (handles_run_pos queue held.of_append)
  rw [same] at between
  rw [kept_eq, replaced_eq, between]
  exact ⟨rfl, _, cloned, dropped, _, service.map_operation_run earlier queue, rfl, rfl⟩

/-- **A queue is one list.**  An operation that leaves a handle acts on what is waiting as it has to
act on the list. -/
theorem acts_perform {operation : Operation α} (left : 0 < operation.handlesAfter queue.handles) :
    Acts operation (perform operation queue).1 queue.toList (perform operation queue).2.toList := by
  obtain ⟨waiting, handles⟩ := queue
  cases operation with
  | enqueue element => exact .enqueue element waiting
  | enqueueAll elements => exact .enqueueAll elements waiting
  | dequeue limit =>
    have acts : Acts (.dequeue limit) _ (waiting.take limit ++ waiting.drop limit) _ :=
      .dequeue (by simp)
    rwa [List.take_append_drop] at acts
  | defer limit skip =>
    let taken := waiting.take limit
    have acts : Acts (.defer limit skip) _
        (taken.take skip ++ taken.drop skip ++ waiting.drop limit) _ :=
      .defer (by simp [taken]) (by simp)
    rwa [List.take_append_drop, List.take_append_drop] at acts
  | clone => exact .clone waiting
  | drop =>
    have several : 1 < handles := Nat.lt_of_sub_pos left
    rw [perform, drop_of_several several]
    exact .drop waiting

/-- **A queue to which a handle is left is one list, whatever is done with it.** -/
theorem runs_of_held (queue : Queue α) {operations : List (Operation α)}
    (held : Held queue.handles operations) :
    Runs queue.toList (service.run operations queue).steps
      (service.run operations queue).state.toList := by
  induction operations generalizing queue with
  | nil => exact .nil queue.toList
  | cons operation rest ih =>
    have later : Held (perform operation queue).2.handles rest := by
      rw [handles_perform]
      exact held.2
    refine .cons ⟨acts_perform held.2.pos, rfl, ?_⟩ (ih _ later)
    exact List.isEmpty_iff.trans List.length_eq_zero_iff.symm

end Queue

end JobHooks
