/-!
# The queue of pending events

Producers hand events over at the back, and the delivery worker takes them from the front.  Several
handles may share one queue: cloning makes another handle, and what is waiting is given up only with
the last one.

Each operation is one equation on the list of what is waiting: handing over appends, taking up to a
limit splits off a front part of the list.
-/

namespace JobHooks

set_option autoImplicit false

/-- What is waiting, oldest first, and how many handles share it. -/
structure Queue (α : Type) where
  waiting : List α := []
  handles : Nat := 1
  deriving Repr, DecidableEq, Inhabited

namespace Queue

variable {α : Type}

/-- A queue with one handle and nothing waiting. -/
def empty : Queue α := {}

/-- What is waiting, oldest first. -/
def toList (queue : Queue α) : List α := queue.waiting

/-- How many elements are waiting. -/
def size (queue : Queue α) : Nat := queue.waiting.length

/-- Whether nothing is waiting. -/
def isEmpty (queue : Queue α) : Bool := queue.waiting.isEmpty

/-- Hands one element over. -/
def enqueue (queue : Queue α) (element : α) : Queue α :=
  { queue with waiting := queue.waiting ++ [element] }

/-- Hands elements over in their order. -/
def enqueueAll (queue : Queue α) (elements : List α) : Queue α :=
  { queue with waiting := queue.waiting ++ elements }

/-- Takes elements from the front, `limit` at most, and returns them with the queue that is left. -/
def dequeueUpTo (queue : Queue α) (limit : Nat) : List α × Queue α :=
  (queue.waiting.take limit, { queue with waiting := queue.waiting.drop limit })

/-- Takes elements from the front, `limit` at most, keeps the first `skip` of them and hands the
others over again.  The number handed over again is returned with the queue that is left. -/
def deferUpTo (queue : Queue α) (limit skip : Nat) : Nat × Queue α :=
  let (taken, left) := queue.dequeueUpTo limit
  ((taken.drop skip).length, left.enqueueAll (taken.drop skip))

/-- Makes another handle to the queue. -/
def clone (queue : Queue α) : Queue α := { queue with handles := queue.handles + 1 }

/-- Drops one handle; with the last one, what is waiting is given up. -/
def drop (queue : Queue α) : Queue α :=
  if queue.handles ≤ 1 then { waiting := [], handles := 0 }
  else { queue with handles := queue.handles - 1 }

@[simp] theorem toList_enqueue (queue : Queue α) (element : α) :
    (queue.enqueue element).toList = queue.toList ++ [element] := rfl

@[simp] theorem toList_enqueueAll (queue : Queue α) (elements : List α) :
    (queue.enqueueAll elements).toList = queue.toList ++ elements := rfl

@[simp] theorem toList_dequeueUpTo (queue : Queue α) (limit : Nat) :
    (queue.dequeueUpTo limit).2.toList = queue.toList.drop limit := rfl

end Queue

end JobHooks
