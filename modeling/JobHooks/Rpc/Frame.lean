import JobHooks.Bytes

/-!
# Frames

A message travels in a frame: a byte that says whether it is compressed, its length in four bytes,
and the message.  Frames follow one another without gaps.

`scan` reads the frames at the front of a run of bytes.  It stops at the first frame that is not
complete, and returns what has not been used up: of a frame whose head is complete, what there is of
its message.
-/

namespace JobHooks.Rpc

set_option autoImplicit false

/-- The greatest length of a message that is accepted. -/
def longestMessage : Nat := 4194304

/-- A message in a frame, not compressed. -/
def frame (message : Bytes) : Bytes := 0 :: Bytes.ofNumber message.length ++ message

/-- Why the head of a frame is refused. -/
inductive FrameFault where
  /-- The message is compressed, though nothing was said of how. -/
  | compressed
  /-- The first byte is neither zero nor one. -/
  | flag (value : Nat)
  /-- The message is too long. -/
  | tooLong (length : Nat)
  deriving Repr, DecidableEq, Inhabited

/-- What stands at the front of a run of bytes. -/
inductive Front where
  /-- A frame, and what is left behind it. -/
  | whole (message rest : Bytes)
  /-- Part of a frame, as far as it has not been used up. -/
  | part (unread : Bytes)
  /-- A head that is refused. -/
  | refused (fault : FrameFault)
  deriving Repr, DecidableEq, Inhabited

/-- What stands at the front of a run of bytes. -/
def front : Bytes → Front
  | flag :: a :: b :: c :: d :: rest =>
    let length := Bytes.toNumber [a, b, c, d]
    if flag = 1 then .refused .compressed
    else if flag ≠ 0 then .refused (.flag flag.toNat)
    else if longestMessage < length then .refused (.tooLong length)
    else if rest.length < length then .part rest
    else .whole (rest.take length) (rest.drop length)
  | bytes => .part bytes

/-- What is left behind a frame is shorter. -/
theorem length_of_front {bytes message rest : Bytes} (h : front bytes = .whole message rest) :
    rest.length < bytes.length := by
  unfold front at h
  split at h
  · next flag a b c d tail =>
    simp only at h
    split at h
    · cases h
    split at h
    · cases h
    split at h
    · cases h
    split at h
    · cases h
    · cases h
      simp only [List.length_cons, List.length_drop]
      omega
  · cases h

/-- The messages at the front of a run of bytes, and then either what has not been used up or the
fault of the next head. -/
def scan (bytes : Bytes) : List Bytes × Except FrameFault Bytes :=
  match step : front bytes with
  | .part unread => ([], .ok unread)
  | .refused fault => ([], .error fault)
  | .whole message rest =>
    have : rest.length < bytes.length := length_of_front step
    let (messages, ending) := scan rest
    (message :: messages, ending)
termination_by bytes.length

end JobHooks.Rpc
