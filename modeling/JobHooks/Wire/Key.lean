import JobHooks.Wire.Fault

/-!
# Keys, and skipping what follows an unknown one

A key packs the number of a field and its wire type into one variable-length integer.  A message may
hold fields whose numbers mean nothing to the reader; what follows such a key is skipped by its wire
type alone.  Groups are skipped by matching each opening with its end, and may nest: the numbers of
the groups still open are kept as a stack, so one pass over the bytes suffices.

How deep messages and groups may nest is bounded by a number of levels; a field met when no level is
left is refused.  `length_of_readKey` and `length_of_skipField` say that reading moves forward.
-/

namespace JobHooks.Wire

set_option autoImplicit false

/-- What announces a field. -/
structure Key where
  field : Nat
  wireType : WireType
  deriving Repr, DecidableEq, Inhabited

namespace Key

/-- The bytes of a key. -/
def encode (key : Key) : Bytes := Varint.encode (key.field * 8 + key.wireType.number)

/-- The number of bytes of a key. -/
def size (key : Key) : Nat := Varint.size (key.field * 8 + key.wireType.number)

end Key

/-- Reads a variable-length integer, or says that there is none. -/
def readVarint (input : Bytes) : Except FaultCause (Nat × Bytes) :=
  match Varint.decode input with
  | some found => .ok found
  | none => .error .invalidVarint

/-- Drops exactly `count` bytes, or says that there are fewer. -/
def dropExactly (count : Nat) (input : Bytes) : Except FaultCause Bytes :=
  if input.length < count then .error .bufferUnderflow else .ok (input.drop count)

/-- Reads a key.  Its value has 32 bits, its wire type is one of the six, and no field has number
zero; of several faults the first in this order is reported. -/
def readKey (input : Bytes) : Except FaultCause (Key × Bytes) :=
  match readVarint input with
  | .error cause => .error cause
  | .ok (packed, rest) =>
    if 0x100000000 ≤ packed then .error (.keyTooLarge packed)
    else
      match WireType.ofNumber? (packed % 8) with
      | none => .error (.unknownWireType (packed % 8))
      | some wireType =>
        if packed / 8 = 0 then .error .zeroFieldNumber else .ok (⟨packed / 8, wireType⟩, rest)

theorem length_of_readVarint {input rest : Bytes} {value : Nat}
    (h : readVarint input = .ok (value, rest)) : rest.length < input.length := by
  unfold readVarint at h
  split at h
  · next found step => cases h; exact Varint.length_of_decode step
  · cases h

theorem length_of_dropExactly {count : Nat} {input rest : Bytes}
    (h : dropExactly count input = .ok rest) : rest.length ≤ input.length := by
  unfold dropExactly at h
  split at h
  · cases h
  · cases h; simp

/-- Reading a key uses up at least one byte. -/
theorem length_of_readKey {input rest : Bytes} {key : Key}
    (h : readKey input = .ok (key, rest)) : rest.length < input.length := by
  unfold readKey at h
  split at h
  · cases h
  · next packed remaining step =>
    split at h
    · cases h
    · split at h
      · cases h
      · split at h
        · cases h
        · cases h; exact length_of_readVarint step

/-! ## Skipping -/

/-- Skips what follows a key that opens or ends no group. -/
def skipScalar (wireType : WireType) (input : Bytes) : Except FaultCause Bytes :=
  match wireType with
  | .varint => (readVarint input).map fun found => found.2
  | .fixed64 => dropExactly 8 input
  | .fixed32 => dropExactly 4 input
  | .lengthDelimited =>
    match readVarint input with
    | .error cause => .error cause
    | .ok (count, rest) => dropExactly count rest
  | .startGroup => .ok input
  | .endGroup => .error .unexpectedEndGroup

theorem length_of_skipScalar {wireType : WireType} {input rest : Bytes}
    (h : skipScalar wireType input = .ok rest) : rest.length ≤ input.length := by
  cases wireType with
  | varint =>
    simp only [skipScalar] at h
    cases found : readVarint input with
    | error cause => simp [found, Except.map] at h
    | ok pair =>
      obtain ⟨value, remaining⟩ := pair
      simp only [found, Except.map, Except.ok.injEq] at h
      subst h
      exact Nat.le_of_lt (length_of_readVarint found)
  | fixed64 => exact length_of_dropExactly h
  | fixed32 => exact length_of_dropExactly h
  | lengthDelimited =>
    simp only [skipScalar] at h
    split at h
    · cases h
    · next count remaining step =>
      have := length_of_readVarint step
      have := length_of_dropExactly h
      omega
  | startGroup => cases h; simp
  | endGroup => cases h

/-- Skips up to and including the end of the outermost of the open groups.  The stack holds their
numbers, innermost first, and `levels` counts the levels left inside the innermost one. -/
def skipGroups (levels : Nat) (opened : List Nat) (input : Bytes) : Except FaultCause Bytes :=
  match opened with
  | [] => .ok input
  | innermost :: outer =>
    match _step : readKey input with
    | .error cause => .error cause
    | .ok (key, rest) =>
      if key.wireType = .endGroup then
        if key.field = innermost then skipGroups (levels + 1) outer rest
        else .error .unexpectedEndGroup
      else if levels = 0 then .error .recursionLimit
      else if key.wireType = .startGroup then
        skipGroups (levels - 1) (key.field :: innermost :: outer) rest
      else
        match _skipped : skipScalar key.wireType rest with
        | .error cause => .error cause
        | .ok remaining => skipGroups levels (innermost :: outer) remaining
termination_by input.length
decreasing_by
  · exact length_of_readKey _step
  · exact length_of_readKey _step
  · exact Nat.lt_of_le_of_lt (length_of_skipScalar _skipped) (length_of_readKey _step)

/-- Skips what follows the key of a field that means nothing to the reader. -/
def skipField (levels : Nat) (key : Key) (input : Bytes) : Except FaultCause Bytes :=
  if levels = 0 then .error .recursionLimit
  else if key.wireType = .startGroup then skipGroups (levels - 1) [key.field] input
  else skipScalar key.wireType input

theorem length_of_skipGroups {levels : Nat} {opened : List Nat} {input rest : Bytes}
    (h : skipGroups levels opened input = .ok rest) : rest.length ≤ input.length := by
  fun_induction skipGroups levels opened input with
  | case1 => cases h; exact Nat.le_refl _
  | case2 => cases h
  | case3 levels input outer key remaining step isEnd ih =>
    exact Nat.le_of_lt (Nat.lt_of_le_of_lt (ih h) (length_of_readKey step))
  | case4 => cases h
  | case5 => cases h
  | case6 levels input innermost outer key remaining step notEnd someLevel isStart ih =>
    exact Nat.le_of_lt (Nat.lt_of_le_of_lt (ih h) (length_of_readKey step))
  | case7 => cases h
  | case8 levels input innermost outer key remaining step notEnd someLevel notStart left skipped
      ih =>
    have := length_of_skipScalar skipped
    have := length_of_readKey step
    have := ih h
    omega

/-- Skipping never moves backwards. -/
theorem length_of_skipField {levels : Nat} {key : Key} {input rest : Bytes}
    (h : skipField levels key input = .ok rest) : rest.length ≤ input.length := by
  unfold skipField at h
  split at h
  · cases h
  · split at h
    · exact length_of_skipGroups h
    · exact length_of_skipScalar h

end JobHooks.Wire
