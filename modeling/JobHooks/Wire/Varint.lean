import JobHooks.Bytes

/-!
# Variable-length integers

A natural number below `2 ^ 64` is written in base 128, least significant digit first, one digit a
byte; every byte but the last has its top bit set.  `Varint.encode` writes the shortest such form
and `Varint.size` counts its bytes without writing them.

`Varint.decode` also accepts longer forms, up to ten bytes, as long as the value stays below
`2 ^ 64`: the tenth byte may only be zero or one.  What it leaves is shorter than what it was given
(`Varint.length_of_decode`), which is what bounds every reader built on it.
-/

namespace JobHooks.Wire

set_option autoImplicit false

namespace Varint

/-- The base-128 digits of a number, least significant first, all but the last marked. -/
def encode (value : Nat) : Bytes :=
  if value < 128 then [UInt8.ofNat value]
  else UInt8.ofNat (value % 128 + 128) :: encode (value / 128)
termination_by value

/-- The number of bytes that `encode` writes: one for every seven bits begun. -/
def size (value : Nat) : Nat := value.log2 / 7 + 1

/-- Reads the digits of a number from the digit at `place` on. -/
def decodeFrom : Nat → Bytes → Option (Nat × Bytes)
  | _, [] => none
  | place, byte :: rest =>
    if place = 9 then
      if byte.toNat < 2 then some (byte.toNat, rest) else none
    else if byte.toNat < 128 then some (byte.toNat, rest)
    else
      match decodeFrom (place + 1) rest with
      | some (high, remaining) => some (byte.toNat - 128 + 128 * high, remaining)
      | none => none

/-- Reads one number and returns it with the bytes behind it; there is none if the bytes end inside
the number or if it does not stay below `2 ^ 64`. -/
def decode (input : Bytes) : Option (Nat × Bytes) := decodeFrom 0 input

theorem length_of_decodeFrom {place : Nat} {input rest : Bytes} {value : Nat}
    (h : decodeFrom place input = some (value, rest)) : rest.length < input.length := by
  induction input generalizing place value with
  | nil => simp [decodeFrom] at h
  | cons byte tail ih =>
    simp only [decodeFrom] at h
    split at h
    · split at h
      · cases h; simp
      · cases h
    · split at h
      · cases h; simp
      · split at h
        · next high remaining step =>
          cases h
          have := ih step
          simp only [List.length_cons]
          omega
        · cases h

/-- Reading a number uses up at least one byte. -/
theorem length_of_decode {input rest : Bytes} {value : Nat}
    (h : decode input = some (value, rest)) : rest.length < input.length :=
  length_of_decodeFrom h

end Varint

end JobHooks.Wire
