/-!
# Bytes

Runs of bytes, and numbers of four bytes with the most significant one first.
-/

namespace JobHooks

set_option autoImplicit false

/-- A run of bytes. -/
abbrev Bytes := List UInt8

namespace Bytes

/-- A number below `2 ^ 32` in four bytes, the most significant one first. -/
def ofNumber (number : Nat) : Bytes :=
  [UInt8.ofNat (number / 0x1000000), UInt8.ofNat (number / 0x10000), UInt8.ofNat (number / 0x100),
    UInt8.ofNat number]

/-- The number that bytes stand for, the most significant one first. -/
def toNumber (bytes : Bytes) : Nat :=
  bytes.foldl (fun number byte => 0x100 * number + byte.toNat) 0

end Bytes

end JobHooks
