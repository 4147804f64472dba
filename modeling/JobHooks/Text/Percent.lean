import JobHooks.Text.Utf8

/-!
# Percent encoding

Bytes as printable characters: a byte that may not stand for itself is written as a percent sign and
two hexadecimal digits.  On reading, a percent sign without two digits behind it stands for itself.

A percent sign is not marked when it is written.  Bytes that hold one with two digits behind it are
therefore not read as they were written.
-/

namespace JobHooks.Text

set_option autoImplicit false

/-- The byte of the percent sign. -/
def percentSign : UInt8 := 0x25

/-- The value of a byte that is a hexadecimal digit. -/
def hexDigitValue? (byte : UInt8) : Option Nat :=
  let point := byte.toNat
  if 0x30 ≤ point ∧ point ≤ 0x39 then some (point - 0x30)
  else if 0x41 ≤ point ∧ point ≤ 0x46 then some (point - 0x41 + 10)
  else if 0x61 ≤ point ∧ point ≤ 0x66 then some (point - 0x61 + 10)
  else none

/-- The hexadecimal digit of a value below sixteen, in capitals. -/
def hexDigitByte (value : Nat) : UInt8 :=
  UInt8.ofNat (if value < 10 then 0x30 + value else 0x41 + (value - 10))

/-- Whether a byte stands for itself: it is printable, and none of the blank, the quotes and the
signs that have a meaning in addresses.  The percent sign stands for itself. -/
def standsInPercent (byte : UInt8) : Bool :=
  0x20 < byte.toNat && byte.toNat < 0x7F
    && !([0x22, 0x23, 0x3C, 0x3E, 0x3F, 0x60, 0x7B, 0x7D].contains byte.toNat)

/-- How a byte is written. -/
def percentByte (byte : UInt8) : Bytes :=
  if standsInPercent byte then [byte]
  else [percentSign, hexDigitByte (byte.toNat / 16), hexDigitByte (byte.toNat % 16)]

/-- Bytes in percent encoding. -/
def percentEncode (bytes : Bytes) : Bytes := bytes.flatMap percentByte

/-- The bytes that bytes in percent encoding stand for. -/
def percentDecode : Bytes → Bytes
  | first :: high :: low :: rest =>
    if first = percentSign then
      match hexDigitValue? high, hexDigitValue? low with
      | some high, some low => UInt8.ofNat (16 * high + low) :: percentDecode rest
      | _, _ => first :: percentDecode (high :: low :: rest)
    else first :: percentDecode (high :: low :: rest)
  | first :: rest => first :: percentDecode rest
  | [] => []

end JobHooks.Text
