import JobHooks.Bytes

/-!
# Base 64

Bytes as printable characters, six bits to each: three bytes make a quad of four characters, and
what is left over makes a last quad of two or three, which equals signs may fill up.  `base64Fault?`
is the first thing that is wrong with such a text: a byte that stands for nothing where it is, a
last quad of a single character, or bits in the last character that belong to no byte.
-/

namespace JobHooks.Text

set_option autoImplicit false

/-- The byte that fills up the last quad. -/
def paddingByte : UInt8 := 0x3D

/-- The six bits that a byte stands for, as a number. -/
def base64Value? (byte : UInt8) : Option Nat :=
  let point := byte.toNat
  if 0x41 ≤ point ∧ point ≤ 0x5A then some (point - 0x41)
  else if 0x61 ≤ point ∧ point ≤ 0x7A then some (point - 0x61 + 26)
  else if 0x30 ≤ point ∧ point ≤ 0x39 then some (point - 0x30 + 52)
  else if point = 0x2B then some 62
  else if point = 0x2F then some 63
  else none

/-- What can be wrong with a text in base 64. -/
inductive Base64Fault where
  /-- A byte that has no place where it is. -/
  | stray (offset : Nat) (byte : UInt8)
  /-- A last quad that is too short, and the length of the text without its padding. -/
  | shortQuad (length : Nat)
  /-- A last character with bits that belong to no byte. -/
  | lastSymbol (offset : Nat) (byte : UInt8)
  deriving Repr, DecidableEq, Inhabited

/-- A fault by name, with what belongs to it. -/
def Base64Fault.text : Base64Fault → String
  | stray offset byte => "InvalidByte(" ++ toString offset ++ ", " ++ toString byte.toNat ++ ")"
  | shortQuad length => "InvalidLength(" ++ toString length ++ ")"
  | lastSymbol offset byte =>
    "InvalidLastSymbol(" ++ toString offset ++ ", " ++ toString byte.toNat ++ ")"

/-- The first byte that stands for nothing, with its place. -/
def strayByte? : Nat → Bytes → Option Base64Fault
  | _, [] => none
  | offset, byte :: rest =>
    if (base64Value? byte).isSome then strayByte? (offset + 1) rest else some (.stray offset byte)

/-- What is wrong with the last quad, which begins at a place.  `symbols` are the bytes that have
been read of it, and `padding?` is the place of the first equals sign. -/
def lastQuadFault? (start : Nat) (symbols : Bytes) (padding? : Option Nat) :
    Bytes → Option Base64Fault
  | [] =>
    let offset := start + symbols.length - 1
    match symbols.length, symbols.getLast? with
    | 1, _ => some (.shortQuad (start + 1))
    | 2, some last =>
      if ((base64Value? last).getD 0) % 16 = 0 then none else some (.lastSymbol offset last)
    | 3, some last =>
      if ((base64Value? last).getD 0) % 4 = 0 then none else some (.lastSymbol offset last)
    | _, _ => none
  | byte :: rest =>
    if byte = paddingByte then
      if symbols.length < 2 then some (.stray (start + symbols.length) byte)
      else lastQuadFault? start symbols (padding? <|> some (start + symbols.length)) rest
    else
      match padding? with
      | some place => some (.stray place paddingByte)
      | none =>
        if (base64Value? byte).isSome then lastQuadFault? start (symbols ++ [byte]) none rest
        else some (.stray (start + symbols.length) byte)

/-- How many bytes stand in front of the last quad, even if that is full. -/
def frontLength (length : Nat) : Nat := if length % 4 = 0 then length - 4 else length / 4 * 4

/-- A byte that stands for nothing, alone behind the last full quad. -/
def strayLast? (bytes : Bytes) : Option Base64Fault :=
  if bytes.length % 4 = 1 then
    match bytes.getLast? with
    | some last =>
      if last ≠ paddingByte ∧ (base64Value? last).isNone then some (.stray (bytes.length - 1) last)
      else none
    | none => none
  else none

/-- The first thing that is wrong with a text in base 64: a stray byte behind its full quads, a
stray byte in one of them, or a fault of the last quad. -/
def base64Fault? (bytes : Bytes) : Option Base64Fault :=
  let front := frontLength bytes.length
  strayLast? bytes <|> strayByte? 0 (bytes.take front)
    <|> lastQuadFault? front [] none (bytes.drop front)

end JobHooks.Text
