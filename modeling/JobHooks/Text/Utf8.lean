import JobHooks.Bytes

/-!
# Texts as bytes

A text in UTF-8, and the text that bytes stand for.  Where bytes stand for no text, `fault?` says
from which byte on: either they could still go on to a character but end, or a few of them begin
none.
-/

namespace JobHooks.Text

set_option autoImplicit false

/-- The bytes of a text. -/
def encode (text : String) : Bytes := text.toUTF8.data.toList

/-- The text that bytes stand for, if they are valid UTF-8. -/
def decode? (bytes : Bytes) : Option String := String.fromUTF8? ⟨bytes.toArray⟩

/-! ## What is wrong with bytes -/

/-- Why bytes stand for no text. -/
inductive Utf8Fault where
  /-- From an index on, so many bytes begin no character. -/
  | invalid (index count : Nat)
  /-- The character that begins at an index has no end. -/
  | incomplete (index : Nat)
  deriving Repr, DecidableEq, Inhabited

/-- What a fault is called in messages. -/
def Utf8Fault.message : Utf8Fault → String
  | invalid index count =>
    "invalid utf-8 sequence of " ++ toString count ++ " bytes from index " ++ toString index
  | incomplete index => "incomplete utf-8 byte sequence from index " ++ toString index

/-- Bounds of a byte. -/
structure ByteRange where
  least : Nat
  greatest : Nat
  deriving Repr, DecidableEq, Inhabited

/-- Whether a byte lies in a range. -/
def ByteRange.admits (range : ByteRange) (byte : UInt8) : Bool :=
  range.least ≤ byte.toNat && byte.toNat ≤ range.greatest

/-- The range of the bytes that continue a character. -/
def continuation : ByteRange := ⟨0x80, 0xBF⟩

/-- The ranges of the bytes behind the first byte of a character; none for a byte that is no first
one.  The second byte has a narrower range where a shorter form, a surrogate or a number beyond the
last code point would arise. -/
def bytesBehind (first : UInt8) : Option (List ByteRange) :=
  let point := first.toNat
  if point ≤ 0x7F then some []
  else if 0xC2 ≤ point ∧ point ≤ 0xDF then some [continuation]
  else if point = 0xE0 then some [⟨0xA0, 0xBF⟩, continuation]
  else if point = 0xED then some [⟨0x80, 0x9F⟩, continuation]
  else if 0xE1 ≤ point ∧ point ≤ 0xEF then some [continuation, continuation]
  else if point = 0xF0 then some [⟨0x90, 0xBF⟩, continuation, continuation]
  else if 0xF1 ≤ point ∧ point ≤ 0xF3 then some [continuation, continuation, continuation]
  else if point = 0xF4 then some [⟨0x80, 0x8F⟩, continuation, continuation]
  else none

/-- The first fault in bytes, counted from an index.  The ranges are those that the character begun
at `start` still needs. -/
def faultFrom (start index : Nat) : List ByteRange → Bytes → Option Utf8Fault
  | [], [] => none
  | _ :: _, [] => some (.incomplete start)
  | [], first :: rest =>
    match bytesBehind first with
    | none => some (.invalid index 1)
    | some ranges => faultFrom index (index + 1) ranges rest
  | range :: ranges, next :: rest =>
    if range.admits next then faultFrom start (index + 1) ranges rest
    else some (.invalid start (index - start))

/-- What is wrong with bytes that stand for no text. -/
def fault? (bytes : Bytes) : Option Utf8Fault := faultFrom 0 0 [] bytes

end JobHooks.Text
