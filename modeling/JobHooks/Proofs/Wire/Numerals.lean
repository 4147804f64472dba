import JobHooks.Wire.Format
import Mathlib.Data.List.Basic

/-!
# Numbers, keys and texts read back

A number below `2 ^ 64` may be written in base 128 with zeros at its end, in ten digits at most
(`Varint.Numeral`).  The reader takes any of these forms from the front of its input, takes nothing
else, and leaves alone what comes behind (`Varint.decode_eq_some_iff`); in particular a number reads
back as itself (`Varint.decode_encode`), and its size is the number of bytes that it takes
(`Varint.length_encode`).  The same holds of a key whose field number can be written
(`readKey_eq_ok_iff`, `readKey_encode`).  A text reads back from its bytes (`decode?_encode`).

A signed number travels as what it leaves modulo `2 ^ 64`, and the low bits of that are the number
again (`Codec.ofNat_toWire32`, `Codec.ofNat_toWire64`).
-/

namespace JobHooks

set_option autoImplicit false

/-- A text reads back from its bytes. -/
theorem Text.decode?_encode (text : String) : decode? (encode text) = some text := by
  have same : (⟨(encode text).toArray⟩ : ByteArray) = text.toByteArray := rfl
  rw [decode?, same, String.fromUTF8?, dif_pos text.isValidUTF8]
  rfl

namespace Wire

/-! ## Numbers in base 128 -/

namespace Varint

/-- A number of 64 bits at most. -/
def Fits (value : Nat) : Prop := value < 0x10000000000000000

instance (value : Nat) : Decidable (Fits value) := inferInstanceAs (Decidable (value < _))

theorem Fits.of_le {value bound : Nat} (fits : Fits bound) (below : value ≤ bound) : Fits value :=
  Nat.lt_of_le_of_lt below fits

theorem encode_of_lt {value : Nat} (small : value < 128) : encode value = [UInt8.ofNat value] := by
  rw [encode, if_pos small]

theorem encode_of_le {value : Nat} (large : 128 ≤ value) :
    encode value = UInt8.ofNat (value % 128 + 128) :: encode (value / 128) := by
  rw [encode, if_neg (Nat.not_lt.mpr large)]

theorem size_of_lt {value : Nat} (small : value < 128) : size value = 1 := by
  have bits : value.log2 < 7 := by
    rcases Nat.eq_zero_or_pos value with rfl | positive
    · decide
    · exact (Nat.log2_lt (Nat.ne_of_gt positive)).mpr small
  rw [size, Nat.div_eq_of_lt bits]

/-- A digit takes seven bits. -/
theorem log2_of_le {value : Nat} (large : 128 ≤ value) :
    value.log2 = (value / 128).log2 + 7 := by
  have half : ∀ number : Nat, 2 ≤ number → number.log2 = (number / 2).log2 + 1 := by
    intro number two
    rw [Nat.log2_def, if_pos two]
  rw [half value (by omega), half (value / 2) (by omega), half (value / 2 / 2) (by omega),
    half (value / 2 / 2 / 2) (by omega), half (value / 2 / 2 / 2 / 2) (by omega),
    half (value / 2 / 2 / 2 / 2 / 2) (by omega), half (value / 2 / 2 / 2 / 2 / 2 / 2) (by omega)]
  simp only [Nat.div_div_eq_div_mul, Nat.reduceMul]

/-- The size of a number is the number of bytes that it takes. -/
theorem length_encode (value : Nat) : (encode value).length = size value := by
  induction value using Nat.strongRecOn with
  | ind value ih =>
    rcases Nat.lt_or_ge value 128 with small | large
    · rw [encode_of_lt small, size_of_lt small]
      rfl
    · rw [encode_of_le large, List.length_cons, ih (value / 128) (by omega), size, size,
        log2_of_le large]
      omega

/-- Digits of base 128, the least significant first and all but the last marked, and the number that
they stand for.  The last of them may be zeros, so a number has more than one spelling. -/
inductive Spells : Bytes → Nat → Prop where
  | last {byte : UInt8} (unmarked : byte.toNat < 128) : Spells [byte] byte.toNat
  | more {byte : UInt8} {bytes : Bytes} {high : Nat} (marked : 128 ≤ byte.toNat)
      (later : Spells bytes high) : Spells (byte :: bytes) (byte.toNat - 128 + 128 * high)

/-- The forms in which a number of 64 bits may be written: with ten digits at most. -/
structure Numeral (bytes : Bytes) (value : Nat) : Prop where
  spells : Spells bytes value
  length_le : bytes.length ≤ 10
  fits : Fits value

theorem Spells.length_pos {bytes : Bytes} {value : Nat} (spells : Spells bytes value) :
    0 < bytes.length := by
  cases spells with
  | last => exact Nat.one_pos
  | more => exact Nat.succ_pos _

theorem spells_encode (value : Nat) : Spells (encode value) value := by
  induction value using Nat.strongRecOn with
  | ind value ih =>
    rcases Nat.lt_or_ge value 128 with small | large
    · have byte : (UInt8.ofNat value).toNat = value :=
        UInt8.toNat_ofNat_of_lt' (Nat.lt_trans small (by decide))
      have one : Spells [UInt8.ofNat value] (UInt8.ofNat value).toNat := .last (by omega)
      rwa [byte, ← encode_of_lt small] at one
    · have byte : (UInt8.ofNat (value % 128 + 128)).toNat = value % 128 + 128 :=
        UInt8.toNat_ofNat_of_lt' (by simp only [UInt8.size]; omega)
      have digits : Spells (UInt8.ofNat (value % 128 + 128) :: encode (value / 128))
          ((UInt8.ofNat (value % 128 + 128)).toNat - 128 + 128 * (value / 128)) :=
        .more (by omega) (ih (value / 128) (by omega))
      have whole : value % 128 + 128 - 128 + 128 * (value / 128) = value := by omega
      rwa [byte, whole, ← encode_of_le large] at digits

/-- What is written of a number is one of its forms. -/
theorem numeral_encode {value : Nat} (fits : Fits value) : Numeral (encode value) value where
  spells := spells_encode value
  length_le := by
    have bits : value.log2 < 64 := by
      rcases Nat.eq_zero_or_pos value with rfl | positive
      · decide
      · exact (Nat.log2_lt (Nat.ne_of_gt positive)).mpr fits
    rw [length_encode, size]
    omega
  fits := fits

/-- The numbers that the digits from a place on may stand for lie below this bound: behind nine
digits of seven bits there is room for one bit more. -/
def room (place : Nat) : Nat := 2 * Nat.pow 128 (9 - place)

theorem room_of_lt {place : Nat} (inner : place < 9) : room place = 128 * room (place + 1) := by
  have further : 9 - place = 9 - (place + 1) + 1 := by omega
  rw [room, room, further, Nat.pow_eq, Nat.pow_eq, Nat.pow_succ']
  omega

theorem decodeFrom_of_spells {used : Bytes} {value : Nat} (spells : Spells used value) {place : Nat}
    (short : place + used.length ≤ 10) (below : value < room place) (rest : Bytes) :
    decodeFrom place (used ++ rest) = some (value, rest) := by
  induction spells generalizing place with
  | @last byte unmarked =>
    rw [List.singleton_append, decodeFrom]
    by_cases final : place = 9
    · subst final
      have bit : byte.toNat < 2 := below
      rw [if_pos rfl, if_pos bit]
    · rw [if_neg final, if_pos unmarked]
  | @more byte bytes high marked later ih =>
    have positive := later.length_pos
    rw [List.length_cons] at short
    have inner : place < 9 := by omega
    rw [room_of_lt inner] at below
    have step : decodeFrom (place + 1) (bytes ++ rest) = some (high, rest) :=
      ih (by omega) (by omega)
    rw [List.cons_append, decodeFrom, if_neg (Nat.ne_of_lt inner),
      if_neg (Nat.not_lt.mpr marked), step]

theorem spells_of_decodeFrom {place value : Nat} {input rest : Bytes} (start : place ≤ 9)
    (read : decodeFrom place input = some (value, rest)) :
    ∃ used, input = used ++ rest ∧ Spells used value ∧ place + used.length ≤ 10
      ∧ value < room place := by
  induction input generalizing place value with
  | nil => cases read
  | cons byte tail ih =>
    rw [decodeFrom] at read
    split at read
    · next final =>
      subst final
      split at read
      · next bit =>
        cases read
        exact ⟨[byte], rfl, .last (Nat.lt_trans bit (by decide)), Nat.le_refl _, bit⟩
      · cases read
    · next inner =>
      have earlier : place < 9 := by omega
      rw [room_of_lt earlier]
      split at read
      · next unmarked =>
        cases read
        have positive : 0 < room (place + 1) :=
          Nat.mul_pos (by decide) (Nat.pow_pos (by decide))
        refine ⟨[byte], rfl, .last unmarked, ?_, by omega⟩
        rw [List.length_singleton]
        omega
      · next marked =>
        split at read
        · next high remaining step =>
          cases read
          obtain ⟨used, split, spells, short, below⟩ := ih (by omega) step
          refine ⟨byte :: used, congrArg (byte :: ·) split, .more (Nat.not_lt.mp marked) spells, ?_,
            ?_⟩
          · rw [List.length_cons]
            omega
          · have digit := byte.toNat_lt
            omega
        · cases read

/-- **A number is read in any of its forms and in no other way**, and what comes behind it is left
alone. -/
theorem decode_eq_some_iff {input rest : Bytes} {value : Nat} :
    decode input = some (value, rest) ↔ ∃ used, input = used ++ rest ∧ Numeral used value := by
  constructor
  · intro read
    obtain ⟨used, split, spells, short, below⟩ := spells_of_decodeFrom (Nat.zero_le 9) read
    exact ⟨used, split, spells, by omega, below⟩
  · rintro ⟨used, rfl, numeral⟩
    have short := numeral.length_le
    have below : value < room 0 := numeral.fits
    exact decodeFrom_of_spells numeral.spells (by omega) below rest

/-- **A number reads back as itself**, whatever comes behind it. -/
theorem decode_encode {value : Nat} (fits : Fits value) (rest : Bytes) :
    decode (encode value ++ rest) = some (value, rest) :=
  decode_eq_some_iff.mpr ⟨encode value, rfl, numeral_encode fits⟩

end Varint

theorem readVarint_eq_ok_iff {input rest : Bytes} {value : Nat} :
    readVarint input = .ok (value, rest)
      ↔ ∃ used, input = used ++ rest ∧ Varint.Numeral used value := by
  rw [← Varint.decode_eq_some_iff, readVarint]
  split
  · next found step => rw [step, Except.ok.injEq, Option.some.injEq]
  · next step =>
    rw [step]
    constructor <;> intro impossible <;> cases impossible

theorem Varint.Numeral.read {used : Bytes} {value : Nat} (numeral : Numeral used value)
    (rest : Bytes) : readVarint (used ++ rest) = .ok (value, rest) :=
  readVarint_eq_ok_iff.mpr ⟨used, rfl, numeral⟩

/-- Bytes that are read as a number to their end are one of its forms. -/
theorem Varint.Numeral.of_read {bytes : Bytes} {value : Nat}
    (read : readVarint bytes = .ok (value, [])) : Numeral bytes value := by
  obtain ⟨used, split, numeral⟩ := readVarint_eq_ok_iff.mp read
  rwa [split, List.append_nil]

theorem readVarint_encode {value : Nat} (fits : Varint.Fits value) (rest : Bytes) :
    readVarint (Varint.encode value ++ rest) = .ok (value, rest) :=
  (Varint.numeral_encode fits).read rest

/-! ## Keys -/

namespace WireType

theorem number_lt (wireType : WireType) : wireType.number < 8 := by
  cases wireType <;> decide

theorem ofNumber?_number (wireType : WireType) : ofNumber? wireType.number = some wireType := by
  cases wireType <;> rfl

theorem number_of_ofNumber? {number : Nat} {wireType : WireType}
    (found : ofNumber? number = some wireType) : number = wireType.number := by
  unfold ofNumber? at found
  split at found <;> cases found <;> rfl

end WireType

namespace Key

/-- A number that a field can have: not zero, and of 29 bits at most. -/
def Valid (number : Nat) : Prop := 0 < number ∧ number < 0x20000000

instance (number : Nat) : Decidable (Valid number) := inferInstanceAs (Decidable (_ ∧ _))

theorem length_encode (key : Key) : key.encode.length = key.size := Varint.length_encode _

/-- A key takes at least one byte. -/
theorem length_encode_pos (key : Key) : 0 < key.encode.length := by
  rw [length_encode]
  exact Nat.succ_pos _

/-- The forms in which a key may be written: those of the number into which it is packed. -/
structure Spells (bytes : Bytes) (key : Key) : Prop where
  numeral : Varint.Numeral bytes (key.field * 8 + key.wireType.number)
  valid : Valid key.field

theorem Spells.length_pos {bytes : Bytes} {key : Key} (spells : Spells bytes key) :
    0 < bytes.length :=
  spells.numeral.spells.length_pos

/-- What is written of a key is one of its forms. -/
theorem spells_encode {key : Key} (valid : Valid key.field) : Spells key.encode key where
  numeral := by
    refine Varint.numeral_encode ?_
    have three := key.wireType.number_lt
    have bounded := valid.2
    simp only [Varint.Fits]
    omega
  valid := valid

end Key

/-- **A key is read in any of its forms and in no other way**, and what comes behind it is left
alone. -/
theorem readKey_eq_ok_iff {input rest : Bytes} {key : Key} :
    readKey input = .ok (key, rest) ↔ ∃ used, input = used ++ rest ∧ Key.Spells used key := by
  constructor
  · intro read
    unfold readKey at read
    split at read
    · cases read
    · next packed remaining step =>
      obtain ⟨used, split, numeral⟩ := readVarint_eq_ok_iff.mp step
      split at read
      · cases read
      · next small =>
        split at read
        · cases read
        · next wireType found =>
          have low := WireType.number_of_ofNumber? found
          split at read
          · cases read
          · next positive =>
            cases read
            have whole : packed / 8 * 8 + wireType.number = packed := by omega
            have bounded : packed / 8 < 0x20000000 := by omega
            exact ⟨used, split, ⟨whole.symm ▸ numeral, Nat.pos_of_ne_zero positive, bounded⟩⟩
  · rintro ⟨used, rfl, numeral, positive, bounded⟩
    have three : key.wireType.number < 8 := key.wireType.number_lt
    have low : (key.field * 8 + key.wireType.number) % 8 = key.wireType.number := by omega
    have high : (key.field * 8 + key.wireType.number) / 8 = key.field := by omega
    rw [readKey, numeral.read]
    simp only [low, high, WireType.ofNumber?_number]
    rw [if_neg (by omega), if_neg (Nat.ne_of_gt positive)]

theorem Key.Spells.read {used : Bytes} {key : Key} (spells : Spells used key) (rest : Bytes) :
    readKey (used ++ rest) = .ok (key, rest) :=
  readKey_eq_ok_iff.mpr ⟨used, rfl, spells⟩

/-- Bytes that are read as a key to their end are one of its forms. -/
theorem Key.Spells.of_read {bytes : Bytes} {key : Key} (read : readKey bytes = .ok (key, [])) :
    Spells bytes key := by
  obtain ⟨used, split, spells⟩ := readKey_eq_ok_iff.mp read
  rwa [split, List.append_nil]

/-- A key reads back as itself, whatever comes behind it. -/
theorem readKey_encode {key : Key} (valid : Key.Valid key.field) (rest : Bytes) :
    readKey (key.encode ++ rest) = .ok (key, rest) :=
  (Key.spells_encode valid).read rest

/-! ## Signed numbers -/

namespace Codec

/-- What is written of a signed number is a number of 64 bits. -/
theorem fits_toWire (value : Int) :
    Varint.Fits (value % 0x10000000000000000).toNat := by
  simp only [Varint.Fits]
  omega

/-- The low 32 bits of what is written of a number of 32 bits are that number. -/
theorem ofNat_toWire32 (value : Int32) :
    Int32.ofNat (value.toInt % 0x10000000000000000).toNat = value := by
  have low := value.le_toInt
  have high := value.toInt_lt
  rw [← Int32.ofInt_eq_ofNat, Int.toNat_of_nonneg (Int.emod_nonneg _ (by decide)),
    Int32.ofInt_eq_iff_bmod_eq_toInt, Int.bmod]
  omega

/-- What is written of a number of 64 bits is that number. -/
theorem ofNat_toWire64 (value : Int64) :
    Int64.ofNat (value.toInt % 0x10000000000000000).toNat = value := by
  have low := value.le_toInt
  have high := value.toInt_lt
  rw [← Int64.ofInt_eq_ofNat, Int.toNat_of_nonneg (Int.emod_nonneg _ (by decide)),
    Int64.ofInt_eq_iff_bmod_eq_toInt, Int.bmod]
  omega

end Codec

end Wire

end JobHooks
