import JobHooks.Text.Utf8
import JobHooks.Wire.Key

/-!
# Message formats

A message format is a list of fields.  Each field says under which number and wire type it travels,
how its part of a message is written, and how a payload is merged into a message read so far.  From
the list alone follow the encoder, the size of what it writes, and the decoder.

Fields are written in the order of the list, and a field at its default is not written.  Reading
starts from the empty message and merges the fields in the order in which they occur: a later number
or text replaces an earlier one, a later part of a message is merged into what is there, and a later
element of a list goes behind the others.  Fields of unknown number are skipped.

A message inside another is read from the bytes of the outer one and ends where its announced length
ends; a field that runs past this end is noticed only once it has been read, and refused then.  To
say so, `Format.merge` is given the number of bytes that belong to what comes behind the message.
-/

namespace JobHooks.Wire

set_option autoImplicit false

/-! ## How the value of one field travels -/

/-- How values of type `β` travel as the payloads of one field: the payloads written for a value,
one for each occurrence of the field, and how a further payload is merged into the value read so
far. -/
structure Codec (β : Type) where
  wireType : WireType
  /-- The value when the field does not occur. -/
  absent : β
  /-- What is written behind each key of the field; nothing at all for the absent value. -/
  payloads : β → List Bytes
  /-- The numbers of bytes of the payloads. -/
  sizes : β → List Nat
  /-- Reads one payload, with so many levels of nesting left. -/
  merge : Nat → β → Bytes → Except Fault (β × Bytes)
  /-- Reading a payload never moves backwards. -/
  merge_length : ∀ {levels : Nat} {old new : β} {input rest : Bytes},
    merge levels old input = .ok (new, rest) → rest.length ≤ input.length

/-- A field of messages of type `μ`. -/
structure Field (μ : Type) where
  number : Nat
  name : String
  wireType : WireType
  /-- The payloads of the field in a message, one for each occurrence. -/
  payloads : μ → List Bytes
  /-- The numbers of bytes of the payloads. -/
  sizes : μ → List Nat
  /-- Reads one payload into a message, with so many levels of nesting left. -/
  merge : Nat → μ → Bytes → Except Fault (μ × Bytes)
  /-- Reading a payload never moves backwards. -/
  merge_length : ∀ {levels : Nat} {old new : μ} {input rest : Bytes},
    merge levels old input = .ok (new, rest) → rest.length ≤ input.length

namespace Codec

variable {β μ : Type}

/-- Reads one payload into the part of a message that `get` shows and `set` replaces. -/
def mergeInto (codec : Codec β) (get : μ → β) (set : μ → β → μ) (levels : Nat) (message : μ)
    (input : Bytes) : Except Fault (μ × Bytes) :=
  match codec.merge levels (get message) input with
  | .error fault => .error fault
  | .ok (value, rest) => .ok (set message value, rest)

/-- The field that holds the part of a message that `get` shows and `set` replaces. -/
def field (codec : Codec β) (number : Nat) (name : String) (get : μ → β) (set : μ → β → μ) :
    Field μ where
  number := number
  name := name
  wireType := codec.wireType
  payloads := fun message => codec.payloads (get message)
  sizes := fun message => codec.sizes (get message)
  merge := codec.mergeInto get set
  merge_length := by
    intro levels old new input rest h
    unfold mergeInto at h
    split at h
    · cases h
    · next value remaining step => cases h; exact codec.merge_length step

end Codec

/-! ## Formats -/

/-- A format of messages of type `μ`. -/
structure Format (μ : Type) where
  name : String
  empty : μ
  fields : List (Field μ)

namespace Field

variable {μ : Type}

/-- The key that announces a field. -/
def key (field : Field μ) : Key := ⟨field.number, field.wireType⟩

/-- What is written for a field: its key and a payload, for each occurrence. -/
def encode (field : Field μ) (message : μ) : Bytes :=
  (field.payloads message).flatMap fun payload => field.key.encode ++ payload

/-- The number of bytes that `encode` writes. -/
def size (field : Field μ) (message : μ) : Nat :=
  (field.sizes message).foldr (fun payload others => field.key.size + payload + others) 0

end Field

namespace Format

variable {μ β : Type}

/-- The bytes of a message. -/
def encode (format : Format μ) (message : μ) : Bytes :=
  format.fields.flatMap fun field => field.encode message

/-- The number of bytes of a message, found without writing them. -/
def size (format : Format μ) (message : μ) : Nat :=
  format.fields.foldr (fun field others => field.size message + others) 0

/-- The field that a number stands for. -/
def field? (format : Format μ) (number : Nat) : Option (Field μ) :=
  format.fields.find? fun field => field.number == number

/-- Reads what follows a key into a message. -/
def mergeField (format : Format μ) (levels : Nat) (key : Key) (message : μ) (input : Bytes) :
    Except Fault (μ × Bytes) :=
  match format.field? key.field with
  | none =>
    match skipField levels key input with
    | .error cause => .error { cause }
    | .ok rest => .ok (message, rest)
  | some field =>
    if key.wireType = field.wireType then
      (field.merge levels message input).mapError (·.within ⟨format.name, field.name⟩)
    else
      .error ⟨.wireTypeMismatch key.wireType field.wireType, [⟨format.name, field.name⟩]⟩

theorem length_of_mergeField {format : Format μ} {levels : Nat} {key : Key} {old new : μ}
    {input rest : Bytes} (h : format.mergeField levels key old input = .ok (new, rest)) :
    rest.length ≤ input.length := by
  unfold mergeField at h
  split at h
  · split at h
    · cases h
    · next step => cases h; exact length_of_skipField step
  · split at h
    · next field found sameType =>
      cases step : field.merge levels old input with
      | error fault =>
        rw [step] at h
        exact nomatch (h : Except.error _ = Except.ok (new, rest))
      | ok pair =>
        rw [step] at h
        cases (h : Except.ok pair = Except.ok (new, rest))
        exact field.merge_length step
    · cases h

/-- Reads fields into a message until no more than `behind` bytes are left. -/
def merge (format : Format μ) (levels behind : Nat) (message : μ) (input : Bytes) :
    Except Fault (μ × Bytes) :=
  if input.length ≤ behind then .ok (message, input)
  else
    match _step : readKey input with
    | .error cause => .error { cause }
    | .ok (key, payload) =>
      match _merged : format.mergeField levels key message payload with
      | .error fault => .error fault
      | .ok (merged, rest) => format.merge levels behind merged rest
termination_by input.length
decreasing_by
  exact Nat.lt_of_le_of_lt (length_of_mergeField _merged) (length_of_readKey _step)

theorem length_of_merge {format : Format μ} {levels behind : Nat} {old new : μ}
    {input rest : Bytes} (h : format.merge levels behind old input = .ok (new, rest)) :
    rest.length ≤ input.length := by
  fun_induction format.merge levels behind old input with
  | case1 => cases h; exact Nat.le_refl _
  | case2 => cases h
  | case3 => cases h
  | case4 message input enough key payload step merged remaining mergedStep ih =>
    have := length_of_mergeField mergedStep
    have := length_of_readKey step
    have := ih h
    omega

/-- How deep messages and groups may nest. -/
def maxLevels : Nat := 100

/-- Reads a message that takes up all of the input. -/
def decode (format : Format μ) (input : Bytes) : Except Fault μ :=
  match format.merge maxLevels 0 format.empty input with
  | .error fault => .error fault
  | .ok (message, _) => .ok message

/-- Reads a message of announced length into one read so far.  It has to end where its length says,
and it uses up one level of nesting. -/
def mergeDelimited (format : Format μ) (levels : Nat) (message : μ) (input : Bytes) :
    Except Fault (μ × Bytes) :=
  if levels = 0 then .error { cause := .recursionLimit }
  else
    match readVarint input with
    | .error cause => .error { cause }
    | .ok (count, rest) =>
      if rest.length < count then .error { cause := .bufferUnderflow }
      else
        match format.merge (levels - 1) (rest.length - count) message rest with
        | .error fault => .error fault
        | .ok (merged, remaining) =>
          if remaining.length = rest.length - count then .ok (merged, remaining)
          else .error { cause := .delimitedLengthExceeded }

theorem length_of_mergeDelimited {format : Format μ} {levels : Nat} {old new : μ}
    {input rest : Bytes} (h : format.mergeDelimited levels old input = .ok (new, rest)) :
    rest.length ≤ input.length := by
  unfold mergeDelimited at h
  split at h
  · cases h
  · split at h
    · cases h
    · next count remaining step =>
      split at h
      · cases h
      · split at h
        · cases h
        · next merged left mergedStep =>
          split at h
          · cases h
            exact Nat.le_trans (length_of_merge mergedStep)
              (Nat.le_of_lt (length_of_readVarint step))
          · cases h

/-- The bytes of a message behind their number. -/
def delimited (format : Format μ) (message : μ) : Bytes :=
  Varint.encode (format.encode message).length ++ format.encode message

/-- The number of bytes of a message behind their number. -/
def delimitedSize (format : Format μ) (message : μ) : Nat :=
  Varint.size (format.size message) + format.size message

/-- A message that may be there or not; one that is there is written even when it is empty. -/
def optional (format : Format β) : Codec (Option β) where
  wireType := .lengthDelimited
  absent := none
  payloads := fun value => value.toList.map format.delimited
  sizes := fun value => value.toList.map format.delimitedSize
  merge := fun levels old input =>
    match format.mergeDelimited levels (old.getD format.empty) input with
    | .error fault => .error fault
    | .ok (message, rest) => .ok (some message, rest)
  merge_length := by
    intro levels old new input rest h
    split at h
    · cases h
    · next step => cases h; exact length_of_mergeDelimited step

/-- A list of messages, written one by one. -/
def repeated (format : Format β) : Codec (List β) where
  wireType := .lengthDelimited
  absent := []
  payloads := fun values => values.map format.delimited
  sizes := fun values => values.map format.delimitedSize
  merge := fun levels old input =>
    match format.mergeDelimited levels format.empty input with
    | .error fault => .error fault
    | .ok (message, rest) => .ok (old ++ [message], rest)
  merge_length := by
    intro levels old new input rest h
    split at h
    · cases h
    · next step => cases h; exact length_of_mergeDelimited step

end Format

/-! ## Numbers and texts -/

namespace Codec

/-- A number that travels as a variable-length integer: `toWire` gives the natural number that is
written, and `ofWire` what a natural number that is read stands for. -/
def number {β : Type} [DecidableEq β] (zero : β) (toWire : β → Nat) (ofWire : Nat → β) :
    Codec β where
  wireType := .varint
  absent := zero
  payloads := fun value => if value = zero then [] else [Varint.encode (toWire value)]
  sizes := fun value => if value = zero then [] else [Varint.size (toWire value)]
  merge := fun _ _ input =>
    match readVarint input with
    | .error cause => .error { cause }
    | .ok (value, rest) => .ok (ofWire value, rest)
  merge_length := by
    intro levels old new input rest h
    split at h
    · cases h
    · next step => cases h; exact Nat.le_of_lt (length_of_readVarint step)

/-- An unsigned number of 32 bits; of a larger one that is read the low 32 bits count. -/
def uint32 : Codec UInt32 := number 0 UInt32.toNat UInt32.ofNat

/-- A signed number of 32 bits, written with the sign extended to 64 bits; of a number that is read
the low 32 bits count. -/
def int32 : Codec Int32 :=
  number 0 (fun value => (value.toInt % 0x10000000000000000).toNat) Int32.ofNat

/-- A signed number of 64 bits. -/
def int64 : Codec Int64 :=
  number 0 (fun value => (value.toInt % 0x10000000000000000).toNat) Int64.ofNat

/-- A text: its bytes behind their number.  Bytes that are no UTF-8 are refused. -/
def text : Codec String where
  wireType := .lengthDelimited
  absent := ""
  payloads := fun value =>
    if value = "" then [] else [Varint.encode (Text.encode value).length ++ Text.encode value]
  sizes := fun value =>
    if value = "" then [] else [Varint.size value.utf8ByteSize + value.utf8ByteSize]
  merge := fun _ _ input =>
    match readVarint input with
    | .error cause => .error { cause }
    | .ok (count, rest) =>
      if rest.length < count then .error { cause := .bufferUnderflow }
      else
        match Text.decode? (rest.take count) with
        | none => .error { cause := .notUtf8 }
        | some value => .ok (value, rest.drop count)
  merge_length := by
    intro levels old new input rest h
    split at h
    · cases h
    · next count remaining step =>
      split at h
      · cases h
      · split at h
        · cases h
        · cases h
          have := length_of_readVarint step
          simp only [List.length_drop]
          omega

end Codec

end JobHooks.Wire
