import JobHooks.Proofs.Wire.Reading

/-!
# Messages read back

A codec is lawful when the sizes that it announces are those of its payloads, and when the payloads
of a value, read one after the other into the absent value, restore the value (`Codec.Lawful`).  The
codecs of numbers and texts are lawful, and so are those of messages inside others, as soon as their
formats are.  Where payloads are read into a value that is not absent, they are united with it in a
way that depends on the codec (`Codec.Unites`).

For a format the same follows from its fields one by one.  `Format.Applies` says what becomes of a
message when the fields of another one are read into it in their order.  `Format.Rebuilds` is the
case in which each field finds its part absent, so that the empty message turns into the message
that was written; `Format.lawful` draws the conclusion.

`MessageType` lists the messages of the plugin daemon, and `Payload.reads_back` is the result for
them.
-/

namespace JobHooks.Wire

set_option autoImplicit false

/-! ## Lawful codecs -/

namespace Codec

variable {β : Type}

/-- Payloads, read one after the other, turn the value read so far into another, whatever comes
behind each of them. -/
inductive Restores (codec : Codec β) (levels : Nat) : List Bytes → β → β → Prop where
  | none (value : β) : Restores codec levels [] value value
  | next {payload : Bytes} {payloads : List Bytes} {old middle new : β}
      (read : ∀ rest, codec.merge levels old (payload ++ rest) = .ok (middle, rest))
      (later : Restores codec levels payloads middle new) :
      Restores codec levels (payload :: payloads) old new

/-- Of payloads that are read one after the other each is read into some value. -/
theorem Restores.exists_merge {codec : Codec β} {levels : Nat} {payloads : List Bytes}
    {old new : β} (restores : codec.Restores levels payloads old new) {payload : Bytes}
    (member : payload ∈ payloads) :
    ∃ old middle, codec.merge levels old payload = .ok (middle, []) := by
  induction restores with
  | none => cases member
  | @next first payloads old middle new read later ih =>
    rcases List.mem_cons.mp member with rfl | behind
    · have alone := read []
      rw [List.append_nil] at alone
      exact ⟨old, middle, alone⟩
    · exact ih behind

/-- A codec whose values read back from what is written for them, where so many levels of nesting
are left and no payload is too long for its length to be written. -/
structure Lawful (codec : Codec β) (depth : Nat) : Prop where
  sizes_eq : ∀ value, codec.sizes value = (codec.payloads value).map List.length
  restores : ∀ {levels : Nat} {value : β}, depth ≤ levels →
    (∀ payload ∈ codec.payloads value, Varint.Fits payload.length) →
    codec.Restores levels (codec.payloads value) codec.absent value

/-- A codec whose payloads, read into any value, unite it with the value that was written. -/
structure Unites (codec : Codec β) (unite : β → β → β) (depth : Nat) : Prop where
  restores : ∀ {levels : Nat} {old value : β}, depth ≤ levels →
    (∀ payload ∈ codec.payloads value, Varint.Fits payload.length) →
    codec.Restores levels (codec.payloads value) old (unite old value)

/-- Values read back when uniting them with the absent value does nothing. -/
theorem Unites.lawful {codec : Codec β} {unite : β → β → β} {depth : Nat}
    (unites : codec.Unites unite depth) (absent : ∀ value, unite codec.absent value = value)
    (sizes_eq : ∀ value, codec.sizes value = (codec.payloads value).map List.length) :
    codec.Lawful depth where
  sizes_eq := sizes_eq
  restores := by
    intro levels value deep fits
    have united : codec.Restores levels (codec.payloads value) codec.absent
        (unite codec.absent value) := unites.restores deep fits
    rwa [absent] at united

/-- The later of two values, of which a default one counts for nothing. -/
def latest [DecidableEq β] (zero old new : β) : β := if new = zero then old else new

theorem latest_zero [DecidableEq β] (zero new : β) : latest zero zero new = new := by
  unfold latest
  split
  · next none => exact none.symm
  · rfl

theorem number_unites [DecidableEq β] {zero : β} {toWire : β → Nat} {ofWire : Nat → β}
    (inverse : ∀ value, ofWire (toWire value) = value)
    (fits : ∀ value, Varint.Fits (toWire value)) (depth : Nat) :
    (number zero toWire ofWire).Unites (latest zero) depth where
  restores := by
    intro levels old value _ _
    by_cases none : value = zero
    · simp only [number, latest, if_pos none]
      exact .none old
    · simp only [number, latest, if_neg none]
      refine .next (fun rest => ?_) (.none value)
      simp only [readVarint_encode (fits value), inverse]

theorem number_lawful [DecidableEq β] {zero : β} {toWire : β → Nat} {ofWire : Nat → β}
    (inverse : ∀ value, ofWire (toWire value) = value)
    (fits : ∀ value, Varint.Fits (toWire value)) (depth : Nat) :
    (number zero toWire ofWire).Lawful depth := by
  refine (number_unites inverse fits depth).lawful (latest_zero zero) fun value => ?_
  by_cases none : value = zero
  · simp only [number, if_pos none, List.map_nil]
  · simp only [number, if_neg none, List.map_cons, List.map_nil, Varint.length_encode]

theorem fits_toNat (value : UInt32) : Varint.Fits value.toNat :=
  Nat.lt_trans value.toNat_lt (by decide)

theorem uint32_unites (depth : Nat) : uint32.Unites (latest 0) depth :=
  number_unites (fun _ => UInt32.ofNat_toNat) fits_toNat depth

theorem int32_unites (depth : Nat) : int32.Unites (latest 0) depth :=
  number_unites ofNat_toWire32 (fun value => fits_toWire value.toInt) depth

theorem int64_unites (depth : Nat) : int64.Unites (latest 0) depth :=
  number_unites ofNat_toWire64 (fun value => fits_toWire value.toInt) depth

theorem uint32_lawful (depth : Nat) : uint32.Lawful depth :=
  number_lawful (fun _ => UInt32.ofNat_toNat) fits_toNat depth

theorem int32_lawful (depth : Nat) : int32.Lawful depth :=
  number_lawful ofNat_toWire32 (fun value => fits_toWire value.toInt) depth

theorem int64_lawful (depth : Nat) : int64.Lawful depth :=
  number_lawful ofNat_toWire64 (fun value => fits_toWire value.toInt) depth

theorem text_unites (depth : Nat) : text.Unites (latest "") depth where
  restores := by
    intro levels old value _ fits
    by_cases none : value = ""
    · simp only [text, latest, if_pos none]
      exact .none old
    · simp only [text, latest, if_neg none, List.forall_mem_singleton, List.length_append] at fits ⊢
      refine .next (fun rest => ?_) (.none value)
      have enough : ¬ (Text.encode value ++ rest).length < (Text.encode value).length := by
        rw [List.length_append]
        exact Nat.not_lt.mpr (Nat.le_add_right _ _)
      have count := readVarint_encode (fits.of_le (Nat.le_add_left _ _)) (Text.encode value ++ rest)
      rw [List.append_assoc]
      simp only [count, if_neg enough, List.take_left, List.drop_left, Text.decode?_encode]

theorem text_lawful (depth : Nat) : text.Lawful depth := by
  refine (text_unites depth).lawful (latest_zero "") fun value => ?_
  by_cases none : value = ""
  · simp only [text, if_pos none, List.map_nil]
  · simp only [text, if_neg none, List.map_cons, List.map_nil, List.length_append,
      Varint.length_encode]
    rfl

end Codec

/-! ## Messages inside others -/

namespace Format

variable {μ β : Type}

/-- A format whose messages read back from what is written for them, where so many levels of nesting
are left and the length of the message can be written. -/
structure Lawful (format : Format μ) (depth : Nat) : Prop where
  length_encode : ∀ message, (format.encode message).length = format.size message
  merge_encode : ∀ {levels : Nat} {message : μ}, depth ≤ levels →
    Varint.Fits (format.encode message).length → ∀ rest : Bytes,
    format.merge levels rest.length format.empty (format.encode message ++ rest)
      = .ok (message, rest)

/-- A format whose messages, read into any message, unite it with the one that was written. -/
structure Unites (format : Format μ) (unite : μ → μ → μ) (depth : Nat) : Prop where
  merge_encode : ∀ {levels : Nat} {old message : μ}, depth ≤ levels →
    Varint.Fits (format.encode message).length → ∀ rest : Bytes,
    format.merge levels rest.length old (format.encode message ++ rest)
      = .ok (unite old message, rest)

theorem fits_of_delimited {format : Format β} {message : β}
    (fits : Varint.Fits (format.delimited message).length) :
    Varint.Fits (format.encode message).length := by
  rw [delimited, List.length_append] at fits
  exact fits.of_le (Nat.le_add_left _ _)

/-- A message behind its length is read as it would be read by itself. -/
theorem mergeDelimited_delimited {format : Format β} {levels : Nat} {old new message : β}
    (someLevel : 0 < levels) (fits : Varint.Fits (format.delimited message).length) {rest : Bytes}
    (read : format.merge (levels - 1) rest.length old (format.encode message ++ rest)
      = .ok (new, rest)) :
    format.mergeDelimited levels old (format.delimited message ++ rest) = .ok (new, rest) := by
  have enough : ¬ (format.encode message ++ rest).length < (format.encode message).length := by
    rw [List.length_append]
    exact Nat.not_lt.mpr (Nat.le_add_right _ _)
  have behind : (format.encode message ++ rest).length - (format.encode message).length
      = rest.length := by
    rw [List.length_append, Nat.add_sub_cancel_left]
  rw [mergeDelimited, if_neg (Nat.ne_of_gt someLevel), delimited, List.append_assoc,
    readVarint_encode (fits_of_delimited fits)]
  simp only [if_neg enough, behind, read, if_true]

/-- Times that are there are united, and one that is absent changes nothing. -/
def uniteOptional (format : Format β) (unite : β → β → β) (old new : Option β) : Option β :=
  match new with
  | none => old
  | some message => some (unite (old.getD format.empty) message)

theorem Unites.optional {format : Format β} {unite : β → β → β} {depth : Nat}
    (unites : format.Unites unite depth) :
    format.optional.Unites (format.uniteOptional unite) (depth + 1) where
  restores := by
    intro levels old value deep fits
    cases value with
    | none => exact .none old
    | some message =>
      refine .next (fun rest => ?_) (.none (some (unite (old.getD format.empty) message)))
      have inner := fits _ List.mem_cons_self
      have read : format.mergeDelimited levels (old.getD format.empty)
          (format.delimited message ++ rest)
            = .ok (unite (old.getD format.empty) message, rest) :=
        mergeDelimited_delimited (by omega) inner
          (unites.merge_encode (Nat.le_sub_of_add_le deep) (fits_of_delimited inner) rest)
      simp only [Format.optional, read]

namespace Lawful

variable {format : Format β} {depth : Nat}

theorem length_delimited (lawful : format.Lawful depth) (message : β) :
    (format.delimited message).length = format.delimitedSize message := by
  rw [delimited, List.length_append, Varint.length_encode, lawful.length_encode, delimitedSize]

/-- A message behind its length reads back from within another one. -/
theorem mergeDelimited_delimited (lawful : format.Lawful depth) {levels : Nat} {message : β}
    (deep : depth + 1 ≤ levels) (fits : Varint.Fits (format.delimited message).length)
    (rest : Bytes) :
    format.mergeDelimited levels format.empty (format.delimited message ++ rest)
      = .ok (message, rest) :=
  Format.mergeDelimited_delimited (by omega) fits
    (lawful.merge_encode (Nat.le_sub_of_add_le deep) (fits_of_delimited fits) rest)

theorem optional (lawful : format.Lawful depth) : format.optional.Lawful (depth + 1) where
  sizes_eq := by
    intro value
    cases value with
    | none => rfl
    | some message => exact congrArg ([·]) (lawful.length_delimited message).symm
  restores := by
    intro levels value deep fits
    cases value with
    | none => exact .none none
    | some message =>
      refine .next (fun rest => ?_) (.none (some message))
      have read := lawful.mergeDelimited_delimited deep (fits _ List.mem_cons_self) rest
      simp only [Format.optional, Option.getD_none, read]

/-- The elements of a list go behind those read before. -/
theorem repeated_unites (lawful : format.Lawful depth) :
    format.repeated.Unites (· ++ ·) (depth + 1) where
  restores := by
    intro levels old values deep fits
    simp only [Format.repeated] at fits ⊢
    induction values generalizing old with
    | nil =>
      rw [List.append_nil]
      exact .none old
    | cons message values ih =>
      have later : format.repeated.Restores levels (values.map format.delimited)
          (old ++ [message]) (old ++ [message] ++ values) :=
        ih fun payload member => fits payload (List.mem_cons_of_mem _ member)
      rw [List.append_assoc] at later
      refine .next (fun rest => ?_) later
      have one := lawful.mergeDelimited_delimited deep (fits _ List.mem_cons_self) rest
      simp only [one]

theorem repeated (lawful : format.Lawful depth) : format.repeated.Lawful (depth + 1) := by
  refine lawful.repeated_unites.lawful List.nil_append fun values => ?_
  simp only [Format.repeated, List.map_map]
  exact List.map_congr_left fun message _ => (lawful.length_delimited message).symm

end Lawful

/-! ## Reading field by field -/

/-- The fields of a format have numbers that fields can have, each its own. -/
structure Numbered (format : Format μ) : Prop where
  valid : ∀ number ∈ format.fields.map Field.number, Key.Valid number
  distinct : (format.fields.map Field.number).Nodup

/-- A field is found by its number. -/
theorem Numbered.field?_eq {format : Format μ} (numbered : format.Numbered) {field : Field μ}
    (member : field ∈ format.fields) : format.field? field.number = some field := by
  have distinct := numbered.distinct
  rw [field?]
  generalize format.fields = fields at member distinct
  induction fields with
  | nil => cases member
  | cons other fields ih =>
    obtain ⟨apart, distinct⟩ := List.nodup_cons.mp distinct
    rcases List.mem_cons.mp member with rfl | later
    · exact List.find?_cons_of_pos (beq_self_eq_true _)
    · have different : (other.number == field.number) = false :=
        beq_false_of_ne fun same => apart (same ▸ List.mem_map_of_mem later)
      simp only [List.find?_cons, different]
      exact ih later distinct

/-- A part of a message that can be shown and replaced. -/
structure Part (get : μ → β) (set : μ → β → μ) : Prop where
  get_set : ∀ message value, get (set message value) = value := by intros; rfl
  set_set : ∀ message first second, set (set message first) second = set message second := by
    intros; rfl
  set_get : ∀ message, set message (get message) = message := by intros; rfl

section

variable {format : Format μ} {codec : Codec β} {number : Nat} {name : String} {get : μ → β}
  {set : μ → β → μ}

/-- One occurrence of a field is read. -/
theorem merge_occurrence (numbered : format.Numbered)
    (member : codec.field number name get set ∈ format.fields) {levels behind : Nat} {old : μ}
    {value : β} {payload rest : Bytes}
    (read : codec.merge levels (get old) (payload ++ rest) = .ok (value, rest))
    (enough : behind ≤ rest.length) :
    format.merge levels behind old
        ((codec.field number name get set).key.encode ++ payload ++ rest)
      = format.merge levels behind (set old value) rest := by
  have valid : Key.Valid number := numbered.valid number (List.mem_map_of_mem member)
  have announced : readKey ((codec.field number name get set).key.encode ++ payload ++ rest)
      = .ok ((codec.field number name get set).key, payload ++ rest) := by
    rw [List.append_assoc]
    exact readKey_encode valid (payload ++ rest)
  have found : format.field? (codec.field number name get set).key.field
      = some (codec.field number name get set) := numbered.field?_eq member
  refine merge_of_mergeField ?_ announced ?_
  · have positive := (codec.field number name get set).key.length_encode_pos
    simp only [List.length_append]
    omega
  · have merged : (codec.field number name get set).merge levels old (payload ++ rest)
        = .ok (set old value, rest) := Codec.merge_field_eq_ok_iff.mpr ⟨value, read, rfl⟩
    exact (mergeField_of_known found).mpr ⟨rfl, merged⟩

/-- All occurrences of a field are read. -/
theorem merge_payloads (numbered : format.Numbered)
    (member : codec.field number name get set ∈ format.fields) (part : Part get set)
    {levels behind : Nat} {payloads : List Bytes} {old new : β}
    (restores : codec.Restores levels payloads old new) {soFar : μ} (shows : get soFar = old)
    {rest : Bytes} (enough : behind ≤ rest.length) :
    format.merge levels behind soFar
        (payloads.flatMap ((codec.field number name get set).key.encode ++ ·) ++ rest)
      = format.merge levels behind (set soFar new) rest := by
  induction restores generalizing soFar with
  | none value =>
    rw [← shows, part.set_get]
    rfl
  | @next payload payloads old middle new read later ih =>
    have behindIt : behind ≤
        (payloads.flatMap ((codec.field number name get set).key.encode ++ ·) ++ rest).length := by
      rw [List.length_append]
      exact Nat.le_add_left_of_le enough
    rw [List.flatMap_cons, List.append_assoc,
      merge_occurrence numbered member (shows ▸ read _) behindIt, ih (part.get_set _ _),
      part.set_set]

end

/-- The fields of a message, read one after the other, turn the message read so far into another. -/
inductive Applies (depth : Nat) (message : μ) : List (Field μ) → μ → μ → Prop where
  | done (soFar : μ) : Applies depth message [] soFar soFar
  | field {β : Type} {codec : Codec β} {number : Nat} {name : String} {get : μ → β}
      {set : μ → β → μ} {fields : List (Field μ)} {soFar new : μ} {value : β}
      (restores : ∀ {levels : Nat}, depth ≤ levels →
        (∀ payload ∈ codec.payloads (get message), Varint.Fits payload.length) →
        codec.Restores levels (codec.payloads (get message)) (get soFar) value)
      (part : Part get set) (later : Applies depth message fields (set soFar value) new) :
      Applies depth message (codec.field number name get set :: fields) soFar new

/-- The fields that are left turn the message read so far into the message that was written: each of
them finds its part absent. -/
inductive Rebuilds (depth : Nat) (message : μ) : List (Field μ) → μ → Prop where
  | done : Rebuilds depth message [] message
  | field {β : Type} {codec : Codec β} {number : Nat} {name : String} {get : μ → β}
      {set : μ → β → μ} {fields : List (Field μ)} {soFar : μ} (lawful : codec.Lawful depth)
      (part : Part get set) (absent : get soFar = codec.absent)
      (later : Rebuilds depth message fields (set soFar (get message))) :
      Rebuilds depth message (codec.field number name get set :: fields) soFar

namespace Rebuilds

variable {format : Format μ} {depth : Nat} {message soFar : μ} {fields : List (Field μ)}

/-- The fields take as many bytes as their sizes say. -/
theorem length_eq (rebuilds : Rebuilds depth message fields soFar) :
    (fields.flatMap (·.encode message)).length
      = fields.foldr (fun field others => field.size message + others) 0 := by
  induction rebuilds with
  | done => rfl
  | @field β codec number name get set fields soFar lawful part absent later ih =>
    have one : ((codec.field number name get set).encode message).length
        = (codec.field number name get set).size message := by
      simp only [Field.encode, Field.size, Codec.field, lawful.sizes_eq]
      generalize codec.payloads (get message) = payloads
      induction payloads with
      | nil => rfl
      | cons payload payloads ih =>
        rw [List.flatMap_cons, List.length_append, List.length_append, Key.length_encode, ih]
        rfl
    rw [List.flatMap_cons, List.length_append, one, ih]
    rfl

/-- Reading the fields that are left changes the message read so far into the one written. -/
theorem applies (rebuilds : Rebuilds depth message fields soFar) :
    Applies depth message fields soFar message := by
  induction rebuilds with
  | done => exact .done message
  | field lawful part absent later ih => exact .field (absent ▸ lawful.restores) part ih

end Rebuilds

/-- A field whose codec unites values unites its part of the two messages. -/
theorem Applies.united {depth : Nat} {message soFar new : μ} {fields : List (Field μ)}
    {codec : Codec β} {unite : β → β → β} {number : Nat} {name : String} {get : μ → β}
    {set : μ → β → μ} (unites : codec.Unites unite depth) (part : Part get set)
    (later : Applies depth message fields (set soFar (unite (get soFar) (get message))) new) :
    Applies depth message (codec.field number name get set :: fields) soFar new :=
  .field unites.restores part later

/-- Fields read back in their order. -/
theorem Applies.merge_eq {format : Format μ} {depth : Nat} {message soFar new : μ}
    {fields : List (Field μ)} (applies : Applies depth message fields soFar new)
    (numbered : format.Numbered) {levels : Nat} (deep : depth ≤ levels)
    (members : ∀ field ∈ fields, field ∈ format.fields)
    (fits : ∀ field ∈ fields, ∀ payload ∈ field.payloads message, Varint.Fits payload.length)
    (rest : Bytes) :
    format.merge levels rest.length soFar (fields.flatMap (·.encode message) ++ rest)
      = .ok (new, rest) := by
  induction applies with
  | done => exact merge_of_length rfl
  | @field β codec number name get set fields soFar new value restores part later ih =>
    have here := members _ List.mem_cons_self
    have enough : rest.length ≤ (fields.flatMap (·.encode message) ++ rest).length := by
      rw [List.length_append]
      exact Nat.le_add_left _ _
    rw [List.flatMap_cons, List.append_assoc, Field.encode]
    exact (merge_payloads numbered here part (restores deep (fits _ List.mem_cons_self)) rfl
      enough).trans
        (ih (fun other member => members other (List.mem_cons_of_mem _ member))
          fun other member => fits other (List.mem_cons_of_mem _ member))

/-- A payload is no longer than the message that it is written in. -/
theorem length_payload_le {format : Format μ} {message : μ} {field : Field μ}
    (member : field ∈ format.fields) {payload : Bytes}
    (written : payload ∈ field.payloads message) :
    payload.length ≤ (format.encode message).length := by
  have inField : payload.length ≤ (field.encode message).length := by
    obtain ⟨before, after, split⟩ := List.append_of_mem written
    simp only [Field.encode, split, List.flatMap_append, List.flatMap_cons, List.length_append]
    omega
  obtain ⟨before, after, split⟩ := List.append_of_mem member
  simp only [encode, split, List.flatMap_append, List.flatMap_cons, List.length_append]
  omega

/-- The bytes of a message are read into any message that its fields can be applied to. -/
theorem merge_encode {format : Format μ} {depth : Nat} (numbered : format.Numbered)
    {old message new : μ} (applies : Applies depth message format.fields old new) {levels : Nat}
    (deep : depth ≤ levels) (fits : Varint.Fits (format.encode message).length) (rest : Bytes) :
    format.merge levels rest.length old (format.encode message ++ rest) = .ok (new, rest) := by
  refine applies.merge_eq numbered deep (fun _ member => member) ?_ rest
  intro field member payload written
  exact fits.of_le (length_payload_le member written)

/-- **A format is lawful whose fields rebuild every message.** -/
theorem lawful {format : Format μ} {depth : Nat} (numbered : format.Numbered)
    (rebuilds : ∀ message, Rebuilds depth message format.fields format.empty) :
    format.Lawful depth where
  length_encode := fun message => (rebuilds message).length_eq
  merge_encode := fun {_ message} deep fits rest =>
    merge_encode numbered (rebuilds message).applies deep fits rest

/-- A message reads back from all of its bytes. -/
theorem Lawful.decode_encode {format : Format μ} {depth : Nat} (lawful : format.Lawful depth)
    (deep : depth ≤ maxLevels) {message : μ} (fits : Varint.Fits (format.size message)) :
    format.decode (format.encode message) = .ok message := by
  rw [← lawful.length_encode] at fits
  have read := lawful.merge_encode deep fits []
  rw [List.append_nil] at read
  have whole : format.merge maxLevels 0 format.empty (format.encode message)
      = .ok (message, []) := read
  rw [decode, whole]

end Format

end JobHooks.Wire

namespace JobHooks

open Wire

/-! ## The messages of the plugin daemon -/

theorem Stamp.format_numbered (name : String) : (Stamp.format name).Numbered where
  valid := by
    show ∀ number ∈ [1, 2], Key.Valid number
    decide
  distinct := by
    show [1, 2].Nodup
    decide

theorem Stamp.format_lawful (name : String) (depth : Nat) : (Stamp.format name).Lawful depth := by
  refine Format.lawful (format_numbered name) fun stamp => ?_
  exact .field (Codec.int64_lawful depth) {} rfl <|
    .field (Codec.int32_lawful depth) {} rfl .done

theorem JobInfo.format_numbered : JobInfo.format.Numbered where
  valid := by
    show ∀ number ∈ [1, 2, 3, 4, 5, 6, 7, 8, 9, 10, 11, 12, 13, 14], Key.Valid number
    decide
  distinct := by
    show [1, 2, 3, 4, 5, 6, 7, 8, 9, 10, 11, 12, 13, 14].Nodup
    decide

theorem JobInfo.format_rebuilds (job : JobInfo) :
    Format.Rebuilds 1 job JobInfo.format.fields JobInfo.format.empty := by
  have point : Stamp.pointFormat.optional.Lawful 1 := (Stamp.format_lawful _ 0).optional
  have span : Stamp.spanFormat.optional.Lawful 1 := (Stamp.format_lawful _ 0).optional
  have number := Codec.uint32_lawful 1
  have text := Codec.text_lawful 1
  exact .field number {} rfl <| .field text {} rfl <| .field text {} rfl <|
    .field text {} rfl <| .field text {} rfl <| .field number {} rfl <| .field text {} rfl <|
    .field (Codec.int32_lawful 1) {} rfl <| .field number {} rfl <| .field point {} rfl <|
    .field point {} rfl <| .field point {} rfl <| .field span {} rfl <| .field span {} rfl .done

theorem JobInfo.format_lawful : JobInfo.format.Lawful 1 :=
  Format.lawful format_numbered format_rebuilds

theorem JobInfo.listFormat_numbered (name : String) : (JobInfo.listFormat name).Numbered where
  valid := by
    show ∀ number ∈ [1], Key.Valid number
    decide
  distinct := by
    show [1].Nodup
    decide

theorem JobInfo.listFormat_rebuilds (name : String) (jobs : List JobInfo) :
    Format.Rebuilds 2 jobs (listFormat name).fields (listFormat name).empty :=
  .field JobInfo.format_lawful.repeated {} rfl .done

theorem JobInfo.listFormat_lawful (name : String) : (JobInfo.listFormat name).Lawful 2 :=
  Format.lawful (listFormat_numbered name) (listFormat_rebuilds name)

theorem MonitorTarget.format_numbered : MonitorTarget.format.Numbered where
  valid := by
    show ∀ number ∈ [1, 2], Key.Valid number
    decide
  distinct := by
    show [1, 2].Nodup
    decide

theorem MonitorTarget.format_rebuilds (target : MonitorTarget) :
    Format.Rebuilds 0 target MonitorTarget.format.fields MonitorTarget.format.empty :=
  .field (Codec.uint32_lawful 0) {} rfl <| .field (Codec.text_lawful 0) {} rfl .done

theorem MonitorTarget.format_lawful : MonitorTarget.format.Lawful 0 :=
  Format.lawful format_numbered format_rebuilds

theorem Reply.format_numbered (name : String) : (Reply.format name).Numbered where
  valid := List.forall_mem_nil _
  distinct := List.nodup_nil

/-! ## The types of messages -/

/-- The types of messages that worker and daemon exchange. -/
inductive MessageType where
  | job
  | start
  | finish
  | monitor
  | reply (hookType : HookType)
  deriving Repr, DecidableEq

namespace MessageType

/-- What a message of a type holds. -/
def Value : MessageType → Type
  | job => JobInfo
  | start | finish => List JobInfo
  | monitor => MonitorTarget
  | reply _ => Reply

/-- The format of the messages of a type. -/
def format : (type : MessageType) → Format type.Value
  | job => JobInfo.format
  | start => JobInfo.startFormat
  | finish => JobInfo.finishFormat
  | monitor => MonitorTarget.format
  | reply hookType => hookType.replyFormat

theorem format_framed (type : MessageType) : type.format.Framed := by
  cases type with
  | job => exact JobInfo.format_framed
  | start | finish => exact JobInfo.listFormat_framed _
  | monitor => exact MonitorTarget.format_framed
  | reply hookType => exact Reply.format_framed _

theorem format_numbered (type : MessageType) : type.format.Numbered := by
  cases type with
  | job => exact JobInfo.format_numbered
  | start | finish => exact JobInfo.listFormat_numbered _
  | monitor => exact MonitorTarget.format_numbered
  | reply hookType => exact Reply.format_numbered _

theorem format_rebuilds (type : MessageType) : ∃ depth ≤ Format.maxLevels,
    ∀ message, Format.Rebuilds depth message type.format.fields type.format.empty := by
  cases type with
  | job => exact ⟨1, by decide, JobInfo.format_rebuilds⟩
  | start | finish => exact ⟨2, by decide, JobInfo.listFormat_rebuilds _⟩
  | monitor => exact ⟨0, by decide, MonitorTarget.format_rebuilds⟩
  | reply hookType => exact ⟨0, by decide, fun _ => .done⟩

theorem format_lawful (type : MessageType) :
    ∃ depth ≤ Format.maxLevels, type.format.Lawful depth := by
  obtain ⟨depth, deep, rebuilds⟩ := type.format_rebuilds
  exact ⟨depth, deep, Format.lawful type.format_numbered rebuilds⟩

theorem length_encode (type : MessageType) (message : type.Value) :
    (type.format.encode message).length = type.format.size message := by
  obtain ⟨depth, deep, lawful⟩ := type.format_lawful
  exact lawful.length_encode message

end MessageType

/-! ## What is written can be read -/

/-- **Jobs and requests read back**: each takes as many bytes as its size says, and if that is a
number of 64 bits, as the size of everything is that a memory with addresses of 64 bits can hold,
reading the bytes gives back what was written. -/
theorem Payload.reads_back :
    (∀ job : JobInfo, (JobInfo.format.encode job).length = JobInfo.format.size job
      ∧ (Varint.Fits (JobInfo.format.size job) →
        JobInfo.format.decode (JobInfo.format.encode job) = .ok job))
    ∧ ∀ payload : Payload, payload.message.length = payload.messageSize
      ∧ (Varint.Fits payload.messageSize →
        ofMessage payload.hookType payload.message = .ok payload) := by
  refine ⟨fun job => ⟨JobInfo.format_lawful.length_encode job, ?_⟩, fun payload => ?_⟩
  · exact JobInfo.format_lawful.decode_encode (by decide)
  · cases payload with
    | start jobs =>
      have lawful : JobInfo.startFormat.Lawful 2 := JobInfo.listFormat_lawful _
      refine ⟨lawful.length_encode jobs, fun fits => ?_⟩
      exact congrArg (Except.map start) (lawful.decode_encode (by decide) fits)
    | finish jobs =>
      have lawful : JobInfo.finishFormat.Lawful 2 := JobInfo.listFormat_lawful _
      refine ⟨lawful.length_encode jobs, fun fits => ?_⟩
      exact congrArg (Except.map finish) (lawful.decode_encode (by decide) fits)
    | monitor target =>
      refine ⟨MonitorTarget.format_lawful.length_encode target, fun fits => ?_⟩
      exact congrArg (Except.map monitor)
        (MonitorTarget.format_lawful.decode_encode (by decide) fits)

/-- A request with a negative status, a time of zero and a job of which nothing is known. -/
theorem Payload.reads_back_finish :
    let payload : Payload := .finish
      [{ name := "é", status := -1, endTime := some ⟨0, 0⟩, elapsedTime := some ⟨-1, 0⟩ }, {}]
    Varint.Fits payload.messageSize ∧ ofMessage .finish payload.message = .ok payload := by
  intro payload
  have fits : Varint.Fits payload.messageSize := by
    unfold Varint.Fits
    decide
  exact ⟨fits, (reads_back.2 payload).2 fits⟩

end JobHooks
