import JobHooks.Proofs.Fallible
import JobHooks.Proofs.Wire.Contents
import JobHooks.Wire.Messages

/-!
# Reading field by field

The payload of a known field is read from wherever it stands, with all of the outer message behind
it.  A codec is framed (`Codec.Framed`) when this does not matter: it takes just what could be
skipped by its wire type, and it makes of that what it would make of it alone.  The codecs of
numbers and texts are framed, and so are those of messages inside others.

From this it follows that the reader of a format sees a list of fields and nothing else.
`Format.Merges` says that fields, one after the other, turn one message into another.
`Format.merge_eq_ok_iff` says that reading up to a place succeeds just when the bytes up to there
are such fields, `Format.mergeDelimited_eq_ok_iff` the same of a message inside another, and
`Format.decode_eq_ok_iff` of a whole one.  `Format.decode_append` is the form in which this is
mostly used: behind fields that could be read, reading goes on from the message that they make.
-/

namespace JobHooks.Wire

set_option autoImplicit false

/-! ## Framed readers -/

/-- A reader that takes from the front of its input what could be skipped by a wire type, and makes
of it what it would make of it alone. -/
def Framed {α : Type} (wireType : WireType) (read : Bytes → Except Fault (α × Bytes)) : Prop :=
  ∀ (value : α) (input rest : Bytes), read input = .ok (value, rest)
    ↔ ∃ used, input = used ++ rest ∧ Plain wireType used ∧ read used = .ok (value, [])

/-- What has been read is changed, and the rest is left as it is. -/
theorem changed_eq_ok_iff {α β : Type} {result : Except Fault (α × Bytes)} {change : α → β}
    {value : β} {rest : Bytes} :
    (match result with
      | .error fault => .error fault
      | .ok (inner, rest) => .ok (change inner, rest) : Except Fault (β × Bytes))
        = .ok (value, rest)
      ↔ ∃ inner, result = .ok (inner, rest) ∧ change inner = value := by
  cases result with
  | error fault =>
    constructor
    · intro impossible
      cases impossible
    · rintro ⟨inner, impossible, -⟩
      cases impossible
  | ok pair =>
    obtain ⟨inner, left⟩ := pair
    constructor
    · intro step
      cases step
      exact ⟨inner, rfl, rfl⟩
    · rintro ⟨inner, step, rfl⟩
      cases step
      rfl

/-- To change what has been read changes nothing about which bytes are taken. -/
theorem Framed.map {α β : Type} {wireType : WireType} {read : Bytes → Except Fault (α × Bytes)}
    (framed : Framed wireType read) {change : α → β} {further : Bytes → Except Fault (β × Bytes)}
    (changed : ∀ {value : β} {input rest : Bytes}, further input = .ok (value, rest)
      ↔ ∃ inner, read input = .ok (inner, rest) ∧ change inner = value) :
    Framed wireType further := by
  intro value input rest
  rw [changed]
  constructor
  · rintro ⟨inner, step, rfl⟩
    obtain ⟨used, split, plain, alone⟩ := (framed _ _ _).mp step
    exact ⟨used, split, plain, changed.mpr ⟨inner, alone, rfl⟩⟩
  · rintro ⟨used, split, plain, alone⟩
    obtain ⟨inner, step, rfl⟩ := changed.mp alone
    exact ⟨inner, (framed _ _ _).mpr ⟨used, split, plain, step⟩, rfl⟩

/-- A field whose payloads are framed. -/
def Field.Framed {μ : Type} (field : Field μ) : Prop :=
  ∀ (levels : Nat) (old : μ), Wire.Framed field.wireType (field.merge levels old)

namespace Codec

variable {β μ : Type}

/-- A codec whose payloads are framed. -/
def Framed (codec : Codec β) : Prop :=
  ∀ (levels : Nat) (old : β), Wire.Framed codec.wireType (codec.merge levels old)

theorem number_framed [DecidableEq β] {zero : β} {toWire : β → Nat} {ofWire : Nat → β} :
    (number zero toWire ofWire).Framed := by
  intro levels old new input rest
  simp only [number]
  constructor
  · intro read
    split at read
    · cases read
    · next value remaining step =>
      cases read
      obtain ⟨used, split, numeral⟩ := readVarint_eq_ok_iff.mp step
      have alone := numeral.read []
      rw [List.append_nil] at alone
      exact ⟨used, split, .varint numeral, by rw [alone]⟩
  · rintro ⟨used, rfl, plain, read⟩
    cases plain with
    | varint numeral =>
      have alone := numeral.read []
      rw [List.append_nil] at alone
      rw [alone] at read
      cases read
      rw [numeral.read]

theorem text_framed : text.Framed := by
  intro levels old new input rest
  simp only [text]
  constructor
  · intro read
    split at read
    · cases read
    · next count remaining step =>
      obtain ⟨head, rfl, numeral⟩ := readVarint_eq_ok_iff.mp step
      split at read
      · cases read
      · next enough =>
        split at read
        · cases read
        · next value decoded =>
          cases read
          have length : (remaining.take count).length = count :=
            List.length_take_of_le (Nat.le_of_not_lt enough)
          rw [← length] at numeral
          refine ⟨head ++ remaining.take count, ?_, .lengthDelimited numeral, ?_⟩
          · rw [List.append_assoc, List.take_append_drop]
          · simp only [numeral.read, Nat.lt_irrefl, if_false, List.take_length, decoded,
              List.drop_length]
  · rintro ⟨used, rfl, plain, read⟩
    cases plain with
    | @lengthDelimited count bytes numeral =>
      simp only [numeral.read, Nat.lt_irrefl, if_false, List.take_length, List.drop_length] at read
      have enough : ¬ (bytes ++ rest).length < bytes.length := by
        rw [List.length_append]
        omega
      simp only [List.append_assoc, numeral.read, if_neg enough, List.take_left, List.drop_left]
      split at read
      · cases read
      · cases read
        rfl

section

variable {codec : Codec β} {number : Nat} {name : String} {get : μ → β} {set : μ → β → μ}

/-- A payload is read into the part of a message that its field shows. -/
theorem merge_field_eq_ok_iff {levels : Nat} {old new : μ} {input rest : Bytes} :
    (codec.field number name get set).merge levels old input = .ok (new, rest)
      ↔ ∃ value, codec.merge levels (get old) input = .ok (value, rest) ∧ set old value = new :=
  changed_eq_ok_iff

theorem Framed.field (framed : codec.Framed) : (codec.field number name get set).Framed :=
  fun levels old => (framed levels (get old)).map merge_field_eq_ok_iff

end

end Codec

/-! ## Lists of fields -/

namespace Format

variable {μ β : Type} {format : Format μ} {levels behind : Nat} {old middle new : μ}

/-- A format all of whose fields are framed. -/
def Framed (format : Format μ) : Prop := ∀ field ∈ format.fields, field.Framed

/-- Fields, one after the other, turn a message into another. -/
inductive Merges (format : Format μ) (levels : Nat) : μ → List RawField → μ → Prop where
  | nil (message : μ) : Merges format levels message [] message
  | cons {old middle new : μ} {field : RawField} {fields : List RawField}
      (spells : Key.Spells field.head field.key)
      (merged : format.mergeField levels field.key old field.body = .ok (middle, []))
      (later : Merges format levels middle fields new) :
      Merges format levels old (field :: fields) new

/-- Reading ends where no more bytes are left than belong to what comes behind. -/
theorem merge_of_length {message : μ} {rest : Bytes} (here : rest.length = behind) :
    format.merge levels behind message rest = .ok (message, rest) := by
  rw [merge, if_pos (Nat.le_of_eq here)]

/-- Reading goes on behind a field whose key and payload can be read. -/
theorem merge_of_mergeField {key : Key} {input payload rest : Bytes} (more : behind < input.length)
    (announced : readKey input = .ok (key, payload))
    (merged : format.mergeField levels key old payload = .ok (new, rest)) :
    format.merge levels behind old input = format.merge levels behind new rest := by
  rw [merge, if_neg (Nat.not_le.mpr more)]
  split
  · next cause step =>
    rw [announced] at step
    cases step
  · next other remaining step =>
    rw [announced] at step
    cases step
    split
    · next fault step =>
      rw [merged] at step
      cases step
    · next message left step =>
      rw [merged] at step
      cases step
      rfl

/-- A field is found by its own number. -/
theorem number_of_field? {number : Nat} {field : Field μ}
    (found : format.field? number = some field) : field.number = number := by
  have hit := List.find?_some found
  exact beq_iff_eq.mp hit

/-- A field without a meaning is skipped, and the message stays as it is. -/
theorem mergeField_of_unknown {key : Key} (unknown : format.field? key.field = none)
    {input rest : Bytes} :
    format.mergeField levels key old input = .ok (new, rest)
      ↔ old = new ∧ skipField levels key input = .ok rest := by
  simp only [mergeField, unknown]
  constructor
  · intro read
    split at read
    · cases read
    · next remaining step =>
      cases read
      exact ⟨rfl, step⟩
  · rintro ⟨rfl, step⟩
    rw [step]

/-- A field with a meaning has to come with its own wire type. -/
theorem mergeField_of_known {key : Key} {field : Field μ}
    (known : format.field? key.field = some field) {input rest : Bytes} :
    format.mergeField levels key old input = .ok (new, rest)
      ↔ key.wireType = field.wireType ∧ field.merge levels old input = .ok (new, rest) := by
  simp only [mergeField, known]
  by_cases same : key.wireType = field.wireType
  · rw [if_pos same, mapError_eq_ok_iff]
    exact (and_iff_right same).symm
  · rw [if_neg same]
    constructor
    · intro impossible
      cases impossible
    · rintro ⟨impossible, -⟩
      exact absurd impossible same

section

variable (framed : format.Framed)
include framed

/-- What follows a key is taken as if nothing stood behind it, and it is some content of the key. -/
theorem mergeField_eq_ok_iff {key : Key} {input rest : Bytes} :
    format.mergeField levels key old input = .ok (new, rest) ↔ ∃ used, input = used ++ rest
      ∧ (∃ depth, Content depth key used)
      ∧ format.mergeField levels key old used = .ok (new, []) := by
  cases found : format.field? key.field with
  | none =>
    simp only [mergeField_of_unknown found, skipField_eq_ok_iff, List.append_nil]
    constructor
    · rintro ⟨same, used, split, content⟩
      exact ⟨used, split, ⟨levels, content⟩, same, used, rfl, content⟩
    · rintro ⟨used, split, -, same, _, rfl, content⟩
      exact ⟨same, used, split, content⟩
  | some field =>
    have fieldFramed : field.Framed := framed field (List.mem_of_find?_eq_some found)
    simp only [mergeField_of_known found]
    rw [fieldFramed]
    constructor
    · rintro ⟨same, used, split, plain, alone⟩
      refine ⟨used, split, ⟨1, ?_⟩, same, alone⟩
      exact .plain (same ▸ plain)
    · rintro ⟨used, split, -, same, alone⟩
      obtain ⟨_, whole, plain, -⟩ := (fieldFramed _ _ _ _ _).mp alone
      rw [List.append_nil] at whole
      exact ⟨same, used, split, whole ▸ plain, alone⟩

/-- Behind fields, reading goes on from the message that they make. -/
theorem merge_of_merges {fields : List RawField} (merges : format.Merges levels old fields new)
    {rest : Bytes} (enough : behind ≤ rest.length) :
    format.merge levels behind old (joined fields ++ rest)
      = format.merge levels behind new rest := by
  induction merges with
  | nil => rfl
  | @cons old middle new field fields spells merged later ih =>
    have more : behind < (joined (field :: fields) ++ rest).length := by
      have positive := spells.length_pos
      simp only [joined_cons, List.length_append]
      omega
    obtain ⟨used, split, content, alone⟩ := (mergeField_eq_ok_iff framed).mp merged
    rw [List.append_nil] at split
    have here : format.mergeField levels field.key old (field.body ++ (joined fields ++ rest))
        = .ok (middle, joined fields ++ rest) :=
      (mergeField_eq_ok_iff framed).mpr ⟨field.body, rfl, split ▸ content, merged⟩
    rw [joined_cons, List.append_assoc, List.append_assoc] at more ⊢
    rw [merge_of_mergeField more (spells.read _) here, ih]

/-- **Reading up to a place succeeds just when the bytes up to there are fields** that make the
message. -/
theorem merge_eq_ok_iff {input rest : Bytes} (here : rest.length = behind) :
    format.merge levels behind old input = .ok (new, rest)
      ↔ ∃ fields, input = joined fields ++ rest ∧ format.Merges levels old fields new := by
  constructor
  · intro read
    fun_induction format.merge levels behind old input with
    | case1 message input =>
      cases read
      exact ⟨[], rfl, .nil new⟩
    | case2 => cases read
    | case3 => cases read
    | case4 message input more key payload step merged remaining mergedStep ih =>
      obtain ⟨head, rfl, spells⟩ := readKey_eq_ok_iff.mp step
      obtain ⟨body, rfl, -, alone⟩ := (mergeField_eq_ok_iff framed).mp mergedStep
      obtain ⟨fields, rfl, merges⟩ := ih read
      refine ⟨⟨head, key, body⟩ :: fields, ?_, .cons spells alone merges⟩
      rw [joined_cons, List.append_assoc, List.append_assoc]
  · rintro ⟨fields, rfl, merges⟩
    rw [merge_of_merges framed merges (Nat.le_of_eq here.symm), merge_of_length here]

/-! ## Whole messages -/

/-- What comes of a message read so far when the rest of its bytes is read into it. -/
def resume (format : Format μ) (message : μ) (input : Bytes) : Except Fault μ :=
  match format.merge maxLevels 0 message input with
  | .error fault => .error fault
  | .ok (merged, _) => .ok merged

omit framed in
theorem decode_eq_resume (format : Format μ) : format.decode = format.resume format.empty := rfl

omit framed in
theorem resume_nil (format : Format μ) (message : μ) : format.resume message [] = .ok message := by
  have done : format.merge maxLevels 0 message [] = .ok (message, []) := merge_of_length rfl
  rw [resume, done]

omit framed in
theorem length_le_of_merge {input rest : Bytes}
    (read : format.merge levels behind old input = .ok (new, rest)) : rest.length ≤ behind := by
  fun_induction format.merge levels behind old input with
  | case1 message input done =>
    cases read
    exact done
  | case2 => cases read
  | case3 => cases read
  | case4 message input more key payload step merged remaining mergedStep ih => exact ih read

/-- Behind fields, reading goes on from the message that they make. -/
theorem resume_joined {fields : List RawField} (merges : format.Merges maxLevels old fields new)
    (rest : Bytes) : format.resume old (joined fields ++ rest) = format.resume new rest := by
  rw [resume, merge_of_merges framed merges (Nat.zero_le _), resume]

theorem resume_eq_ok_iff {input : Bytes} :
    format.resume old input = .ok new
      ↔ ∃ fields, input = joined fields ∧ format.Merges maxLevels old fields new := by
  constructor
  · intro read
    unfold resume at read
    split at read
    · cases read
    · next merged rest step =>
      cases read
      have nothing : rest.length = 0 := Nat.le_zero.mp (length_le_of_merge step)
      obtain ⟨fields, rfl, merges⟩ := (merge_eq_ok_iff framed nothing).mp step
      cases List.eq_nil_of_length_eq_zero nothing
      exact ⟨fields, List.append_nil _, merges⟩
  · rintro ⟨fields, rfl, merges⟩
    have whole := resume_joined framed merges []
    rwa [List.append_nil, resume_nil] at whole

/-- Behind a key there has to be a payload that can be read into the message, and behind that the
rest. -/
theorem resume_head_eq_ok_iff {head input : Bytes} {key : Key} (spells : Key.Spells head key) :
    format.resume old (head ++ input) = .ok new ↔ ∃ body rest middle, input = body ++ rest
      ∧ format.mergeField maxLevels key old body = .ok (middle, [])
      ∧ format.resume middle rest = .ok new := by
  constructor
  · intro read
    obtain ⟨fields, split, merges⟩ := (resume_eq_ok_iff framed).mp read
    cases merges with
    | nil =>
      have positive := spells.length_pos
      have nothing := congrArg List.length split
      rw [joined_nil, List.length_append, List.length_nil] at nothing
      omega
    | @cons _ middle _ field fields found merged later =>
      have announced := spells.read input
      rw [split, joined_cons, found.read] at announced
      cases announced
      exact ⟨field.body, joined fields, middle, rfl, merged,
        (resume_eq_ok_iff framed).mpr ⟨fields, rfl, later⟩⟩
  · rintro ⟨body, rest, middle, rfl, merged, later⟩
    have one : format.Merges maxLevels old [⟨head, key, body⟩] middle :=
      .cons spells merged (.nil _)
    have step := resume_joined framed one rest
    rw [joined_cons, joined_nil, List.append_nil, List.append_assoc] at step
    rw [step, later]

/-- **A message is read just when its bytes are fields** that make it out of the empty one. -/
theorem decode_eq_ok_iff {input : Bytes} {message : μ} :
    format.decode input = .ok message
      ↔ ∃ fields, input = joined fields ∧ format.Merges maxLevels format.empty fields message :=
  resume_eq_ok_iff framed

/-- **Behind bytes that are a message**, reading goes on from that message. -/
theorem decode_append {first : Bytes} {message : μ} (read : format.decode first = .ok message)
    (second : Bytes) : format.decode (first ++ second) = format.resume message second := by
  obtain ⟨fields, rfl, merges⟩ := (decode_eq_ok_iff framed).mp read
  exact resume_joined framed merges second

/-! ## Messages inside others -/

/-- A message inside another is its length and as many bytes, which are fields that make it. -/
theorem mergeDelimited_eq_ok_iff {input rest : Bytes} :
    format.mergeDelimited levels old input = .ok (new, rest)
      ↔ 0 < levels ∧ ∃ count fields, input = count ++ (joined fields ++ rest)
        ∧ Varint.Numeral count (joined fields).length
        ∧ format.Merges (levels - 1) old fields new := by
  constructor
  · intro read
    unfold mergeDelimited at read
    split at read
    · cases read
    · next someLevel =>
      split at read
      · cases read
      · next length remaining step =>
        obtain ⟨count, rfl, numeral⟩ := readVarint_eq_ok_iff.mp step
        split at read
        · cases read
        · next enough =>
          split at read
          · cases read
          · next merged left mergedStep =>
            split at read
            · next ends =>
              cases read
              obtain ⟨fields, rfl, merges⟩ := (merge_eq_ok_iff framed ends).mp mergedStep
              have same : length = (joined fields).length := by
                rw [List.length_append] at ends enough
                omega
              exact ⟨Nat.pos_of_ne_zero someLevel, count, fields, rfl, same ▸ numeral, merges⟩
            · cases read
  · rintro ⟨someLevel, count, fields, rfl, numeral, merges⟩
    have enough : ¬ (joined fields ++ rest).length < (joined fields).length := by
      rw [List.length_append]
      omega
    have ends : rest.length = (joined fields ++ rest).length - (joined fields).length := by
      rw [List.length_append, Nat.add_sub_cancel_left]
    have read := (merge_eq_ok_iff framed ends).mpr ⟨fields, rfl, merges⟩
    rw [mergeDelimited, if_neg (Nat.ne_of_gt someLevel), numeral.read]
    simp only [if_neg enough, read]
    rw [if_pos ends]

theorem mergeDelimited_framed (levels : Nat) (old : μ) :
    Wire.Framed .lengthDelimited (format.mergeDelimited levels old) := by
  intro new input rest
  rw [mergeDelimited_eq_ok_iff framed]
  constructor
  · rintro ⟨someLevel, count, fields, rfl, numeral, merges⟩
    refine ⟨count ++ joined fields, (List.append_assoc _ _ _).symm, .lengthDelimited numeral, ?_⟩
    refine (mergeDelimited_eq_ok_iff framed).mpr ⟨someLevel, count, fields, ?_, numeral, merges⟩
    rw [List.append_nil]
  · rintro ⟨used, rfl, -, alone⟩
    obtain ⟨someLevel, count, fields, rfl, numeral, merges⟩ :=
      (mergeDelimited_eq_ok_iff framed).mp alone
    refine ⟨someLevel, count, fields, ?_, numeral, merges⟩
    rw [List.append_nil, List.append_assoc]

omit framed in
theorem merge_optional_eq_ok_iff {old new : Option μ} {input rest : Bytes} :
    format.optional.merge levels old input = .ok (new, rest)
      ↔ ∃ value, format.mergeDelimited levels (old.getD format.empty) input = .ok (value, rest)
        ∧ some value = new :=
  changed_eq_ok_iff

omit framed in
theorem merge_repeated_eq_ok_iff {old new : List μ} {input rest : Bytes} :
    format.repeated.merge levels old input = .ok (new, rest)
      ↔ ∃ value, format.mergeDelimited levels format.empty input = .ok (value, rest)
        ∧ old ++ [value] = new :=
  changed_eq_ok_iff

theorem Framed.optional : format.optional.Framed :=
  fun levels old =>
    (mergeDelimited_framed framed levels (old.getD format.empty)).map merge_optional_eq_ok_iff

theorem Framed.repeated : format.repeated.Framed :=
  fun levels _ =>
    (mergeDelimited_framed framed levels format.empty).map merge_repeated_eq_ok_iff

end

end Format

end JobHooks.Wire

namespace JobHooks

open Wire

/-! ## The messages of the plugin daemon -/

theorem Stamp.format_framed (name : String) : (Stamp.format name).Framed := by
  simp only [Format.Framed, format, List.forall_mem_cons]
  exact ⟨Codec.number_framed.field, Codec.number_framed.field, List.forall_mem_nil _⟩

theorem JobInfo.format_framed : JobInfo.format.Framed := by
  have number : Codec.uint32.Framed := Codec.number_framed
  have text : Codec.text.Framed := Codec.text_framed
  have status : Codec.int32.Framed := Codec.number_framed
  have point : Stamp.pointFormat.optional.Framed := (Stamp.format_framed _).optional
  have span : Stamp.spanFormat.optional.Framed := (Stamp.format_framed _).optional
  simp only [Format.Framed, format, List.forall_mem_cons]
  exact ⟨number.field, text.field, text.field, text.field, text.field, number.field, text.field,
    status.field, number.field, point.field, point.field, point.field, span.field, span.field,
    List.forall_mem_nil _⟩

theorem JobInfo.listFormat_framed (name : String) : (JobInfo.listFormat name).Framed := by
  simp only [Format.Framed, listFormat, List.forall_mem_cons]
  exact ⟨JobInfo.format_framed.repeated.field, List.forall_mem_nil _⟩

theorem MonitorTarget.format_framed : MonitorTarget.format.Framed := by
  simp only [Format.Framed, format, List.forall_mem_cons]
  exact ⟨Codec.number_framed.field, Codec.text_framed.field, List.forall_mem_nil _⟩

theorem Reply.format_framed (name : String) : (Reply.format name).Framed :=
  List.forall_mem_nil _

end JobHooks
