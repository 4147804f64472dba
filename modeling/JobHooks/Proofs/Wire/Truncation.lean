import JobHooks.Proofs.Wire.RoundTrip

/-!
# Messages cut short

What is written of a message is a list of fields (`Format.written`), and a beginning of its bytes
ends either between two of them or inside one.  Between two fields the beginning is itself the
message of which the fields behind it are at their defaults, `MessageType.cut`.  Inside a field it
is not a message at all: the key is not whole, or it is the key of that field, and then what is
there of the payload cannot be read, as bytes begin with one content of a wire type at most
(`Plain.append_inj`, `Format.resume_of_cut`).

`MessageType.truncation_detected` says both.  A message that was cut short is thus either refused,
or it is one that could have been sent in its place.
-/

namespace JobHooks.Wire

set_option autoImplicit false

/-! ## Beginnings of fields -/

/-- A beginning of fields ends between two of them or inside one. -/
theorem prefix_joined {fields : List RawField} {start : Bytes} (begins : start <+: joined fields) :
    (∃ count, start = joined (fields.take count))
      ∨ ∃ count, ∃ field ∈ fields, ∃ part missing, start = joined (fields.take count) ++ part
        ∧ part ≠ [] ∧ missing ≠ [] ∧ field.bytes = part ++ missing := by
  induction fields generalizing start with
  | nil =>
    rw [joined_nil, List.prefix_nil] at begins
    exact .inl ⟨0, begins⟩
  | cons field fields ih =>
    obtain ⟨behind, split⟩ := begins
    have whole : start ++ behind = field.bytes ++ joined fields := split
    -- The beginning ends inside the first field, or goes on with a beginning of the others.
    rcases List.append_eq_append_iff.mp whole with ⟨missing, inside, -⟩ | ⟨more, rfl, later⟩
    · by_cases nothing : start = []
      · exact .inl ⟨0, nothing⟩
      · by_cases all : missing = []
        · refine .inl ⟨1, ?_⟩
          rw [all, List.append_nil] at inside
          exact inside.symm.trans (List.append_nil _).symm
        · exact .inr ⟨0, field, List.mem_cons_self, start, missing, rfl, nothing, all, inside⟩
    · rcases ih ⟨behind, later.symm⟩ with ⟨count, rfl⟩ |
          ⟨count, other, member, part, missing, rfl, begun, cut⟩
      · exact .inl ⟨count + 1, rfl⟩
      · refine .inr ⟨count + 1, other, List.mem_cons_of_mem _ member, part, missing, ?_, begun, cut⟩
        exact (List.append_assoc _ _ _).symm

/-! ## The fields that are written -/

namespace Field

variable {μ : Type}

/-- What is written for a field, once for each payload. -/
def written (field : Field μ) (message : μ) : List RawField :=
  (field.payloads message).map fun payload => ⟨field.key.encode, field.key, payload⟩

theorem joined_written (field : Field μ) (message : μ) :
    joined (field.written message) = field.encode message :=
  List.flatMap_map _ _ _

theorem number_of_mem_written {field : Field μ} {message : μ} {found : RawField}
    (member : found ∈ field.written message) : found.key.field = field.number := by
  obtain ⟨payload, -, rfl⟩ := List.mem_map.mp member
  rfl

/-- A field of which a message holds one payload at most, and which another message holds unless its
number is one of those left out. -/
structure Clears (field : Field μ) (numbers : List Nat) (message shortened : μ) : Prop where
  single : (field.payloads message).length ≤ 1
  payloads_eq : field.payloads shortened
    = if field.number ∈ numbers then [] else field.payloads message

theorem Clears.written_eq {field : Field μ} {numbers : List Nat} {message shortened : μ}
    (clears : field.Clears numbers message shortened) :
    field.written shortened
      = (field.written message).filter fun found => found.key.field ∉ numbers := by
  by_cases out : field.number ∈ numbers
  · have empty : field.written shortened = [] := by
      rw [written, clears.payloads_eq, if_pos out, List.map_nil]
    rw [empty, eq_comm, List.filter_eq_nil_iff]
    intro found member
    rw [number_of_mem_written member]
    exact fun kept => of_decide_eq_true kept out
  · have same : field.written shortened = field.written message := by
      rw [written, clears.payloads_eq, if_neg out, written]
    rw [same, eq_comm, List.filter_eq_self]
    intro found member
    rw [number_of_mem_written member]
    exact decide_eq_true out

end Field

/-- A codec that writes nothing for the absent value and one payload at most for any other. -/
structure Codec.Singular {β : Type} (codec : Codec β) : Prop where
  absent : codec.payloads codec.absent = []
  single : ∀ value, (codec.payloads value).length ≤ 1

namespace Codec

variable {β μ : Type}

theorem number_singular [DecidableEq β] {zero : β} {toWire : β → Nat} {ofWire : Nat → β} :
    (number zero toWire ofWire).Singular where
  absent := if_pos rfl
  single := by
    intro value
    simp only [number]
    split
    · exact Nat.zero_le 1
    · exact Nat.le_refl 1

theorem text_singular : text.Singular where
  absent := by simp only [text, if_true]
  single := by
    intro value
    simp only [text]
    split
    · exact Nat.zero_le 1
    · exact Nat.le_refl 1

/-- A field is left out by putting the absent value in its place. -/
theorem Singular.clears {codec : Codec β} (singular : codec.Singular) {number : Nat} {name : String}
    {get : μ → β} {set : μ → β → μ} {numbers : List Nat} {message shortened : μ}
    (part : get shortened = if number ∈ numbers then codec.absent else get message) :
    (codec.field number name get set).Clears numbers message shortened where
  single := singular.single (get message)
  payloads_eq := by
    show codec.payloads (get shortened) = _
    rw [part, apply_ite codec.payloads, singular.absent]
    rfl

end Codec

theorem Format.optional_singular {β : Type} {format : Format β} :
    format.optional.Singular where
  absent := rfl
  single := by
    intro value
    cases value with
    | none => exact Nat.zero_le 1
    | some => exact Nat.le_refl 1

namespace Format

variable {μ : Type} {format : Format μ}

/-- What is written of a message, field by field. -/
def written (format : Format μ) (message : μ) : List RawField :=
  format.fields.flatMap fun field => field.written message

theorem joined_written (format : Format μ) (message : μ) :
    joined (format.written message) = format.encode message := by
  rw [joined, written, List.flatMap_assoc, encode]
  exact congrArg (List.flatMap · format.fields) (funext fun field => field.joined_written message)

/-- The numbers of the fields that are written behind the first few. -/
def numbersBehind (format : Format μ) (count : Nat) (message : μ) : List Nat :=
  ((format.written message).drop count).map (·.key.field)

/-- Each number is written once when no field has more than one payload. -/
theorem nodup_numbers (numbered : format.Numbered) {message : μ}
    (single : ∀ field ∈ format.fields, (field.payloads message).length ≤ 1) :
    ((format.written message).map (·.key.field)).Nodup := by
  have inOrder : ((format.written message).map (·.key.field)).Sublist
      (format.fields.map Field.number) := by
    rw [written]
    generalize format.fields = fields at single
    induction fields with
    | nil => exact List.Sublist.refl []
    | cons field fields ih =>
      have one : ((field.written message).map (·.key.field)).Sublist [field.number] := by
        have short := single field List.mem_cons_self
        rw [Field.written, List.map_map]
        match payloads : field.payloads message with
        | [] => exact List.nil_sublist _
        | [payload] => exact List.Sublist.refl _
        | _ :: _ :: _ =>
          rw [payloads, List.length_cons, List.length_cons] at short
          omega
      rw [List.flatMap_cons, List.map_append, List.map_cons]
      exact one.append (ih fun other member => single other (List.mem_cons_of_mem _ member))
  exact numbered.distinct.sublist inOrder

/-- Of the fields that are written, leaving out those behind the first few leaves these. -/
theorem written_of_clears (numbered : format.Numbered) {count : Nat} {message shortened : μ}
    (clears : ∀ field ∈ format.fields,
      field.Clears (format.numbersBehind count message) message shortened) :
    format.written shortened = (format.written message).take count := by
  have filtered : format.written shortened = (format.written message).filter
      fun found => found.key.field ∉ format.numbersBehind count message := by
    rw [written, written, List.filter_flatMap]
    exact List.flatMap_congr fun field member => (clears field member).written_eq
  have distinct := nodup_numbers numbered fun field member => (clears field member).single
  have apart := List.disjoint_take_drop distinct (Nat.le_refl count)
  rw [← List.map_take, ← List.map_drop] at apart
  have kept : ((format.written message).take count).filter
      (fun found => found.key.field ∉ format.numbersBehind count message)
        = (format.written message).take count := by
    rw [List.filter_eq_self]
    intro found member
    exact decide_eq_true (apart (List.mem_map_of_mem member))
  have dropped : ((format.written message).drop count).filter
      (fun found => found.key.field ∉ format.numbersBehind count message) = [] := by
    rw [List.filter_eq_nil_iff]
    intro found member out
    exact of_decide_eq_true out (List.mem_map_of_mem member)
  rw [filtered, ← List.take_append_drop count (format.written message), List.filter_append,
    List.take_append_drop, kept, dropped, List.append_nil]

/-! ## Fields that are not whole -/

/-- Each payload that reads back is one that could be skipped. -/
theorem Rebuilds.plain {depth : Nat} {message soFar : μ} {fields : List (Field μ)}
    (rebuilds : Rebuilds depth message fields soFar) (framed : ∀ field ∈ fields, field.Framed)
    (fits : ∀ field ∈ fields, ∀ payload ∈ field.payloads message, Varint.Fits payload.length) :
    ∀ field ∈ fields, ∀ payload ∈ field.payloads message, Plain field.wireType payload := by
  induction rebuilds with
  | done => exact List.forall_mem_nil _
  | @field β codec number name get set fields soFar lawful part absent later ih =>
    obtain ⟨hereFramed, laterFramed⟩ := List.forall_mem_cons.mp framed
    obtain ⟨hereFits, laterFits⟩ := List.forall_mem_cons.mp fits
    refine List.forall_mem_cons.mpr ⟨?_, ih laterFramed laterFits⟩
    intro payload member
    have restores : codec.Restores depth (codec.payloads (get message)) codec.absent
        (get message) := lawful.restores (Nat.le_refl depth) hereFits
    obtain ⟨old, new, step⟩ := restores.exists_merge member
    rw [← part.get_set soFar old] at step
    have alone : (codec.field number name get set).merge depth (set soFar old) payload
        = .ok (set (set soFar old) new, []) := Codec.merge_field_eq_ok_iff.mpr ⟨new, step, rfl⟩
    obtain ⟨used, split, plain, -⟩ := (hereFramed _ _ _ _ _).mp alone
    rw [List.append_nil] at split
    exact split ▸ plain

/-- A field of which something is there, and something is missing, cannot be read into any
message. -/
theorem resume_of_cut (framed : format.Framed) (numbered : format.Numbered) {field : Field μ}
    (member : field ∈ format.fields) {payload : Bytes} (plain : Plain field.wireType payload)
    {part missing : Bytes} (begun : part ≠ []) (short : missing ≠ [])
    (cut : field.key.encode ++ payload = part ++ missing) (message : μ) :
    ∃ fault, format.resume message part = .error fault := by
  cases read : format.resume message part with
  | error fault => exact ⟨fault, rfl⟩
  | ok result =>
    exfalso
    obtain ⟨fields, rfl, merges⟩ := (resume_eq_ok_iff framed).mp read
    cases merges with
    | nil => exact begun rfl
    | @cons _ middle _ found fields spells merged later =>
      have valid : Key.Valid field.key.field := numbered.valid _ (List.mem_map_of_mem member)
      have announced := readKey_encode valid payload
      rw [cut, joined_cons, List.append_assoc, List.append_assoc, spells.read] at announced
      obtain ⟨same, rfl⟩ := Prod.mk.inj (Except.ok.inj announced)
      -- What was read behind the key is a content of the field's own wire type.
      have known : format.field? found.key.field = some field := by
        rw [same]
        exact numbered.field?_eq member
      obtain ⟨-, payloadRead⟩ := (mergeField_of_known known).mp merged
      obtain ⟨used, split, shorter, -⟩ := (framed field member _ _ _ _ _).mp payloadRead
      rw [List.append_nil] at split
      have whole : found.body ++ (joined fields ++ missing)
          = (found.body ++ (joined fields ++ missing)) ++ [] := (List.append_nil _).symm
      have nothing := ((split ▸ shorter).append_inj plain whole).2
      exact short (List.append_eq_nil_iff.mp nothing).2

end Format

end JobHooks.Wire

namespace JobHooks

open Wire

/-! ## The messages of the plugin daemon -/

/-- A job of which the fields with some numbers are at their defaults. -/
def JobInfo.without (job : JobInfo) (numbers : List Nat) : JobInfo where
  id := if 1 ∈ numbers then 0 else job.id
  name := if 2 ∈ numbers then "" else job.name
  partition := if 3 ∈ numbers then "" else job.partition
  account := if 4 ∈ numbers then "" else job.account
  username := if 5 ∈ numbers then "" else job.username
  uid := if 6 ∈ numbers then 0 else job.uid
  nodeList := if 7 ∈ numbers then "" else job.nodeList
  status := if 8 ∈ numbers then 0 else job.status
  exitCode := if 9 ∈ numbers then 0 else job.exitCode
  submitTime := if 10 ∈ numbers then none else job.submitTime
  startTime := if 11 ∈ numbers then none else job.startTime
  endTime := if 12 ∈ numbers then none else job.endTime
  timeLimit := if 13 ∈ numbers then none else job.timeLimit
  elapsedTime := if 14 ∈ numbers then none else job.elapsedTime

theorem JobInfo.clears_without (job : JobInfo) (numbers : List Nat) :
    ∀ field ∈ JobInfo.format.fields, field.Clears numbers job (job.without numbers) := by
  have number : Codec.uint32.Singular := Codec.number_singular
  have text : Codec.text.Singular := Codec.text_singular
  have status : Codec.int32.Singular := Codec.number_singular
  have point : Stamp.pointFormat.optional.Singular := Format.optional_singular
  have span : Stamp.spanFormat.optional.Singular := Format.optional_singular
  simp only [format, List.forall_mem_cons]
  exact ⟨number.clears rfl, text.clears rfl, text.clears rfl, text.clears rfl, text.clears rfl,
    number.clears rfl, text.clears rfl, status.clears rfl, number.clears rfl, point.clears rfl,
    point.clears rfl, point.clears rfl, span.clears rfl, span.clears rfl, List.forall_mem_nil _⟩

/-- A target of which the fields with some numbers are at their defaults. -/
def MonitorTarget.without (target : MonitorTarget) (numbers : List Nat) : MonitorTarget where
  jobId := if 1 ∈ numbers then 0 else target.jobId
  cgroup := if 2 ∈ numbers then "" else target.cgroup

theorem MonitorTarget.clears_without (target : MonitorTarget) (numbers : List Nat) :
    ∀ field ∈ MonitorTarget.format.fields,
      field.Clears numbers target (target.without numbers) := by
  have number : Codec.uint32.Singular := Codec.number_singular
  have text : Codec.text.Singular := Codec.text_singular
  simp only [format, List.forall_mem_cons]
  exact ⟨number.clears rfl, text.clears rfl, List.forall_mem_nil _⟩

theorem JobInfo.written_take (name : String) (count : Nat) (jobs : List JobInfo) :
    (listFormat name).written (jobs.take count)
      = ((listFormat name).written jobs).take count := by
  simp only [Format.written, Field.written, listFormat, Codec.field, Format.repeated,
    List.flatMap_singleton, List.map_take]

namespace MessageType

/-- What a message says that ends behind the first few of the fields that are written of another
one: fields behind them are at their defaults, and entries behind them are missing. -/
def cut : (type : MessageType) → Nat → type.Value → type.Value
  | job => fun count (job : JobInfo) => job.without (JobInfo.format.numbersBehind count job)
  | start | finish => fun count (jobs : List JobInfo) => jobs.take count
  | monitor => fun count (target : MonitorTarget) =>
    target.without (MonitorTarget.format.numbersBehind count target)
  | reply _ => fun _ reply => reply

theorem written_cut (type : MessageType) (count : Nat) (message : type.Value) :
    type.format.written (type.cut count message)
      = (type.format.written message).take count := by
  cases type with
  | job =>
    exact Format.written_of_clears JobInfo.format_numbered (JobInfo.clears_without _ _)
  | start | finish => exact JobInfo.written_take _ count message
  | monitor =>
    exact Format.written_of_clears MonitorTarget.format_numbered
      (MonitorTarget.clears_without _ _)
  | reply hookType => exact List.take_nil.symm

/-- A beginning that ends between two fields is what is written of the message that ends there. -/
theorem decode_take (type : MessageType) {message : type.Value}
    (fits : Varint.Fits (type.format.size message)) (count : Nat) :
    type.format.decode (joined ((type.format.written message).take count))
      = .ok (type.cut count message) := by
  obtain ⟨depth, deep, lawful⟩ := type.format_lawful
  have whole : joined ((type.format.written message).take count)
      = type.format.encode (type.cut count message) := by
    rw [← type.written_cut, Format.joined_written]
  have shorter : type.format.size (type.cut count message) ≤ type.format.size message := by
    rw [← lawful.length_encode, ← lawful.length_encode, ← whole, ← Format.joined_written]
    conv_rhs => rw [← List.take_append_drop count (type.format.written message)]
    rw [joined_append, List.length_append]
    exact Nat.le_add_right _ _
  rw [whole]
  exact lawful.decode_encode deep (fits.of_le shorter)

/-- **A message that was cut short is noticed**, unless it ends between two fields.  A beginning of
the bytes of a message that ends behind some of its fields, or before all of them, is the message
with the fields behind the cut at their defaults, and with the entries of a list behind the cut
missing.  Any other beginning is refused. -/
theorem truncation_detected (type : MessageType) (message : type.Value)
    (fits : Varint.Fits (type.format.size message)) {start : Bytes}
    (begins : start <+: type.format.encode message) :
    (∀ count, start = joined ((type.format.written message).take count) →
        type.format.decode start = .ok (type.cut count message))
      ∧ ((∀ count, start ≠ joined ((type.format.written message).take count)) →
        ∃ fault, type.format.decode start = .error fault) := by
  refine ⟨fun count ends => ends ▸ type.decode_take fits count, fun inside => ?_⟩
  rw [← Format.joined_written] at begins
  rcases prefix_joined begins with ⟨count, ends⟩ |
    ⟨count, found, member, part, missing, rfl, begun, short, cut⟩
  · exact absurd ends (inside count)
  · obtain ⟨depth, deep, rebuilds⟩ := type.format_rebuilds
    obtain ⟨field, known, inField⟩ := List.mem_flatMap.mp member
    obtain ⟨payload, payloadWritten, rfl⟩ := List.mem_map.mp inField
    have plain : Plain field.wireType payload := by
      rw [← type.length_encode] at fits
      refine (rebuilds message).plain type.format_framed ?_ field known payload payloadWritten
      exact fun other otherKnown longer otherWritten =>
        fits.of_le (Format.length_payload_le otherKnown otherWritten)
    rw [Format.decode_append type.format_framed (type.decode_take fits count)]
    exact Format.resume_of_cut type.format_framed type.format_numbered known plain begun short cut _

/-- Of two jobs the second is cut off before its time, where what is there of it looks like a
job. -/
theorem truncation_detected_start :
    let jobs : List JobInfo := [{ id := 7 }, { id := 300, endTime := some ⟨0, 5⟩ }]
    JobInfo.startFormat.encode jobs
        = [0x0a, 0x02, 0x08, 0x07, 0x0a, 0x07, 0x08, 0xac, 0x02, 0x62, 0x02, 0x10, 0x05]
      ∧ JobInfo.startFormat.decode [0x0a, 0x02, 0x08, 0x07] = .ok [{ id := 7 }]
      ∧ ∃ fault, JobInfo.startFormat.decode [0x0a, 0x02, 0x08, 0x07, 0x0a, 0x07, 0x08, 0xac, 0x02]
        = .error fault := by
  intro jobs
  have fits : Varint.Fits (MessageType.start.format.size jobs) := by decide
  have bytes : MessageType.start.format.encode jobs
      = [0x0a, 0x02, 0x08, 0x07, 0x0a, 0x07, 0x08, 0xac, 0x02, 0x62, 0x02, 0x10, 0x05] := by cbv
  have first : joined ((MessageType.start.format.written jobs).take 1)
      = [0x0a, 0x02, 0x08, 0x07] := by cbv
  refine ⟨bytes, ?_, ?_⟩
  · have begins : [0x0a, 0x02, 0x08, 0x07] <+: MessageType.start.format.encode jobs := by
      rw [bytes]
      decide
    exact (truncation_detected .start jobs fits begins).1 1 first.symm
  · have begins : [0x0a, 0x02, 0x08, 0x07, 0x0a, 0x07, 0x08, 0xac, 0x02]
        <+: MessageType.start.format.encode jobs := by
      rw [bytes]
      decide
    refine (truncation_detected .start jobs fits begins).2 fun count => ?_
    rcases count with _ | _ | count
    · exact List.cons_ne_nil _ _
    · rw [first]
      decide
    · have all : (MessageType.start.format.written jobs).length ≤ count + 1 + 1 :=
        Nat.le_add_left 2 count
      have whole := (MessageType.start.format.joined_written jobs).trans bytes
      rw [List.take_of_length_le all]
      exact fun same => absurd (same.trans whole) (by decide)

end MessageType

end JobHooks
