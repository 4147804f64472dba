import JobHooks.Proofs.Wire.RoundTrip

/-!
# Messages one after the other

The bytes of two messages, one behind the other, are a message again.  What it holds depends on the
kind of each field: of two numbers or texts the later one counts, unless it is the default and so is
not written; a time that comes twice is united number by number; lists are put together.
`JobInfo.unite` and `MonitorTarget.unite` say this field by field, and
`MessageType.concatenation_unites` that decoding agrees.  The first part may be any bytes that can
be decoded, in whatever order and form.

A field whose number means nothing to a type of message may stand between two parts and changes
nothing (`MessageType.unknown_field_skipped`).  So a daemon that knows further fields can talk to a
worker that does not.
-/

namespace JobHooks

set_option autoImplicit false

open Wire

/-! ## Uniting messages -/

namespace Wire.Format

variable {μ : Type} {format : Format μ} {depth : Nat}

/-- A format unites messages as applying the fields of the second one to the first one does. -/
theorem unites_of_applies {unite : μ → μ → μ} (numbered : format.Numbered)
    (applies : ∀ old new, Applies depth new format.fields old (unite old new)) :
    format.Unites unite depth where
  merge_encode := fun {_ old new} deep fits rest =>
    merge_encode numbered (applies old new) deep fits rest

/-- The bytes of a message, behind bytes that are a message, unite the one with the other. -/
theorem Unites.decode_append {unite : μ → μ → μ} (unites : format.Unites unite depth)
    (deep : depth ≤ maxLevels) (framed : format.Framed) {bytes : Bytes} {old new : μ}
    (read : format.decode bytes = .ok old) (fits : Varint.Fits (format.encode new).length) :
    format.decode (bytes ++ format.encode new) = .ok (unite old new) := by
  have united : format.merge maxLevels 0 old (format.encode new ++ []) = .ok (unite old new, []) :=
    unites.merge_encode deep fits []
  rw [List.append_nil] at united
  rw [Format.decode_append framed read, resume, united]

end Wire.Format

namespace Stamp

/-- A time with a later one read into it. -/
def unite (old new : Stamp) : Stamp where
  seconds := Codec.latest 0 old.seconds new.seconds
  nanos := Codec.latest 0 old.nanos new.nanos

/-- A time that may be absent, with a later one read into it: a later one that is absent changes
nothing, and one that is there is read into zero if there was none before. -/
def unite? (old new : Option Stamp) : Option Stamp :=
  match new with
  | none => old
  | some new => some ((old.getD ⟨0, 0⟩).unite new)

theorem format_unites (name : String) (depth : Nat) : (Stamp.format name).Unites unite depth := by
  refine Format.unites_of_applies (format_numbered name) fun old new => ?_
  exact .united (Codec.int64_unites depth) {} <| .united (Codec.int32_unites depth) {} (.done _)

theorem optional_unites (name : String) : (Stamp.format name).optional.Unites unite? 1 := by
  have same : (Stamp.format name).uniteOptional unite = unite? := by
    funext old new
    cases new <;> rfl
  exact same ▸ (format_unites name 0).optional

end Stamp

namespace JobInfo

/-- A job with a later one read into it. -/
def unite (old new : JobInfo) : JobInfo where
  id := Codec.latest 0 old.id new.id
  name := Codec.latest "" old.name new.name
  partition := Codec.latest "" old.partition new.partition
  account := Codec.latest "" old.account new.account
  username := Codec.latest "" old.username new.username
  uid := Codec.latest 0 old.uid new.uid
  nodeList := Codec.latest "" old.nodeList new.nodeList
  status := Codec.latest 0 old.status new.status
  exitCode := Codec.latest 0 old.exitCode new.exitCode
  submitTime := Stamp.unite? old.submitTime new.submitTime
  startTime := Stamp.unite? old.startTime new.startTime
  endTime := Stamp.unite? old.endTime new.endTime
  timeLimit := Stamp.unite? old.timeLimit new.timeLimit
  elapsedTime := Stamp.unite? old.elapsedTime new.elapsedTime

theorem format_unites : JobInfo.format.Unites unite 1 := by
  refine Format.unites_of_applies format_numbered fun old new => ?_
  have number := Codec.uint32_unites 1
  have text := Codec.text_unites 1
  have point : Stamp.pointFormat.optional.Unites Stamp.unite? 1 := Stamp.optional_unites _
  have span : Stamp.spanFormat.optional.Unites Stamp.unite? 1 := Stamp.optional_unites _
  exact .united number {} <| .united text {} <| .united text {} <| .united text {} <|
    .united text {} <| .united number {} <| .united text {} <|
    .united (Codec.int32_unites 1) {} <| .united number {} <| .united point {} <|
    .united point {} <| .united point {} <| .united span {} <| .united span {} (.done _)

theorem listFormat_unites (name : String) : (listFormat name).Unites (· ++ ·) 2 := by
  refine Format.unites_of_applies (listFormat_numbered name) fun old new => ?_
  exact .united format_lawful.repeated_unites {} (.done _)

end JobInfo

namespace MonitorTarget

/-- A target with a later one read into it. -/
def unite (old new : MonitorTarget) : MonitorTarget where
  jobId := Codec.latest 0 old.jobId new.jobId
  cgroup := Codec.latest "" old.cgroup new.cgroup

theorem format_unites : MonitorTarget.format.Unites unite 0 := by
  refine Format.unites_of_applies format_numbered fun old new => ?_
  exact .united (Codec.uint32_unites 0) {} <| .united (Codec.text_unites 0) {} (.done _)

end MonitorTarget

namespace MessageType

/-- A message with a later one of its type read into it. -/
def unite : (type : MessageType) → type.Value → type.Value → type.Value
  | job => JobInfo.unite
  | start | finish => fun old new : List JobInfo => old ++ new
  | monitor => MonitorTarget.unite
  | reply _ => fun old _ => old

theorem format_unites (type : MessageType) :
    ∃ depth ≤ Format.maxLevels, type.format.Unites type.unite depth := by
  cases type with
  | job => exact ⟨1, by decide, JobInfo.format_unites⟩
  | start | finish => exact ⟨2, by decide, JobInfo.listFormat_unites _⟩
  | monitor => exact ⟨0, by decide, MonitorTarget.format_unites⟩
  | reply hookType =>
    exact ⟨0, by decide, Format.unites_of_applies (Reply.format_numbered _) fun old _ => .done old⟩

/-- **Bytes one behind the other are messages united.**  Behind any bytes that can be decoded, the
bytes of a second message of the same type decode together with them, and what comes out is the
first message with the second one read into it: lists one behind the other, of two numbers or texts
the second unless it is the default, of two times each number in this way, and where only one of the
times is there, that one. -/
theorem concatenation_unites (type : MessageType) {bytes : Bytes} {older newer : type.Value}
    (read : type.format.decode bytes = .ok older)
    (fits : Varint.Fits (type.format.size newer)) :
    type.format.decode (bytes ++ type.format.encode newer) = .ok (type.unite older newer) := by
  obtain ⟨depth, deep, unites⟩ := type.format_unites
  rw [← type.length_encode] at fits
  exact unites.decode_append deep type.format_framed read fits

/-- A job with a user of zero and a number in two bytes where one would do, and behind it a start
that has only a fraction, and a start that has only seconds. -/
theorem concatenation_unites_start :
    let first : Bytes := [0x30, 0x00, 0x08, 0x87, 0x00]
    let second : JobInfo := { name := "é", startTime := some ⟨0, 5⟩ }
    let third : JobInfo := { uid := 4, startTime := some ⟨-1, 0⟩, endTime := some ⟨0, 0⟩ }
    let united : JobInfo :=
      { id := 7, name := "é", uid := 4, startTime := some ⟨-1, 5⟩, endTime := some ⟨0, 0⟩ }
    JobInfo.format.decode (first ++ JobInfo.format.encode second ++ JobInfo.format.encode third)
      = .ok united := by
  intro first second third united
  have read : MessageType.job.format.decode first = .ok ({ id := 7 } : JobInfo) := by
    refine (Format.decode_eq_ok_iff JobInfo.format_framed).mpr
      ⟨[⟨[0x30], ⟨6, .varint⟩, [0x00]⟩, ⟨[0x08], ⟨1, .varint⟩, [0x87, 0x00]⟩], rfl, ?_⟩
    exact .cons (.of_read rfl) rfl (.cons (.of_read rfl) rfl (.nil _))
  have secondFits : Varint.Fits (MessageType.job.format.size second) := by decide
  have thirdFits : Varint.Fits (MessageType.job.format.size third) := by decide
  exact concatenation_unites .job (concatenation_unites .job read secondFits) thirdFits

/-! ## Fields without a meaning -/

/-- **A field without a meaning changes nothing**, wherever it stands between two parts of which the
first can be decoded, in whatever form its key and its content are written, and however groups nest
in it, as long as there are levels for all of them. -/
theorem unknown_field_skipped (type : MessageType) {first : Bytes} {message : type.Value}
    (read : type.format.decode first = .ok message) {field : RawField}
    (unknown : field.key.field ∉ type.format.fields.map Field.number)
    (wellFormed : field.WellFormed Format.maxLevels) (second : Bytes) :
    type.format.decode (first ++ field.bytes ++ second) = type.format.decode (first ++ second) := by
  have framed := type.format_framed
  have none : type.format.field? field.key.field = none := by
    refine List.find?_eq_none.mpr fun known member same => unknown ?_
    exact List.mem_map.mpr ⟨known, member, beq_iff_eq.mp same⟩
  have skipped : type.format.Merges Format.maxLevels message [field] message := by
    refine .cons wellFormed.key ((Format.mergeField_of_unknown none).mpr ⟨rfl, ?_⟩) (.nil message)
    exact skipField_eq_ok_iff.mpr ⟨field.body, (List.append_nil _).symm, wellFormed.content⟩
  have alone : joined [field] = field.bytes := List.append_nil _
  rw [List.append_assoc, Format.decode_append framed read, Format.decode_append framed read,
    ← alone, Format.resume_joined framed skipped]

/-- Behind a job list there is a group with the largest number that a field can have, and in it a
number with zeros at its end and a group that holds nothing. -/
theorem unknown_field_skipped_group :
    let jobs : List JobInfo := [{ id := 7 }]
    let group : Bytes := [0xfb, 0xff, 0xff, 0xff, 0x0f, 0x08, 0x80, 0x80, 0x00, 0x13, 0x14,
      0xfc, 0xff, 0xff, 0xff, 0x0f]
    JobInfo.startFormat.decode (JobInfo.startFormat.encode jobs ++ group
        ++ JobInfo.startFormat.encode jobs)
      = .ok (jobs ++ jobs) := by
  intro jobs group
  have lawful : JobInfo.startFormat.Lawful 2 := JobInfo.listFormat_lawful _
  have unites : JobInfo.startFormat.Unites (· ++ ·) 2 := JobInfo.listFormat_unites _
  have fits : Varint.Fits (JobInfo.startFormat.size jobs) := by decide
  have read : MessageType.start.format.decode (JobInfo.startFormat.encode jobs) = .ok jobs :=
    lawful.decode_encode (by decide) fits
  let inner : List RawField :=
    [⟨[0x08], ⟨1, .varint⟩, [0x80, 0x80, 0x00]⟩, ⟨[0x13], ⟨2, .startGroup⟩, joined [] ++ [0x14]⟩]
  let field : RawField := ⟨[0xfb, 0xff, 0xff, 0xff, 0x0f], ⟨0x1fffffff, .startGroup⟩,
    joined inner ++ [0xfc, 0xff, 0xff, 0xff, 0x0f]⟩
  have wellFormed : field.WellFormed Format.maxLevels := by
    refine ⟨.of_read (by cbv), .group ?_ ?_ (.of_read (by cbv))⟩
    · exact List.forall_mem_cons.mpr ⟨.of_read rfl, List.forall_mem_singleton.mpr (.of_read rfl)⟩
    · refine List.forall_mem_cons.mpr ⟨.plain (.varint (.of_read rfl)), ?_⟩
      refine List.forall_mem_singleton.mpr (.group ?_ ?_ (.of_read rfl))
      · exact List.forall_mem_nil _
      · exact List.forall_mem_nil _
  rw [← lawful.length_encode] at fits
  have skipped : JobInfo.startFormat.decode (JobInfo.startFormat.encode jobs ++ group
      ++ JobInfo.startFormat.encode jobs) = _ :=
    unknown_field_skipped .start read (by decide) wellFormed (JobInfo.startFormat.encode jobs)
  exact skipped.trans
    (unites.decode_append (by decide) (JobInfo.listFormat_framed _) read fits)

end MessageType

end JobHooks
