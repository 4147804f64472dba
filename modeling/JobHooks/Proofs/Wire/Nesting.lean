import JobHooks.Proofs.Wire.RoundTrip

/-!
# Messages inside others, read alone

A message inside another is read from all the bytes of the outer one, and only behind each of its
fields it is asked whether the announced length is reached.  A field of it may thus run into the
bytes of its neighbour before it is refused.  What is read in the end is nevertheless what would be
read of the bytes of the message alone (`Format.mergeDelimited_whole_eq_ok_iff`), but with one level
less for the groups in it.

Levels matter only to groups of numbers without a meaning.  Where these are not nested too deep
(`Format.GroupsWithin`), fields make the same message whatever number of levels is left
(`Format.Merges.relevel`), and so an entry of a list, or a time in a job, is read as if it stood
alone (`JobInfo.nested_read_alone`).
-/

namespace JobHooks.Wire

set_option autoImplicit false

/-! ## Bytes behind their number -/

/-- Bytes behind their number, as the payload of a field. -/
def counted (content : Bytes) : Bytes := Varint.encode content.length ++ content

/-- A field that holds bytes behind their number. -/
def entry (number : Nat) (content : Bytes) : Bytes :=
  (Key.mk number .lengthDelimited).encode ++ counted content

theorem plain_counted {content : Bytes} (fits : Varint.Fits content.length) :
    Plain .lengthDelimited (counted content) :=
  .lengthDelimited (Varint.numeral_encode fits)

namespace Format

variable {μ : Type} {format : Format μ} {levels more depth : Nat}

/-- All bytes behind their number are a message inside another just when they are fields that make
it, with one level less. -/
theorem mergeDelimited_whole_eq_ok_iff (framed : format.Framed) {old new : μ}
    {count content : Bytes} (numeral : Varint.Numeral count content.length) :
    format.mergeDelimited levels old (count ++ content) = .ok (new, [])
      ↔ 0 < levels ∧ ∃ fields, content = joined fields
        ∧ format.Merges (levels - 1) old fields new := by
  rw [mergeDelimited_eq_ok_iff framed]
  refine and_congr_right fun _ => ⟨?_, ?_⟩
  · rintro ⟨spelled, fields, split, found, merges⟩
    have first := numeral.read content
    rw [split, found.read, List.append_nil] at first
    exact ⟨fields, (Prod.mk.inj (Except.ok.inj first)).2.symm, merges⟩
  · rintro ⟨fields, rfl, merges⟩
    exact ⟨count, fields, by rw [List.append_nil], numeral, merges⟩

/-- All bytes behind their number are read into a message inside another as they are read into it
alone, if the level less makes no difference to them. -/
theorem mergeDelimited_counted_eq_ok_iff (framed : format.Framed) {content : Bytes} {old new : μ}
    (fits : Varint.Fits content.length) (alike : ∀ fields, content = joined fields →
      (format.Merges (maxLevels - 1) old fields new ↔ format.Merges maxLevels old fields new)) :
    format.mergeDelimited maxLevels old (counted content) = .ok (new, [])
      ↔ format.resume old content = .ok new := by
  rw [counted, mergeDelimited_whole_eq_ok_iff framed (Varint.numeral_encode fits),
    resume_eq_ok_iff framed]
  constructor
  · rintro ⟨-, fields, split, merges⟩
    exact ⟨fields, split, (alike fields split).mp merges⟩
  · rintro ⟨fields, split, merges⟩
    exact ⟨by decide, fields, split, (alike fields split).mpr merges⟩

/-- A field that holds bytes behind their number is read from these bytes, and reading goes on
behind them. -/
theorem resume_entry_eq_ok_iff (framed : format.Framed) (numbered : format.Numbered)
    {field : Field μ} (member : field ∈ format.fields)
    (delimited : field.wireType = .lengthDelimited) {content : Bytes}
    (fits : Varint.Fits content.length) {rest : Bytes} {old new : μ} :
    format.resume old (entry field.number content ++ rest) = .ok new
      ↔ ∃ middle, field.merge maxLevels old (counted content) = .ok (middle, [])
        ∧ format.resume middle rest = .ok new := by
  have known : format.field? field.number = some field := numbered.field?_eq member
  have valid : Key.Valid field.number := numbered.valid _ (List.mem_map_of_mem member)
  have spells : Key.Spells (Key.mk field.number .lengthDelimited).encode _ :=
    Key.spells_encode valid
  rw [entry, List.append_assoc, resume_head_eq_ok_iff framed spells]
  constructor
  · rintro ⟨body, behind, middle, split, merged, later⟩
    obtain ⟨-, read⟩ := (mergeField_of_known known).mp merged
    obtain ⟨used, whole, plain, -⟩ := (framed field member _ _ _ _ _).mp read
    rw [List.append_nil] at whole
    obtain ⟨rfl, rfl⟩ := (plain_counted fits).append_inj (delimited ▸ whole ▸ plain) split
    exact ⟨middle, read, later⟩
  · rintro ⟨middle, read, later⟩
    exact ⟨counted content, rest, middle, rfl,
      (mergeField_of_known known).mpr ⟨delimited.symm, read⟩, later⟩

/-! ## Levels that are left -/

/-- Inside the fields of a message that have no meaning, nothing lies in more than so many groups.
Of bytes that are no fields nothing is asked. -/
def GroupsWithin (format : Format μ) (depth : Nat) (input : Bytes) : Prop :=
  ∀ fields, input = joined fields → (∀ field ∈ fields, ∃ levels, field.WellFormed levels) →
    ∀ field ∈ fields, format.field? field.key.field = none → field.WellFormed (depth + 1)

/-- Groups do not nest deeper than there are bytes. -/
theorem GroupsWithin.of_length_le {input : Bytes} (short : input.length ≤ depth) :
    format.GroupsWithin depth input := by
  rintro fields rfl wellFormed field member -
  obtain ⟨levels, key, content⟩ := wellFormed field member
  have body := length_body_le member
  exact ⟨key, content.of_length.mono (by omega)⟩

namespace Merges

variable {old new : μ} {fields : List RawField}

theorem wellFormed (merges : format.Merges levels old fields new) (framed : format.Framed) :
    ∀ field ∈ fields, ∃ levels, field.WellFormed levels := by
  induction merges with
  | nil => exact List.forall_mem_nil _
  | cons spells merged later ih =>
    refine List.forall_mem_cons.mpr ⟨?_, ih⟩
    obtain ⟨used, split, ⟨depth, content⟩, -⟩ := (mergeField_eq_ok_iff framed).mp merged
    rw [List.append_nil] at split
    exact ⟨depth, spells, split ▸ content⟩

/-- Fields make the same message with another number of levels, if this number is enough for those
without a meaning, and each payload of a known field is read alike. -/
theorem relevel (merges : format.Merges levels old fields new)
    (unknown : ∀ found ∈ fields, format.field? found.key.field = none → found.WellFormed more)
    (alike : ∀ found ∈ fields, ∀ field ∈ format.fields, found.key = field.key →
      ∀ {first second : μ}, field.merge levels first found.body = .ok (second, []) →
        field.merge more first found.body = .ok (second, [])) :
    format.Merges more old fields new := by
  induction merges with
  | nil => exact .nil _
  | @cons old middle new found fields spells merged later ih =>
    obtain ⟨hereUnknown, laterUnknown⟩ := List.forall_mem_cons.mp unknown
    obtain ⟨hereAlike, laterAlike⟩ := List.forall_mem_cons.mp alike
    refine .cons spells ?_ (ih laterUnknown laterAlike)
    cases meaning : format.field? found.key.field with
    | none =>
      obtain ⟨rfl, -⟩ := (mergeField_of_unknown meaning).mp merged
      refine (mergeField_of_unknown meaning).mpr ⟨rfl, skipField_eq_ok_iff.mpr ?_⟩
      exact ⟨found.body, (List.append_nil _).symm, (hereUnknown meaning).content⟩
    | some field =>
      obtain ⟨sameType, read⟩ := (mergeField_of_known meaning).mp merged
      have member : field ∈ format.fields := List.mem_of_find?_eq_some meaning
      have sameKey : found.key = field.key := by
        rw [Field.key, number_of_field? meaning, ← sameType]
      exact (mergeField_of_known meaning).mpr ⟨sameType, hereAlike field member sameKey read⟩

/-- Fields that can be read into one message can be read into any, if this holds of each payload of
a known field. -/
theorem restart (merges : format.Merges levels old fields new)
    (steady : ∀ field ∈ format.fields, ∀ {first second : μ} {input : Bytes},
      field.merge levels first input = .ok (second, []) →
        ∀ other, ∃ result, field.merge levels other input = .ok (result, [])) (other : μ) :
    ∃ result, format.Merges levels other fields result := by
  induction merges generalizing other with
  | nil => exact ⟨other, .nil other⟩
  | @cons old middle new found fields spells merged later ih =>
    cases meaning : format.field? found.key.field with
    | none =>
      obtain ⟨-, skipped⟩ := (mergeField_of_unknown meaning).mp merged
      obtain ⟨result, others⟩ := ih other
      exact ⟨result, .cons spells ((mergeField_of_unknown meaning).mpr ⟨rfl, skipped⟩) others⟩
    | some field =>
      obtain ⟨sameType, read⟩ := (mergeField_of_known meaning).mp merged
      obtain ⟨next, again⟩ := steady field (List.mem_of_find?_eq_some meaning) read other
      obtain ⟨result, others⟩ := ih next
      exact ⟨result, .cons spells ((mergeField_of_known meaning).mpr ⟨sameType, again⟩) others⟩

end Merges

end Format

end JobHooks.Wire

namespace JobHooks

open Wire

namespace Stamp

variable {name : String} {depth levels more : Nat} {old new : Stamp} {fields : List RawField}

theorem merges_relevel (merges : (format name).Merges levels old fields new)
    (shallow : (format name).GroupsWithin depth (joined fields)) (enough : depth < more) :
    (format name).Merges more old fields new := by
  refine merges.relevel ?_ ?_
  · intro found member unknown
    have fits := shallow fields rfl (merges.wellFormed (format_framed name)) found member unknown
    exact ⟨fits.key, fits.content.mono enough⟩
  · intro found _ field known _
    revert field
    simp only [format, List.forall_mem_cons]
    exact ⟨fun _ _ _ read => read, fun _ _ _ read => read, List.forall_mem_nil _⟩

/-- Bytes that can be read into one time can be read into any. -/
theorem exists_decode {input : Bytes} (read : (format name).resume old input = .ok new) :
    ∃ stamp, (format name).decode input = .ok stamp := by
  have framed := format_framed name
  obtain ⟨fields, split, merges⟩ := (Format.resume_eq_ok_iff framed).mp read
  have steady : ∀ field ∈ (format name).fields, ∀ {first second : Stamp} {input : Bytes},
      field.merge Format.maxLevels first input = .ok (second, []) →
        ∀ other, ∃ result, field.merge Format.maxLevels other input = .ok (result, []) := by
    simp only [format, List.forall_mem_cons]
    refine ⟨fun step other => ?_, fun step other => ?_, List.forall_mem_nil _⟩
    all_goals
      obtain ⟨value, number, -⟩ := Codec.merge_field_eq_ok_iff.mp step
      exact ⟨_, Codec.merge_field_eq_ok_iff.mpr ⟨value, number, rfl⟩⟩
  obtain ⟨stamp, restarted⟩ := merges.restart steady (format name).empty
  exact ⟨stamp, (Format.decode_eq_ok_iff framed).mpr ⟨fields, split, restarted⟩⟩

end Stamp

namespace JobInfo

/-! ## The times of a job -/

/-- The times that a job may have. -/
inductive TimeField where
  | submit
  | start
  | finish
  | limit
  | elapsed
  deriving Repr, DecidableEq

namespace TimeField

/-- The number of the field. -/
def number : TimeField → Nat
  | submit => 10
  | start => 11
  | finish => 12
  | limit => 13
  | elapsed => 14

/-- The name of the field. -/
def name : TimeField → String
  | submit => "submit_time"
  | start => "start_time"
  | finish => "end_time"
  | limit => "time_limit"
  | elapsed => "elapsed_time"

/-- The format of the time: a point in time or a span of time. -/
def format : TimeField → Format Stamp
  | submit | start | finish => Stamp.pointFormat
  | limit | elapsed => Stamp.spanFormat

/-- The time as a job has it. -/
def get : TimeField → JobInfo → Option Stamp
  | submit => submitTime
  | start => startTime
  | finish => endTime
  | limit => timeLimit
  | elapsed => elapsedTime

/-- A job with another time. -/
def set : TimeField → JobInfo → Option Stamp → JobInfo
  | submit => fun job submitTime => { job with submitTime }
  | start => fun job startTime => { job with startTime }
  | finish => fun job endTime => { job with endTime }
  | limit => fun job timeLimit => { job with timeLimit }
  | elapsed => fun job elapsedTime => { job with elapsedTime }

/-- The field as it stands in the format of a job. -/
def field (time : TimeField) : Wire.Field JobInfo :=
  time.format.optional.field time.number time.name time.get time.set

theorem format_eq (time : TimeField) : ∃ name, time.format = Stamp.format name := by
  cases time with
  | submit | start | finish => exact ⟨"Timestamp", rfl⟩
  | limit | elapsed => exact ⟨"Duration", rfl⟩

theorem format_framed (time : TimeField) : time.format.Framed := by
  obtain ⟨name, same⟩ := time.format_eq
  exact same ▸ Stamp.format_framed name

theorem merges_relevel {time : TimeField} {depth levels more : Nat} {old new : Stamp}
    {fields : List RawField} (merges : time.format.Merges levels old fields new)
    (shallow : time.format.GroupsWithin depth (joined fields)) (enough : depth < more) :
    time.format.Merges more old fields new := by
  obtain ⟨name, same⟩ := time.format_eq
  rw [same] at merges shallow ⊢
  exact Stamp.merges_relevel merges shallow enough

theorem exists_decode {time : TimeField} {old new : Stamp} {input : Bytes}
    (read : time.format.resume old input = .ok new) :
    ∃ stamp, time.format.decode input = .ok stamp := by
  obtain ⟨name, same⟩ := time.format_eq
  rw [same] at read ⊢
  exact Stamp.exists_decode read

theorem field_mem (time : TimeField) : time.field ∈ JobInfo.format.fields := by
  have found : JobInfo.format.field? time.number = some time.field := by cases time <;> rfl
  exact List.mem_of_find?_eq_some found

end TimeField

/-- A field of a job is a time, or levels do not matter to it. -/
theorem time_or_flat : ∀ field ∈ JobInfo.format.fields,
    (∃ time : TimeField, field = time.field)
      ∨ ∀ levels more, field.merge levels = field.merge more := by
  simp only [format, List.forall_mem_cons]
  exact ⟨.inr fun _ _ => rfl, .inr fun _ _ => rfl, .inr fun _ _ => rfl, .inr fun _ _ => rfl,
    .inr fun _ _ => rfl, .inr fun _ _ => rfl, .inr fun _ _ => rfl, .inr fun _ _ => rfl,
    .inr fun _ _ => rfl, .inl ⟨.submit, rfl⟩, .inl ⟨.start, rfl⟩, .inl ⟨.finish, rfl⟩,
    .inl ⟨.limit, rfl⟩, .inl ⟨.elapsed, rfl⟩, List.forall_mem_nil _⟩

/-- Inside the fields without a meaning of a job, and of its times, nothing lies in more than so
many groups. -/
structure GroupsWithin (depth : Nat) (input : Bytes) : Prop where
  job : JobInfo.format.GroupsWithin depth input
  times : ∀ fields, input = joined fields → (∀ found ∈ fields, ∃ levels, found.WellFormed levels) →
    ∀ found ∈ fields, ∀ time : TimeField, found.key = time.field.key → ∀ count content,
      found.body = count ++ content → Varint.Numeral count content.length →
        time.format.GroupsWithin depth content

theorem GroupsWithin.of_length_le {depth : Nat} {input : Bytes} (short : input.length ≤ depth) :
    JobInfo.GroupsWithin depth input where
  job := Format.GroupsWithin.of_length_le short
  times := by
    rintro fields rfl - found member time - count content split -
    have body := length_body_le member
    rw [split, List.length_append] at body
    exact Format.GroupsWithin.of_length_le (by omega)

theorem merges_relevel {depth levels more : Nat} {old new : JobInfo} {fields : List RawField}
    (merges : JobInfo.format.Merges levels old fields new)
    (shallow : JobInfo.GroupsWithin depth (joined fields)) (enough : depth + 1 < more) :
    JobInfo.format.Merges more old fields new := by
  have wellFormed := merges.wellFormed format_framed
  refine merges.relevel ?_ ?_
  · intro found member unknown
    have fits := shallow.job fields rfl wellFormed found member unknown
    exact ⟨fits.key, fits.content.mono (Nat.le_of_lt enough)⟩
  · intro found member field known sameKey first second read
    rcases time_or_flat field known with ⟨time, rfl⟩ | flat
    · -- The fields of the time are read with one level less, before and after.
      obtain ⟨stamp, payloadRead, rfl⟩ := Codec.merge_field_eq_ok_iff.mp read
      obtain ⟨value, step, rfl⟩ := Format.merge_optional_eq_ok_iff.mp payloadRead
      obtain ⟨-, count, inner, split, numeral, later⟩ :=
        (Format.mergeDelimited_eq_ok_iff time.format_framed).mp step
      rw [List.append_nil] at split
      have within : time.format.GroupsWithin depth (joined inner) :=
        shallow.times fields rfl wellFormed found member time sameKey count _ split numeral
      refine Codec.merge_field_eq_ok_iff.mpr ⟨some value, ?_, rfl⟩
      refine Format.merge_optional_eq_ok_iff.mpr ⟨value, ?_, rfl⟩
      rw [split]
      refine (Format.mergeDelimited_whole_eq_ok_iff time.format_framed numeral).mpr ?_
      exact ⟨by omega, inner, rfl, TimeField.merges_relevel later within (by omega)⟩
    · exact flat levels more ▸ read

/-- An entry of a list is a job just when its bytes alone are. -/
theorem mergeDelimited_counted_eq_ok_iff {body : Bytes} {job : JobInfo}
    (fits : Varint.Fits body.length) (shallow : JobInfo.GroupsWithin 90 body) :
    JobInfo.format.mergeDelimited Format.maxLevels JobInfo.format.empty (counted body)
        = .ok (job, [])
      ↔ JobInfo.format.decode body = .ok job := by
  refine Format.mergeDelimited_counted_eq_ok_iff format_framed fits ?_
  rintro fields rfl
  constructor <;> exact fun merges => merges_relevel merges shallow (by decide)

/-- A time of a job is read as its bytes alone are. -/
theorem TimeField.mergeDelimited_counted_eq_ok_iff {time : TimeField} {content : Bytes}
    {old new : Stamp} (fits : Varint.Fits content.length)
    (shallow : time.format.GroupsWithin 90 content) :
    time.format.mergeDelimited Format.maxLevels old (counted content) = .ok (new, [])
      ↔ time.format.resume old content = .ok new := by
  refine Format.mergeDelimited_counted_eq_ok_iff time.format_framed fits ?_
  rintro fields rfl
  constructor <;> exact fun merges => merges_relevel merges shallow (by decide)

/-- Entries that are read behind others are read one by one, each alone. -/
theorem resume_entries_eq_ok_iff (name : String) {bodies : List Bytes}
    (fits : ∀ body ∈ bodies, Varint.Fits body.length)
    (shallow : ∀ body ∈ bodies, JobInfo.GroupsWithin 90 body) {old jobs : List JobInfo} :
    (listFormat name).resume old (bodies.flatMap (entry 1)) = .ok jobs
      ↔ ∃ read, bodies.Forall₂ (fun body job => JobInfo.format.decode body = .ok job) read
        ∧ old ++ read = jobs := by
  induction bodies generalizing old with
  | nil =>
    rw [List.flatMap_nil, Format.resume_nil]
    constructor
    · intro same
      exact ⟨[], .nil, (List.append_nil old).trans (Except.ok.inj same)⟩
    · rintro ⟨read, alone, rfl⟩
      cases alone
      rw [List.append_nil]
  | cons body bodies ih =>
    obtain ⟨hereFits, laterFits⟩ := List.forall_mem_cons.mp fits
    obtain ⟨hereShallow, laterShallow⟩ := List.forall_mem_cons.mp shallow
    have step : (listFormat name).resume old (entry 1 body ++ bodies.flatMap (entry 1)) = .ok jobs
        ↔ _ :=
      Format.resume_entry_eq_ok_iff (listFormat_framed name) (listFormat_numbered name)
        List.mem_cons_self rfl hereFits
    rw [List.flatMap_cons, step]
    constructor
    · rintro ⟨middle, one, later⟩
      obtain ⟨_, repeated, rfl⟩ := Codec.merge_field_eq_ok_iff.mp one
      obtain ⟨job, alone, rfl⟩ := Format.merge_repeated_eq_ok_iff.mp repeated
      obtain ⟨read, others, rfl⟩ := (ih laterFits laterShallow).mp later
      have decoded := (mergeDelimited_counted_eq_ok_iff hereFits hereShallow).mp alone
      exact ⟨job :: read, .cons decoded others, List.append_cons old job read⟩
    · rintro ⟨read, alone, rfl⟩
      cases alone with
      | @cons _ job _ read decoded others =>
        have merged := (mergeDelimited_counted_eq_ok_iff hereFits hereShallow).mpr decoded
        refine ⟨old ++ [job], ?_, (ih laterFits laterShallow).mpr ⟨read, others, ?_⟩⟩
        · exact Codec.merge_field_eq_ok_iff.mpr
            ⟨_, Format.merge_repeated_eq_ok_iff.mpr ⟨job, merged, rfl⟩, rfl⟩
        · exact (List.append_cons old job read).symm

/-- A time that is read into a job is read alone, into the time that the job has, and reading goes
on from the job that has it. -/
theorem TimeField.resume_entry_eq_ok_iff {time : TimeField} {content behind : Bytes}
    {job result : JobInfo} (fits : Varint.Fits content.length)
    (shallow : time.format.GroupsWithin 90 content) :
    JobInfo.format.resume job (entry time.number content ++ behind) = .ok result
      ↔ ∃ stamp, time.format.resume ((time.get job).getD time.format.empty) content = .ok stamp
        ∧ JobInfo.format.resume (time.set job (some stamp)) behind = .ok result := by
  have step : JobInfo.format.resume job (entry time.number content ++ behind) = .ok result ↔ _ :=
    Format.resume_entry_eq_ok_iff JobInfo.format_framed JobInfo.format_numbered time.field_mem rfl
      fits
  rw [step]
  constructor
  · rintro ⟨middle, one, later⟩
    obtain ⟨_, optional, rfl⟩ := Codec.merge_field_eq_ok_iff.mp one
    obtain ⟨stamp, alone, rfl⟩ := Format.merge_optional_eq_ok_iff.mp optional
    exact ⟨stamp, (mergeDelimited_counted_eq_ok_iff fits shallow).mp alone, later⟩
  · rintro ⟨stamp, read, later⟩
    have merged := (mergeDelimited_counted_eq_ok_iff fits shallow).mpr read
    exact ⟨time.set job (some stamp), Codec.merge_field_eq_ok_iff.mpr
      ⟨some stamp, Format.merge_optional_eq_ok_iff.mpr ⟨stamp, merged, rfl⟩, rfl⟩, later⟩

/-- **What lies inside a message is read as if it stood alone**, whatever its bytes are, if the
groups in fields without a meaning nest at most 90 deep.

* Entries of a list of jobs can be read just when each of them alone is a job, and the list is that
  of these jobs.
* A time of a job can be read just when its bytes alone are a time.  A job that has no such time yet
  has that one then; into one that a job has already the bytes are read as they would be alone.
  What stands behind the time is read into the job that has it. -/
theorem nested_read_alone :
    (∀ format ∈ [startFormat, finishFormat], ∀ (bodies : List Bytes) (jobs : List JobInfo),
      (∀ body ∈ bodies, Varint.Fits body.length) → (∀ body ∈ bodies, JobInfo.GroupsWithin 90 body) →
        (format.decode (bodies.flatMap (entry 1)) = .ok jobs
          ↔ bodies.Forall₂ (fun body job => JobInfo.format.decode body = .ok job) jobs))
    ∧ ∀ (time : TimeField) (before content behind : Bytes) (job result : JobInfo),
      JobInfo.format.decode before = .ok job → Varint.Fits content.length →
      time.format.GroupsWithin 90 content →
        (JobInfo.format.decode (before ++ entry time.number content ++ behind) = .ok result
          ↔ ∃ alone merged, time.format.decode content = .ok alone
            ∧ (time.get job = none → merged = alone)
            ∧ (∀ old, time.get job = some old → time.format.resume old content = .ok merged)
            ∧ JobInfo.format.resume (time.set job (some merged)) behind = .ok result) := by
  constructor
  · have each : ∀ (name : String) (bodies : List Bytes) (jobs : List JobInfo),
        (∀ body ∈ bodies, Varint.Fits body.length) →
        (∀ body ∈ bodies, JobInfo.GroupsWithin 90 body) →
          ((listFormat name).decode (bodies.flatMap (entry 1)) = .ok jobs
            ↔ bodies.Forall₂ (fun body job => JobInfo.format.decode body = .ok job) jobs) := by
      intro name bodies jobs fits shallow
      rw [Format.decode_eq_resume, resume_entries_eq_ok_iff name fits shallow]
      constructor
      · rintro ⟨read, alone, rfl⟩
        exact alone
      · intro alone
        exact ⟨jobs, alone, rfl⟩
    exact List.forall_mem_cons.mpr ⟨each _, List.forall_mem_singleton.mpr (each _)⟩
  · intro time before content behind job result read fits shallow
    rw [List.append_assoc, Format.decode_append format_framed read,
      TimeField.resume_entry_eq_ok_iff fits shallow]
    constructor
    · rintro ⟨merged, inside, later⟩
      obtain ⟨alone, decoded⟩ := TimeField.exists_decode inside
      refine ⟨alone, merged, decoded, fun absent => ?_, fun old present => ?_, later⟩
      · rw [absent, Option.getD_none] at inside
        exact Except.ok.inj (inside.symm.trans decoded)
      · rwa [present, Option.getD_some] at inside
    · rintro ⟨alone, merged, decoded, first, further, later⟩
      refine ⟨merged, ?_, later⟩
      cases present : time.get job with
      | none => rwa [first present, Option.getD_none]
      | some old => exact further old present

/-- Two jobs, of which the first holds a group without a meaning and the second a time; and two
entries, of which the first announces one byte and runs into the second. -/
theorem nested_read_alone_entries :
    JobInfo.startFormat.decode [0x0a, 0x04, 0x08, 0x07, 0x7b, 0x7c,
        0x0a, 0x08, 0x08, 0x07, 0x62, 0x02, 0x10, 0x05, 0x08, 0x09]
      = .ok [{ id := 7 }, { id := 9, endTime := some ⟨0, 5⟩ }]
    ∧ ∀ jobs,
      JobInfo.finishFormat.decode [0x0a, 0x01, 0x08, 0x0a, 0x02, 0x08, 0x07] ≠ .ok jobs := by
  have seven : JobInfo.format.decode [0x08, 0x07] = .ok { id := 7 } :=
    (Format.decode_eq_ok_iff format_framed).mpr
      ⟨[⟨[0x08], ⟨1, .varint⟩, [0x07]⟩], rfl, .cons (.of_read rfl) rfl (.nil _)⟩
  have group : JobInfo.format.decode [0x08, 0x07, 0x7b, 0x7c] = .ok { id := 7 } := by
    have content : Content Format.maxLevels ⟨15, .startGroup⟩ (joined [] ++ [0x7c]) :=
      .group (List.forall_mem_nil _) (List.forall_mem_nil _) (.of_read rfl)
    have skipped : ∀ job : JobInfo, JobInfo.format.mergeField Format.maxLevels ⟨15, .startGroup⟩ job
        [0x7c] = .ok (job, []) := fun job =>
      (Format.mergeField_of_unknown rfl).mpr
        ⟨rfl, skipField_eq_ok_iff.mpr ⟨[0x7c], rfl, content⟩⟩
    refine (Format.decode_eq_ok_iff format_framed).mpr
      ⟨[⟨[0x08], ⟨1, .varint⟩, [0x07]⟩, ⟨[0x7b], ⟨15, .startGroup⟩, [0x7c]⟩], rfl, ?_⟩
    exact .cons (.of_read rfl) rfl (.cons (.of_read rfl) (skipped _) (.nil _))
  have timed : JobInfo.format.decode [0x08, 0x07, 0x62, 0x02, 0x10, 0x05, 0x08, 0x09]
      = .ok { id := 9, endTime := some ⟨0, 5⟩ } := by
    have stamp : Stamp.pointFormat.decode [0x10, 0x05] = .ok ⟨0, 5⟩ :=
      (Format.decode_eq_ok_iff (Stamp.format_framed _)).mpr
        ⟨[⟨[0x10], ⟨2, .varint⟩, [0x05]⟩], rfl, .cons (.of_read rfl) rfl (.nil _)⟩
    have later : JobInfo.format.resume { id := 7, endTime := some ⟨0, 5⟩ } [0x08, 0x09]
        = .ok { id := 9, endTime := some ⟨0, 5⟩ } :=
      (Format.resume_eq_ok_iff format_framed).mpr
        ⟨[⟨[0x08], ⟨1, .varint⟩, [0x09]⟩], rfl, .cons (.of_read rfl) rfl (.nil _)⟩
    have written : [0x08, 0x07] ++ entry 12 [0x10, 0x05] ++ [0x08, 0x09]
        = [0x08, 0x07, 0x62, 0x02, 0x10, 0x05, 0x08, 0x09] := by cbv
    rw [← written]
    have untimed : ∀ old, ({ id := 7 } : JobInfo).endTime = some old →
        Stamp.pointFormat.resume old [0x10, 0x05] = .ok ⟨0, 5⟩ := by
      intro old impossible
      cases impossible
    exact (nested_read_alone.2 .finish [0x08, 0x07] [0x10, 0x05] [0x08, 0x09] _ _ seven
      (by decide) (.of_length_le (by decide))).mpr
        ⟨⟨0, 5⟩, ⟨0, 5⟩, stamp, fun _ => rfl, untimed, later⟩
  have shallow : ∀ bodies : List Bytes, (∀ body ∈ bodies, body.length ≤ 90) →
      ∀ body ∈ bodies, JobInfo.GroupsWithin 90 body :=
    fun _ short body member => .of_length_le (short body member)
  constructor
  · have written : [[0x08, 0x07, 0x7b, 0x7c],
        [0x08, 0x07, 0x62, 0x02, 0x10, 0x05, 0x08, 0x09]].flatMap (entry 1)
          = [0x0a, 0x04, 0x08, 0x07, 0x7b, 0x7c,
            0x0a, 0x08, 0x08, 0x07, 0x62, 0x02, 0x10, 0x05, 0x08, 0x09] := by cbv
    rw [← written]
    exact (nested_read_alone.1 startFormat List.mem_cons_self _ _ (by decide)
      (shallow _ (by decide))).mpr (.cons group (.cons timed .nil))
  · intro jobs read
    have written : [[0x08], [0x08, 0x07]].flatMap (entry 1)
        = [0x0a, 0x01, 0x08, 0x0a, 0x02, 0x08, 0x07] := by cbv
    rw [← written] at read
    have alone := (nested_read_alone.1 finishFormat (List.mem_cons_of_mem _ List.mem_cons_self) _ _
      (by decide) (shallow _ (by decide))).mp read
    cases alone with
    | @cons _ job _ _ decoded _ =>
      have key : Key.Spells [0x08] ⟨1, .varint⟩ := .of_read rfl
      have resumed : JobInfo.format.resume {} ([0x08] ++ []) = .ok job := decoded
      obtain ⟨body, rest, middle, nothing, merged, -⟩ :=
        (Format.resume_head_eq_ok_iff format_framed key).mp resumed
      obtain ⟨rfl, -⟩ := List.append_eq_nil_iff.mp nothing.symm
      cases merged

end JobInfo

end JobHooks
