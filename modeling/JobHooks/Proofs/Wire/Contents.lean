import JobHooks.Proofs.Wire.Numerals

/-!
# What stands in a message

Whatever its format, a message is a list of fields one after the other, each of them a key and what
follows it.  This module says which bytes may follow a key, without saying how they are read: a
number, bytes of a fixed count, bytes behind their count (`Plain`), or a group, that is fields up to
the key that ends it (`Content`).

How deep groups may lie inside each other is bounded by levels.  A field may stand only where a
level is left, and a group takes one for what is inside it.

The reader knows no fields inside groups, it counts the groups that are open.  `skipField_eq_ok_iff`
says that it still skips exactly this: any content of a key within the levels that are left, nothing
else, and nothing behind it.
-/

namespace JobHooks.Wire

set_option autoImplicit false

/-! ## Contents without groups -/

/-- What may follow a key that opens and ends no group. -/
inductive Plain : WireType → Bytes → Prop where
  | varint {bytes : Bytes} {value : Nat} (numeral : Varint.Numeral bytes value) :
      Plain .varint bytes
  | fixed64 {bytes : Bytes} (eight : bytes.length = 8) : Plain .fixed64 bytes
  | fixed32 {bytes : Bytes} (four : bytes.length = 4) : Plain .fixed32 bytes
  | lengthDelimited {count bytes : Bytes} (numeral : Varint.Numeral count bytes.length) :
      Plain .lengthDelimited (count ++ bytes)

namespace Plain

variable {wireType : WireType} {used : Bytes}

theorem ne_startGroup (plain : Plain wireType used) : wireType ≠ .startGroup := by
  cases plain <;> decide

theorem ne_endGroup (plain : Plain wireType used) : wireType ≠ .endGroup := by
  cases plain <;> decide

end Plain

theorem dropExactly_eq_ok_iff {count : Nat} {input rest : Bytes} :
    dropExactly count input = .ok rest ↔ ∃ used, input = used ++ rest ∧ used.length = count := by
  unfold dropExactly
  split
  · next short =>
    constructor
    · intro impossible
      cases impossible
    · rintro ⟨used, rfl, rfl⟩
      rw [List.length_append] at short
      omega
  · next enough =>
    rw [Except.ok.injEq]
    constructor
    · rintro rfl
      exact ⟨input.take count, (List.take_append_drop _ _).symm,
        List.length_take_of_le (Nat.le_of_not_lt enough)⟩
    · rintro ⟨used, rfl, rfl⟩
      exact List.drop_left

/-- What opens and ends no group is skipped by its wire type alone. -/
theorem skipScalar_eq_ok_iff {wireType : WireType} (inner : wireType ≠ .startGroup)
    {input rest : Bytes} :
    skipScalar wireType input = .ok rest
      ↔ ∃ used, input = used ++ rest ∧ Plain wireType used := by
  cases wireType with
  | varint =>
    constructor
    · intro skipped
      simp only [skipScalar] at skipped
      cases found : readVarint input with
      | error cause => rw [found] at skipped; cases skipped
      | ok pair =>
        obtain ⟨value, remaining⟩ := pair
        rw [found] at skipped
        cases skipped
        obtain ⟨used, split, numeral⟩ := readVarint_eq_ok_iff.mp found
        exact ⟨used, split, .varint numeral⟩
    · rintro ⟨used, rfl, plain⟩
      cases plain with
      | varint numeral =>
        rw [skipScalar, numeral.read]
        rfl
  | fixed64 =>
    rw [skipScalar, dropExactly_eq_ok_iff]
    refine exists_congr fun used => and_congr_right fun _ => ⟨.fixed64, ?_⟩
    rintro ⟨⟩
    assumption
  | fixed32 =>
    rw [skipScalar, dropExactly_eq_ok_iff]
    refine exists_congr fun used => and_congr_right fun _ => ⟨.fixed32, ?_⟩
    rintro ⟨⟩
    assumption
  | lengthDelimited =>
    constructor
    · intro skipped
      simp only [skipScalar] at skipped
      split at skipped
      · cases skipped
      · next value remaining found =>
        obtain ⟨count, split, numeral⟩ := readVarint_eq_ok_iff.mp found
        obtain ⟨bytes, rfl, length⟩ := dropExactly_eq_ok_iff.mp skipped
        refine ⟨count ++ bytes, ?_, .lengthDelimited (length.symm ▸ numeral)⟩
        rw [split, List.append_assoc]
    · rintro ⟨used, rfl, plain⟩
      cases plain with
      | @lengthDelimited count bytes numeral =>
        rw [skipScalar, List.append_assoc, numeral.read]
        exact dropExactly_eq_ok_iff.mpr ⟨bytes, rfl, rfl⟩
  | startGroup => exact absurd rfl inner
  | endGroup =>
    constructor
    · intro skipped
      cases skipped
    · rintro ⟨used, -, plain⟩
      exact absurd rfl plain.ne_endGroup

/-- Bytes begin with one content of a wire type at most. -/
theorem Plain.append_inj {wireType : WireType} {first second rest other : Bytes}
    (firstPlain : Plain wireType first) (secondPlain : Plain wireType second)
    (same : first ++ rest = second ++ other) : first = second ∧ rest = other := by
  have behindFirst : skipScalar wireType (first ++ rest) = .ok rest :=
    (skipScalar_eq_ok_iff firstPlain.ne_startGroup).mpr ⟨first, rfl, firstPlain⟩
  have behindSecond : skipScalar wireType (first ++ rest) = .ok other :=
    (skipScalar_eq_ok_iff secondPlain.ne_startGroup).mpr ⟨second, same, secondPlain⟩
  have left : rest = other := Except.ok.inj (behindFirst.symm.trans behindSecond)
  subst left
  exact ⟨List.append_cancel_right same, rfl⟩

/-! ## Contents with groups -/

/-- A field as it stands in a message: the bytes of its key, the key, and what follows it. -/
structure RawField where
  head : Bytes
  key : Key
  body : Bytes

namespace RawField

/-- All bytes of a field. -/
def bytes (field : RawField) : Bytes := field.head ++ field.body

end RawField

/-- The bytes of fields one after the other. -/
def joined (fields : List RawField) : Bytes := fields.flatMap RawField.bytes

/-- What may follow a key where so many levels are left.  Each field needs a level, and a group
takes one for the fields inside it; it ends with the key of the same number that ends a group. -/
inductive Content : Nat → Key → Bytes → Prop where
  | plain {levels number : Nat} {wireType : WireType} {bytes : Bytes}
      (plain : Plain wireType bytes) : Content (levels + 1) ⟨number, wireType⟩ bytes
  | group {levels number : Nat} {inner : List RawField} {tail : Bytes}
      (keys : ∀ field ∈ inner, Key.Spells field.head field.key)
      (contents : ∀ field ∈ inner, Content levels field.key field.body)
      (ends : Key.Spells tail ⟨number, .endGroup⟩) :
      Content (levels + 1) ⟨number, .startGroup⟩ (joined inner ++ tail)

/-- A field that may stand where so many levels are left. -/
structure RawField.WellFormed (levels : Nat) (field : RawField) : Prop where
  key : Key.Spells field.head field.key
  content : Content levels field.key field.body

@[simp] theorem joined_nil : joined [] = [] := rfl

@[simp] theorem joined_cons (field : RawField) (fields : List RawField) :
    joined (field :: fields) = field.head ++ (field.body ++ joined fields) :=
  List.append_assoc _ _ _

@[simp] theorem joined_append (first second : List RawField) :
    joined (first ++ second) = joined first ++ joined second :=
  List.flatMap_append

theorem length_body_le {fields : List RawField} {field : RawField} (member : field ∈ fields) :
    field.body.length ≤ (joined fields).length := by
  obtain ⟨before, behind, rfl⟩ := List.append_of_mem member
  simp only [joined_append, joined_cons, List.length_append]
  omega

namespace Content

variable {levels : Nat} {key : Key} {body : Bytes}

theorem pos (content : Content levels key body) : 0 < levels := by
  cases content <;> exact Nat.succ_pos _

/-- More levels do no harm. -/
theorem mono (content : Content levels key body) {more : Nat} (enough : levels ≤ more) :
    Content more key body := by
  induction content generalizing more with
  | plain plain =>
    obtain ⟨more, rfl⟩ := Nat.exists_eq_add_one_of_ne_zero (by omega : more ≠ 0)
    exact .plain plain
  | group keys contents ends ih =>
    obtain ⟨more, rfl⟩ := Nat.exists_eq_add_one_of_ne_zero (by omega : more ≠ 0)
    exact .group keys (fun field member => ih field member (Nat.le_of_succ_le_succ enough)) ends

/-- Each level takes a byte. -/
theorem of_length (content : Content levels key body) : Content (body.length + 1) key body := by
  induction content with
  | plain plain => exact .plain plain
  | @group levels number inner tail keys contents ends ih =>
    refine .group keys (fun field member => (ih field member).mono ?_) ends
    have body := length_body_le member
    have positive := ends.length_pos
    rw [List.length_append]
    omega

end Content

/-! ## Skipping inside groups -/

section

variable {levels innermost : Nat} {outer : List Nat} {key : Key} {input rest : Bytes}

theorem skipGroups_nil : skipGroups levels [] input = .ok input := by
  rw [skipGroups]

theorem skipGroups_of_end (announced : readKey input = .ok (⟨innermost, .endGroup⟩, rest)) :
    skipGroups levels (innermost :: outer) input = skipGroups (levels + 1) outer rest := by
  rw [skipGroups]
  split
  · next step => cases announced.symm.trans step
  · next found remaining step =>
    cases announced.symm.trans step
    rw [if_pos rfl, if_pos rfl]

theorem skipGroups_of_start (announced : readKey input = .ok (key, rest))
    (opens : key.wireType = .startGroup) :
    skipGroups (levels + 1) (innermost :: outer) input
      = skipGroups levels (key.field :: innermost :: outer) rest := by
  rw [skipGroups]
  split
  · next step => cases announced.symm.trans step
  · next found remaining step =>
    cases announced.symm.trans step
    rw [if_neg (by rw [opens]; decide), if_neg (Nat.succ_ne_zero _), if_pos opens,
      Nat.add_sub_cancel]

theorem skipGroups_of_plain {body : Bytes} (announced : readKey input = .ok (key, body ++ rest))
    (plain : Plain key.wireType body) :
    skipGroups (levels + 1) (innermost :: outer) input
      = skipGroups (levels + 1) (innermost :: outer) rest := by
  have skipped : skipScalar key.wireType (body ++ rest) = .ok rest :=
    (skipScalar_eq_ok_iff plain.ne_startGroup).mpr ⟨body, rfl, plain⟩
  rw [skipGroups]
  split
  · next step => cases announced.symm.trans step
  · next found remaining step =>
    cases announced.symm.trans step
    rw [if_neg plain.ne_endGroup, if_neg (Nat.succ_ne_zero _), if_neg plain.ne_startGroup]
    split
    · next step => cases skipped.symm.trans step
    · next left step =>
      cases skipped.symm.trans step
      rfl

end

/-- A group is skipped to its end when each of its fields is. -/
theorem skipGroups_of_each {levels number : Nat} {outer : List Nat} {inner : List RawField}
    (each : ∀ field ∈ inner, ∀ rest,
      skipGroups levels (number :: outer) (field.head ++ (field.body ++ rest))
        = skipGroups levels (number :: outer) rest)
    {tail : Bytes} (ends : Key.Spells tail ⟨number, .endGroup⟩) (rest : Bytes) :
    skipGroups levels (number :: outer) (joined inner ++ tail ++ rest)
      = skipGroups (levels + 1) outer rest := by
  rw [List.append_assoc]
  induction inner with
  | nil => exact skipGroups_of_end (ends.read rest)
  | cons field inner ih =>
    rw [joined_cons, List.append_assoc, List.append_assoc, each field List.mem_cons_self]
    exact ih fun other member => each other (List.mem_cons_of_mem _ member)

/-- Inside a group a field with any content is skipped. -/
theorem skipGroups_of_content {levels innermost : Nat} {outer : List Nat} {key : Key}
    {head body : Bytes} (content : Content levels key body) (spells : Key.Spells head key)
    (rest : Bytes) :
    skipGroups levels (innermost :: outer) (head ++ (body ++ rest))
      = skipGroups levels (innermost :: outer) rest := by
  induction content generalizing innermost outer head rest with
  | plain plain =>
    exact skipGroups_of_plain (spells.read _) plain
  | @group levels number inner tail keys contents ends ih =>
    rw [skipGroups_of_start (spells.read _) rfl]
    exact skipGroups_of_each (fun field member => ih field member (keys field member)) ends rest

/-- The bytes up to the ends of all open groups, each of which holds fields, and the bytes behind
them. -/
def Closing : Nat → List Nat → Bytes → Bytes → Prop
  | _, [], input, rest => input = rest
  | levels, innermost :: outer, input, rest => ∃ inner tail remaining,
    input = joined inner ++ (tail ++ remaining) ∧ (∀ field ∈ inner, field.WellFormed levels)
      ∧ Key.Spells tail ⟨innermost, .endGroup⟩ ∧ Closing (levels + 1) outer remaining rest

/-- A field in front of what closes the open groups belongs to the innermost of them. -/
theorem Closing.cons {levels innermost : Nat} {outer : List Nat} {input rest : Bytes}
    (closing : Closing levels (innermost :: outer) input rest) {head body : Bytes} {key : Key}
    (spells : Key.Spells head key) (content : Content levels key body) :
    Closing levels (innermost :: outer) (head ++ (body ++ input)) rest := by
  obtain ⟨inner, tail, remaining, rfl, fields, ends, later⟩ := closing
  refine ⟨⟨head, key, body⟩ :: inner, tail, remaining, ?_, ?_, ends, later⟩
  · rw [joined_cons, List.append_assoc, List.append_assoc]
  · exact List.forall_mem_cons.mpr ⟨⟨spells, content⟩, fields⟩

theorem closing_of_skipGroups {levels : Nat} {opened : List Nat} {input rest : Bytes}
    (skipped : skipGroups levels opened input = .ok rest) : Closing levels opened input rest := by
  fun_induction skipGroups levels opened input with
  | case1 levels input => cases skipped; rfl
  | case2 => cases skipped
  | case3 levels input outer key remaining step isEnd ih =>
    obtain ⟨head, rfl, spells⟩ := readKey_eq_ok_iff.mp step
    have ends : Key.Spells head ⟨key.field, .endGroup⟩ := isEnd ▸ spells
    exact ⟨[], head, remaining, rfl, List.forall_mem_nil _, ends, ih skipped⟩
  | case4 => cases skipped
  | case5 => cases skipped
  | case6 levels input innermost outer key remaining step notEnd someLevel isStart ih =>
    -- What the inner group holds, with its keys, is one field of the group around it.
    obtain ⟨head, rfl, spells⟩ := readKey_eq_ok_iff.mp step
    obtain ⟨inner, tail, remaining, rfl, fields, ends, later⟩ := ih skipped
    obtain ⟨levels, rfl⟩ := Nat.exists_eq_add_one_of_ne_zero someLevel
    obtain ⟨number, wireType⟩ := key
    cases isStart
    have content : Content (levels + 1) ⟨number, .startGroup⟩ (joined inner ++ tail) :=
      .group (fun field member => (fields field member).key)
        (fun field member => (fields field member).content) ends
    rw [← List.append_assoc (joined inner)]
    exact Closing.cons later spells content
  | case7 => cases skipped
  | case8 levels input innermost outer key remaining step notEnd someLevel notStart left scalar
      ih =>
    obtain ⟨head, rfl, spells⟩ := readKey_eq_ok_iff.mp step
    obtain ⟨body, rfl, plain⟩ := (skipScalar_eq_ok_iff notStart).mp scalar
    obtain ⟨levels, rfl⟩ := Nat.exists_eq_add_one_of_ne_zero someLevel
    exact (ih skipped).cons spells (.plain plain)

/-- **Skipping takes exactly the content of a key**: any content within the levels that are left,
and nothing else, whatever comes behind it. -/
theorem skipField_eq_ok_iff {levels : Nat} {key : Key} {input rest : Bytes} :
    skipField levels key input = .ok rest
      ↔ ∃ used, input = used ++ rest ∧ Content levels key used := by
  obtain ⟨number, wireType⟩ := key
  unfold skipField
  constructor
  · intro skipped
    split at skipped
    · cases skipped
    · next someLevel =>
      obtain ⟨levels, rfl⟩ := Nat.exists_eq_add_one_of_ne_zero someLevel
      split at skipped
      · next isStart =>
        cases isStart
        obtain ⟨inner, tail, remaining, rfl, fields, ends, rfl⟩ := closing_of_skipGroups skipped
        refine ⟨joined inner ++ tail, (List.append_assoc _ _ _).symm, .group ?_ ?_ ends⟩
        · exact fun field member => (fields field member).key
        · exact fun field member => (fields field member).content
      · next notStart =>
        obtain ⟨used, split, plain⟩ := (skipScalar_eq_ok_iff notStart).mp skipped
        exact ⟨used, split, .plain plain⟩
  · rintro ⟨used, rfl, content⟩
    rw [if_neg (Nat.ne_of_gt content.pos)]
    cases content with
    | plain plain =>
      rw [if_neg plain.ne_startGroup]
      exact (skipScalar_eq_ok_iff plain.ne_startGroup).mpr ⟨used, rfl, plain⟩
    | @group levels number inner tail keys contents ends =>
      have closes : skipGroups levels [number] (joined inner ++ tail ++ rest)
          = skipGroups (levels + 1) [] rest :=
        skipGroups_of_each (fun field member =>
          skipGroups_of_content (contents field member) (keys field member)) ends rest
      rw [if_pos rfl, Nat.add_sub_cancel, closes, skipGroups_nil]

end JobHooks.Wire
