import Mathlib.Data.List.Nodup
import JobHooks.Toml.Document

/-!
# The keys of documents

No table of a document has a key twice, however deep it lies (`Document.distinct_of_read`).  So what
stands under a key does not depend on the side from which one looks for it.

`Item.Distinct` says this of an item with all that is in it.  A statement changes the table at the
end of a path, and `Table.Distinct.descend` says that what is kept there is kept by the whole; tables
in braces are filled in the same way while a value is read.
-/

namespace JobHooks.Toml

set_option autoImplicit false

/-! ## Entries by their keys -/

namespace TableOf

variable {ι : Type} {table : TableOf ι} {key : Key} {item : ι}

/-- The keys of a table, in the order in which they came up. -/
def keys (table : TableOf ι) : List String := table.entries.map (·.1.text)

theorem get?_eq_none_iff {name : String} : table.get? name = none ↔ name ∉ table.keys := by
  simp [get?, keys]

theorem mem_of_get? {name : String} (found : table.get? name = some item) :
    ∃ key, key.text = name ∧ (key, item) ∈ table.entries := by
  obtain ⟨⟨key, _⟩, first, rfl⟩ := Option.map_eq_some_iff.mp found
  exact ⟨key, by simpa using List.find?_some first, List.mem_of_find?_eq_some first⟩

@[simp] theorem keys_append : (table.append key item).keys = table.keys ++ [key.text] := by
  simp [keys, append]

@[simp] theorem keys_replace {name : String} : (table.replace name item).keys = table.keys := by
  simp only [keys, replace, List.map_map]
  refine List.map_congr_left fun entry _ => ?_
  simp only [Function.comp_apply]
  split <;> rfl

theorem keys_erase {name : String} :
    (table.erase name).keys = table.keys.filter (· != name) := by
  simp only [keys, erase, List.filter_map]
  rfl

theorem get?_erase (table : TableOf ι) (name : String) : (table.erase name).get? name = none := by
  rw [get?_eq_none_iff, keys_erase]
  simp

end TableOf

/-! ## Items without a repeated key -/

/-- No table in an item has a key twice. -/
inductive Item.Distinct : Item → Prop
  | scalar (span : Span) (value : Scalar) : Distinct (.scalar span value)
  | list (span : Span) {items : List Item} (inside : ∀ item ∈ items, Distinct item) :
    Distinct (.list span items)
  | table {inner : TableOf Item} (keys : inner.keys.Nodup)
    (inside : ∀ entry ∈ inner.entries, Distinct entry.2) : Distinct (.table inner)
  | sections {tables : List (TableOf Item)} (keys : ∀ inner ∈ tables, inner.keys.Nodup)
    (inside : ∀ inner ∈ tables, ∀ entry ∈ inner.entries, Distinct entry.2) :
    Distinct (.sections tables)

/-- Neither a table nor any table in it has a key twice. -/
structure Table.Distinct (table : Table) : Prop where
  keys : table.keys.Nodup
  inside : ∀ entry ∈ table.entries, entry.2.Distinct

namespace Item

theorem distinct_table_iff {inner : Table} : (table inner).Distinct ↔ inner.Distinct := by
  constructor
  · intro distinct
    cases distinct with
    | table keys inside => exact ⟨keys, inside⟩
  · rintro ⟨keys, inside⟩
    exact .table keys inside

theorem distinct_sections_iff {tables : List Table} :
    (sections tables).Distinct ↔ ∀ inner ∈ tables, Table.Distinct inner := by
  constructor
  · intro distinct inner member
    cases distinct with
    | sections keys inside => exact ⟨keys inner member, inside inner member⟩
  · intro each
    exact .sections (fun inner member => (each inner member).keys)
      fun inner member => (each inner member).inside

end Item

namespace Table

theorem distinct_empty (form : TableForm) (span? : Option Span) :
    Distinct (.empty form span?) :=
  ⟨List.nodup_nil, fun _ member => absurd member List.not_mem_nil⟩

namespace Distinct

variable {table changed : Table} {key : Key} {name : String} {item : Item}

/-- Nothing but its entries matters. -/
theorem of_entries (distinct : table.Distinct) (same : changed.entries = table.entries) :
    changed.Distinct := by
  refine ⟨?_, same ▸ distinct.inside⟩
  rw [TableOf.keys, same]
  exact distinct.keys

theorem get? (distinct : table.Distinct) (found : table.get? name = some item) :
    item.Distinct := by
  obtain ⟨key, -, member⟩ := TableOf.mem_of_get? found
  exact distinct.inside _ member

theorem append (distinct : table.Distinct) (missing : table.get? key.text = none)
    (new : item.Distinct) : Distinct (table.append key item) := by
  constructor
  · rw [TableOf.keys_append]
    refine List.nodup_append.mpr ⟨distinct.keys, List.nodup_singleton _, ?_⟩
    intro name old other last same
    rw [List.mem_singleton.mp last] at same
    exact TableOf.get?_eq_none_iff.mp missing (same ▸ old)
  · exact List.forall_mem_append.mpr ⟨distinct.inside, List.forall_mem_singleton.mpr new⟩

theorem replace (distinct : table.Distinct) (new : item.Distinct) :
    Distinct (table.replace name item) := by
  constructor
  · rw [TableOf.keys_replace]
    exact distinct.keys
  · intro entry member
    obtain ⟨old, before, rfl⟩ := List.mem_map.mp member
    split
    · exact new
    · exact distinct.inside old before

theorem erase (distinct : table.Distinct) : Distinct (table.erase name) := by
  constructor
  · rw [TableOf.keys_erase]
    exact distinct.keys.filter _
  · exact fun entry member => distinct.inside entry (List.mem_of_mem_filter member)

end Distinct

/-! ## Statements -/

section

variable {table changed : Table} {path : List Key} {key : Key} {item : Item} {span : Span}
  {dotted : Bool}

/-- **What is kept at the end of a path is kept by the whole.** -/
theorem Distinct.descend {change : Table → Option Table}
    (keeps : ∀ inner result, Distinct inner → change inner = some result → Distinct result)
    (distinct : table.Distinct) (done : descend dotted change path table = some changed) :
    changed.Distinct := by
  induction path generalizing table changed with
  | nil => exact keeps table changed distinct done
  | cons key path ih =>
    rw [Table.descend] at done
    split at done
    · next missing =>
      obtain ⟨filled, inside, rfl⟩ : ∃ filled, _ ∧ table.append key (.table filled) = changed := by
        simpa [Option.bind_eq_some_iff] using done
      exact distinct.append missing (Item.distinct_table_iff.mpr (ih (distinct_empty _ _) inside))
    · next inner found =>
      split at done
      · cases done
      · obtain ⟨filled, inside, rfl⟩ :
            ∃ filled, _ ∧ table.replace key.text (.table filled) = changed := by
          simpa [Option.bind_eq_some_iff] using done
        have old : Distinct inner := Item.distinct_table_iff.mp (distinct.get? found)
        exact distinct.replace (Item.distinct_table_iff.mpr (ih old inside))
    · next tables found =>
      obtain ⟨last, ending, filled, inside, rfl⟩ : ∃ last, tables.getLast? = some last
          ∧ ∃ filled, _
            ∧ table.replace key.text (.sections (tables.dropLast ++ [filled])) = changed := by
        simpa [Option.bind_eq_some_iff] using done
      have old := Item.distinct_sections_iff.mp (distinct.get? found)
      refine distinct.replace (Item.distinct_sections_iff.mpr (List.forall_mem_append.mpr ⟨?_, ?_⟩))
      · exact fun inner member => old inner (List.dropLast_subset tables member)
      · exact List.forall_mem_singleton.mpr (ih (old last (List.mem_of_getLast? ending)) inside)
    · cases done
    · cases done

theorem Distinct.assign (distinct : table.Distinct) (new : item.Distinct)
    (done : assign path key item table = some changed) : changed.Distinct := by
  refine distinct.descend (fun inner result old put => ?_) done
  split at put
  · cases put
  split at put
  · cases put
  · next missing =>
    cases put
    exact old.append (by simpa using missing) new

theorem Distinct.openSection (distinct : table.Distinct)
    (done : openSection span path key table = some changed) : changed.Distinct := by
  refine distinct.descend (fun inner result old put => ?_) done
  split at put
  · next missing =>
    cases put
    exact old.append missing (Item.distinct_table_iff.mpr (distinct_empty _ _))
  · next implied found =>
    split at put
    · cases put
      have moved : Distinct implied := Item.distinct_table_iff.mp (old.get? found)
      exact old.erase.append (TableOf.get?_erase _ _)
        (Item.distinct_table_iff.mpr (moved.of_entries rfl))
    · cases put
  · cases put

theorem Distinct.openRepeated (distinct : table.Distinct)
    (done : openRepeated span path key table = some changed) : changed.Distinct := by
  have opened : Distinct (.empty .headed (some span)) := distinct_empty _ _
  refine distinct.descend (fun inner result old put => ?_) done
  split at put
  · next missing =>
    cases put
    exact old.append missing
      (Item.distinct_sections_iff.mpr (List.forall_mem_singleton.mpr opened))
  · next tables found =>
    cases put
    exact old.replace (Item.distinct_sections_iff.mpr (List.forall_mem_append.mpr
      ⟨Item.distinct_sections_iff.mp (old.get? found), List.forall_mem_singleton.mpr opened⟩))
  · cases put

end

end Table

/-! ## Values -/

section

variable {α : Type} {P : α → Prop} {item : Scan α}

/-- What holds of everything that a scanner finds holds of all that are found in a row. -/
theorem forall_mem_many
    (sound : ∀ input found rest, item input = some (found, rest) → P found) (input : List Char) :
    ∀ found ∈ (many item input).1, P found := by
  fun_induction many item input with
  | case1 => exact fun _ member => absurd member List.not_mem_nil
  | case2 input first rest scanned _ others left same ih =>
    rw [same] at ih
    exact List.forall_mem_cons.mpr ⟨sound _ _ _ scanned, ih⟩
  | case3 => exact fun _ member => absurd member List.not_mem_nil

theorem forall_mem_separated
    (sound : ∀ input found rest, item input = some (found, rest) → P found) (separator : Char)
    (input : List Char) : ∀ found ∈ (separated item separator input).1, P found := by
  unfold separated
  split
  · exact fun _ member => absurd member List.not_mem_nil
  · next first rest scanned =>
    refine List.forall_mem_cons.mpr ⟨sound _ _ _ scanned, forall_mem_many ?_ rest⟩
    intro tail found left behind
    split at behind
    · split at behind
      · exact sound _ _ _ behind
      · cases behind
    · cases behind

end

section

variable {item : Item} {input rest : List Char} {inner : Scan Item}

theorem distinct_of_listValue
    (sound : ∀ input item rest, inner input = some (item, rest) → item.Distinct)
    (found : listValue inner input = some (item, rest)) : item.Distinct := by
  simp only [listValue, Option.bind_eq_bind, Option.bind_eq_some_iff, Option.pure_def,
    Option.some.injEq, Prod.mk.injEq] at found
  obtain ⟨opened, -, closed, -, rfl, -⟩ := found
  refine .list _ (forall_mem_separated ?_ ',' opened)
  intro tail element left scanned
  simp only [listItem, Option.bind_eq_bind, Option.bind_eq_some_iff, Option.pure_def,
    Option.some.injEq, Prod.mk.injEq, Prod.exists] at scanned
  obtain ⟨_, _, read, rfl, -⟩ := scanned
  exact sound _ _ _ read

theorem distinct_of_assignment {path : List Key × Key}
    (sound : ∀ input item rest, inner input = some (item, rest) → item.Distinct)
    (found : assignment inner input = some ((path, item), rest)) : item.Distinct := by
  simp only [assignment, Option.bind_eq_bind, Option.bind_eq_some_iff, Option.pure_def,
    Option.some.injEq, Prod.mk.injEq, Prod.exists] at found
  obtain ⟨_, _, _, _, _, _, _, _, read, ⟨-, rfl⟩, -⟩ := found
  exact sound _ _ _ read

/-- Assignments one after the other keep the keys of a table apart. -/
theorem distinct_of_assignments {assignments : List ((List Key × Key) × Item)}
    {table filled : Table} (distinct : table.Distinct)
    (values : ∀ found ∈ assignments, found.2.Distinct)
    (done : assignments.foldlM (fun table found => Table.assign found.1.1 found.1.2 found.2 table)
      table = some filled) : filled.Distinct := by
  induction assignments generalizing table with
  | nil =>
    cases done
    exact distinct
  | cons found assignments ih =>
    obtain ⟨first, later⟩ := List.forall_mem_cons.mp values
    rw [List.foldlM_cons, Option.bind_eq_bind, Option.bind_eq_some_iff] at done
    obtain ⟨next, put, done⟩ := done
    exact ih (distinct.assign first put) later done

theorem distinct_of_bracedValue
    (sound : ∀ input item rest, inner input = some (item, rest) → item.Distinct)
    (found : bracedValue inner input = some (item, rest)) : item.Distinct := by
  simp only [bracedValue, Option.bind_eq_bind, Option.bind_eq_some_iff, Option.pure_def,
    Option.some.injEq, Prod.mk.injEq] at found
  obtain ⟨opened, -, closed, -, filled, done, rfl, -⟩ := found
  refine Item.distinct_table_iff.mpr
    (distinct_of_assignments (Table.distinct_empty _ _) (forall_mem_separated ?_ ',' opened) done)
  rintro tail ⟨path, element⟩ left scanned
  simp only [spacedAssignment, Option.bind_eq_bind, Option.bind_eq_some_iff, Option.pure_def,
    Option.some.injEq, Prod.mk.injEq, Prod.exists] at scanned
  obtain ⟨_, _, _, _, read, ⟨-, rfl⟩, -⟩ := scanned
  exact distinct_of_assignment sound read

/-- **No table in a value has a key twice.** -/
theorem distinct_of_value {levels : Nat} (found : value levels input = some (item, rest)) :
    item.Distinct := by
  induction levels generalizing input item rest with
  | zero =>
    simp only [value, Option.orElse_eq_orElse, Option.orElse_eq_or, Option.or_none,
      Option.map_eq_some_iff, Prod.mk.injEq, Prod.exists, exists_eq_right_right] at found
    obtain ⟨_, -, rfl⟩ := found
    exact .scalar _ _
  | succ levels ih =>
    have sound : ∀ input item rest, value levels input = some (item, rest) → item.Distinct :=
      fun _ _ _ => ih
    simp only [value, Option.orElse_eq_orElse, Option.orElse_eq_or, Option.or_eq_some_iff,
      Option.map_eq_some_iff, Prod.mk.injEq, Prod.exists, exists_eq_right_right] at found
    rcases found with ⟨_, -, rfl⟩ | ⟨-, listed | ⟨-, braced⟩⟩
    · exact .scalar _ _
    · exact distinct_of_listValue sound listed
    · exact distinct_of_bracedValue sound braced

end

/-! ## Documents -/

/-- No table in what a line says has a key twice. -/
def Statement.Distinct : Statement → Prop
  | assign _ _ item => item.Distinct
  | header _ _ _ | repeatedHeader _ _ _ => True

section

variable {input rest : List Char} {said : Statement}

theorem distinct_of_statement (found : statement input = some (said, rest)) : said.Distinct := by
  unfold statement at found
  split at found
  · simp only [repeatedHeader, Option.bind_eq_bind, Option.bind_eq_some_iff, Option.pure_def,
      Option.some.injEq, Prod.mk.injEq, Prod.exists] at found
    obtain ⟨_, _, _, _, _, _, _, _, rfl, -⟩ := found
    trivial
  · simp only [header, Option.bind_eq_bind, Option.bind_eq_some_iff, Option.pure_def,
      Option.some.injEq, Prod.mk.injEq, Prod.exists] at found
    obtain ⟨_, _, _, _, _, _, _, _, rfl, -⟩ := found
    trivial
  · simp only [assignLine, Option.bind_eq_bind, Option.bind_eq_some_iff, Option.pure_def,
      Option.some.injEq, Prod.mk.injEq, Prod.exists] at found
    obtain ⟨_, _, _, _, read, rfl, -⟩ := found
    exact distinct_of_assignment (fun _ _ _ => distinct_of_value) read

theorem distinct_of_line {said? : Option Statement} (found : line input = some (said?, rest)) :
    ∀ said ∈ said?, said.Distinct := by
  intro said member
  obtain rfl := Option.mem_def.mp member
  simp only [line] at found
  split at found
  · cases found
  · simp only [Option.bind_eq_bind, Option.bind_eq_some_iff, Option.pure_def, Option.some.injEq,
      Prod.mk.injEq, Prod.exists] at found
    obtain ⟨_, _, read, _, _, rfl, -⟩ := found
    exact distinct_of_statement read

theorem distinct_of_statements {all : List Statement} (found : statements input = some all) :
    ∀ said ∈ all, said.Distinct := by
  simp only [statements] at found
  have lines : ∀ said? ∈ (many line input).1, ∀ said ∈ said?, said.Distinct :=
    forall_mem_many (fun _ _ _ => distinct_of_line) input
  split at found
  · cases found
    intro said member
    obtain ⟨said?, listed, same⟩ := List.mem_filterMap.mp member
    exact lines said? listed said same
  · cases found

end

namespace Document

variable {document next : Document} {said : Statement}

/-- **A statement keeps the keys of a document apart.** -/
theorem distinct_of_apply (distinct : document.root.Distinct) (new : said.Distinct)
    (done : document.apply said = some next) : next.root.Distinct := by
  cases said with
  | header span path key =>
    obtain ⟨root, opened, rfl⟩ : ∃ root, _ ∧ Document.mk root (path ++ [key]) = next := by
      simpa [apply, Option.bind_eq_some_iff] using done
    exact distinct.openSection opened
  | repeatedHeader span path key =>
    obtain ⟨root, opened, rfl⟩ : ∃ root, _ ∧ Document.mk root (path ++ [key]) = next := by
      simpa [apply, Option.bind_eq_some_iff] using done
    exact distinct.openRepeated opened
  | assign path key item =>
    obtain ⟨root, put, rfl⟩ : ∃ root, _ ∧ { document with root } = next := by
      simpa [apply, Option.bind_eq_some_iff] using done
    refine distinct.descend (fun inside result old put => ?_) put
    simp only [assignInSection] at put
    refine Table.Distinct.assign ?_ new put
    exact old.of_entries rfl

/-- **No table of a document has a key twice.** -/
theorem distinct_of_read {text : String} {table : Table} (found : read text = some table) :
    table.Distinct := by
  obtain ⟨all, said, found⟩ := Option.bind_eq_some_iff.mp found
  obtain ⟨last, done, rfl⟩ := Option.map_eq_some_iff.mp found
  have new := distinct_of_statements said
  have start : empty.root.Distinct := Table.distinct_empty _ _
  clear said found
  generalize empty = document at start done
  induction all generalizing document with
  | nil =>
    cases done
    exact start
  | cons said all ih =>
    obtain ⟨first, later⟩ := List.forall_mem_cons.mp new
    rw [List.foldlM_cons, Option.bind_eq_bind, Option.bind_eq_some_iff] at done
    obtain ⟨next, put, done⟩ := done
    exact ih later next (distinct_of_apply start first put) done

end Document

end JobHooks.Toml
