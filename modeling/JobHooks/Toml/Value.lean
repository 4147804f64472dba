import JobHooks.Toml.Number

/-!
# Values

The tree that a document describes.  `Item` is what stands under a key: a plain value, a list of
values, a table, or the sections of a repeated header.  The places of values in the text are kept,
so that a complaint about a value can point at it.

A table knows how it came to be, which decides what may still be added to it.  Nothing is added to a
table in braces.  A section may be opened once, but may have been implied before by the header of a
section inside it.  A table made by a key with dots takes more such keys, and no header.
`Table.assign`, `Table.openSection` and `Table.openRepeated` follow these rules; they return nothing
where one is broken.
-/

namespace JobHooks.Toml

set_option autoImplicit false

/-- A value without parts. -/
inductive Scalar where
  | text (value : String)
  | integer (value : Int)
  | float (value : Decimal.FloatValue)
  | boolean (value : Bool)
  | moment
  deriving Repr, DecidableEq, Inhabited

/-- A key and its place in the text. -/
structure Key where
  text : String
  span : Span
  deriving Repr, DecidableEq, Inhabited

/-- How a table came to be. -/
inductive TableForm where
  /-- Written in braces. -/
  | closed
  /-- The whole document, or opened by a header. -/
  | headed
  /-- Mentioned by the header of a section inside it. -/
  | implied
  /-- Made by a key with dots. -/
  | dotted
  deriving Repr, DecidableEq, Inhabited

/-- A table of items of some type: its entries in the order in which their keys came up, and its
place in the text, if it has one of its own. -/
structure TableOf (ι : Type) where
  form : TableForm
  span? : Option Span
  entries : List (Key × ι)
  deriving Repr, Inhabited

/-- What stands under a key. -/
inductive Item where
  | scalar (span : Span) (value : Scalar)
  | list (span : Span) (items : List Item)
  | table (table : TableOf Item)
  | sections (tables : List (TableOf Item))
  deriving Repr, Inhabited

/-- A table of a document. -/
abbrev Table := TableOf Item

namespace Item

/-- The place of an item in the text; what has been mentioned by keys alone has none.  The sections
of a repeated header reach from the first to the last. -/
def span? : Item → Option Span
  | scalar span _ => some span
  | list span _ => some span
  | table inner => inner.span?
  | sections tables => do
    let first ← tables.head?
    let last ← tables.getLast?
    return ⟨(← first.span?).start, (← last.span?).stop⟩

end Item

namespace TableOf

/-- An empty table of a form. -/
def empty {ι : Type} (form : TableForm) (span? : Option Span) : TableOf ι := ⟨form, span?, []⟩

/-- The item under a key. -/
def get? {ι : Type} (table : TableOf ι) (key : String) : Option ι :=
  (table.entries.find? fun entry => entry.1.text == key).map (·.2)

/-- A table with an item put behind its entries. -/
def append {ι : Type} (table : TableOf ι) (key : Key) (item : ι) : TableOf ι :=
  { table with entries := table.entries ++ [(key, item)] }

/-- A table with another item under a key that it has. -/
def replace {ι : Type} (table : TableOf ι) (key : String) (item : ι) : TableOf ι :=
  { table with
    entries := table.entries.map fun entry =>
      if entry.1.text == key then (entry.1, item) else entry }

/-- A table without a key. -/
def erase {ι : Type} (table : TableOf ι) (key : String) : TableOf ι :=
  { table with entries := table.entries.filter fun entry => entry.1.text != key }

end TableOf

namespace Table

/-- Changes the table at the end of a path.  A table that is not there yet is made, in the form of
those that keys with dots make or of those that headers imply.  Of a repeated section the path goes
into the last one.  A key with dots does not go into a section. -/
def descend (dotted : Bool) (change : Table → Option Table) : List Key → Table → Option Table
  | [], table => change table
  | key :: path, table =>
    match table.get? key.text with
    | none => do
      let made : Table := .empty (if dotted then .dotted else .implied) none
      return table.append key (.table (← descend dotted change path made))
    | some (.table inner) =>
      if inner.form = .closed ∨ (dotted ∧ inner.form = .headed) then none
      else do return table.replace key.text (.table (← descend dotted change path inner))
    | some (.sections tables) => do
      let last ← tables.getLast?
      let changed ← descend dotted change path last
      return table.replace key.text (.sections (tables.dropLast ++ [changed]))
    | some (.scalar _ _) | some (.list _ _) => none

/-- Puts an item under a new key of a table, or of one that the keys in front lead to; the latter
must have been made by keys with dots alone. -/
def assign (path : List Key) (key : Key) (item : Item) : Table → Option Table :=
  descend true (fun table =>
    if (table.form = .dotted) = path.isEmpty then none
    else if (table.get? key.text).isSome then none
    else some (table.append key item)) path

/-- Opens the section of a header.  If it has been implied before, its entries stay, and it moves
behind the other entries. -/
def openSection (span : Span) (path : List Key) (key : Key) : Table → Option Table :=
  descend false (fun table =>
    match table.get? key.text with
    | none => some (table.append key (.table (.empty .headed (some span))))
    | some (.table inner) =>
      if inner.form = .implied then
        some ((table.erase key.text).append key
          (.table { inner with form := .headed, span? := some span }))
      else none
    | some _ => none) path

/-- Opens one more section of a repeated header. -/
def openRepeated (span : Span) (path : List Key) (key : Key) : Table → Option Table :=
  descend false (fun table =>
    let opened : Table := .empty .headed (some span)
    match table.get? key.text with
    | none => some (table.append key (.sections [opened]))
    | some (.sections tables) => some (table.replace key.text (.sections (tables ++ [opened])))
    | some _ => none) path

end Table

end JobHooks.Toml
