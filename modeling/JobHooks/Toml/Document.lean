import JobHooks.Toml.Grammar

/-!
# Documents

Reading a document: its lines fill one table, the sections in it are tables inside, and each
assignment goes to the section opened last.  `Document.read` returns the table, or nothing if the
text is no document.
-/

namespace JobHooks.Toml

set_option autoImplicit false

/-- A document while it is read: all that has been said so far, and the path of the section in which
assignments are. -/
structure Document where
  root : Table
  current : List Key
  deriving Repr, Inhabited

namespace Document

/-- A document in which nothing has been said. -/
def empty : Document := ⟨.empty .headed none, []⟩

/-- Puts an item into a section.  A section that has a place in the text reaches to the end of the
last value in it. -/
def assignInSection (path : List Key) (key : Key) (item : Item) (inside : Table) : Option Table :=
  let reached : Option Span :=
    match inside.span?, item.span? with
    | some span, some last => some ⟨span.start, last.stop⟩
    | span?, _ => span?
  Table.assign path key item { inside with span? := reached }

/-- A document after one more statement. -/
def apply (document : Document) : Statement → Option Document
  | .header span path key => do
    return ⟨← Table.openSection span path key document.root, path ++ [key]⟩
  | .repeatedHeader span path key => do
    return ⟨← Table.openRepeated span path key document.root, path ++ [key]⟩
  | .assign path key item => do
    let root ← Table.descend false (assignInSection path key item) document.current document.root
    return { document with root }

/-- The document that statements make up. -/
def ofStatements (statements : List Statement) : Option Table :=
  (statements.foldlM apply empty).map (·.root)

/-- The characters behind a mark of the byte order, which may stand in front of a text. -/
def skipMark : List Char → List Char
  | '\uFEFF' :: rest => rest
  | input => input

/-- The table that a text describes. -/
def read (text : String) : Option Table :=
  (statements (skipMark text.toList)).bind ofStatements

end Document

end JobHooks.Toml
