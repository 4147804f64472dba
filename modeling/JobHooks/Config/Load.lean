import JobHooks.Config.Environment
import JobHooks.Config.Validate
import JobHooks.Notice
import JobHooks.Path

/-!
# Loading a configuration

A configuration is made of three layers: the defaults, on top of them a file, and on top of that the
environment.  Only what comes out of all three is validated.  A file that is named but does not
exist is as good as none; a file that cannot be read, is no document, or has a value that does not
suit its setting ends the loading.
-/

namespace JobHooks

set_option autoImplicit false

/-- What is found under the path of a file. -/
inductive FileState where
  | missing
  | directory
  | socket
  | regular (content : Bytes)
  deriving Repr, DecidableEq, Inhabited

/-- The entries of a directory by name. -/
abbrev Directory := List (String × FileState)

/-- What is found under a path that starts in a directory. -/
def Directory.find (directory : Directory) (path : String) : FileState :=
  match Path.entry? path with
  | some name => (directory.lookup name).getD .missing
  | none => if Path.isDirectory path then .directory else .missing

/-- A file that is named: its path and what is found there. -/
structure NamedFile where
  path : String
  state : FileState
  deriving Repr, DecidableEq, Inhabited

/-- The text of a file. -/
def FileState.text : FileState → Except FileFault String
  | missing => .error .missing
  | directory => .error .isDirectory
  | socket => .error .isSocket
  | regular content =>
    match Text.decode? content with
    | some text => .ok text
    | none => .error .notText

namespace Config

/-- The configuration that the text of a document gives. -/
def parse (text : String) : Except ConfigError Config :=
  match Toml.Document.read text with
  | none => .error .malformed
  | some table =>
    match Config.ofTable table with
    | .ok config => .ok config
    | .error complaint =>
      .error (.mismatch (.ofSpan text complaint.span) complaint.mismatch)

/-- The configuration that a file gives, neither overridden nor validated. -/
def ofFile (file : FileState) : Except ConfigError Config :=
  match file.text with
  | .error fault => .error (.unreadable fault)
  | .ok text => parse text

/-- What is reported about a file on loading. -/
def loadNotices : Option NamedFile → List Notice
  | none => []
  | some ⟨path, .missing⟩ => [.fileMissing path]
  | some ⟨path, _⟩ => [.loadingFile path]

/-- The configuration below the environment: that of a file if there is one, or the defaults. -/
def base : Option NamedFile → Except ConfigError Config
  | none => .ok {}
  | some ⟨_, .missing⟩ => .ok {}
  | some ⟨_, state⟩ => ofFile state

/-- The configuration that a file and the environment give together. -/
def load (file : Option NamedFile) (environment : Environment) : Except ConfigError Config := do
  (← base file).withEnvironment environment |>.validate

end Config

end JobHooks
