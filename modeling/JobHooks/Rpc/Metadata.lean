import JobHooks.Panic
import JobHooks.Status
import JobHooks.Text.Base64
import JobHooks.Text.Percent

/-!
# Metadata

The names and values that travel with a response, in front of its body or behind it.  Among them may
be the status of the call: a code in decimal digits, a message in percent encoding, and details in
base 64, of which no use is made.  Details that are not in base 64 make the reader panic.
-/

namespace JobHooks.Rpc

set_option autoImplicit false

/-- Names and values.  Case does not count in names. -/
abbrev Metadata := List (String × String)

namespace Metadata

/-- The value of a name; the name is given in small letters. -/
def get? (metadata : Metadata) (name : String) : Option String :=
  (metadata.find? fun entry => entry.1.toLower == name).map (·.2)

/-- The code that digits stand for; digits that are not the shortest form of the number of a code
stand for `unknown`. -/
def codeOfText (text : String) : Code :=
  (Code.all.find? fun code => toString code.number == text).getD .unknown

/-- The message that a value in percent encoding stands for.  If it is no text, the status is
another one. -/
def messageOf (code : Code) (value : String) : Status :=
  let bytes := Text.percentDecode (Text.encode value)
  match Text.decode? bytes with
  | some message => ⟨code, message⟩
  | none =>
    ⟨.unknown, "Error deserializing status message header: "
      ++ ((Text.fault? bytes).map (·.message)).getD ""⟩

/-- What the reader of details panics with, if anything. -/
def detailsPanic? (metadata : Metadata) : Option Panic := do
  let fault ← Text.base64Fault? (Text.encode (← metadata.get? "grpc-status-details-bin"))
  return ⟨"Invalid status header, expected base64 encoded value: " ++ fault.text⟩

/-- The status of the call, if there is one.  Nothing else is looked at if there is no code. -/
def status? (metadata : Metadata) : Except Panic (Option Status) :=
  match metadata.get? "grpc-status", metadata.detailsPanic? with
  | none, _ => .ok none
  | some _, some panic => .error panic
  | some code, none =>
    match metadata.get? "grpc-message" with
    | some message => .ok (some (messageOf (codeOfText code) message))
    | none => .ok (some ⟨codeOfText code, ""⟩)

/-- The metadata that hold a status. -/
def ofStatus (status : Status) : Metadata :=
  ("grpc-status", toString status.code.number)
    :: if status.message = "" then []
      else
        [("grpc-message",
          (Text.decode? (Text.percentEncode (Text.encode status.message))).getD "")]

end Metadata

end JobHooks.Rpc
