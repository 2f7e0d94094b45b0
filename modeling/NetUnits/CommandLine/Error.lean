import NetUnits.Service.Error
import NetUnits.Settings.Load

/-!
# Errors of commands

* **`CommandError`** — why a command failed.
* **`CommandError.failure`** — its text and the texts of its causes.
* **`Failure.report`** — what is written at the end of the program.
-/

namespace NetUnits

/-- What is said in place of the words of a JSON reader. -/
def jsonComplaint : String := "<json>"

/-- What caused an error of a schema. -/
def SchemaError.causes : SchemaError → List String
  | .unreadable _ fault => [fault.message]
  | .invalidJson _ => [jsonComplaint]
  | _ => []

/-- What caused an error of a unit file. -/
def UnitFile.Error.causes : UnitFile.Error → List String
  | .unreadable _ fault => [fault.message]
  | _ => []

/-- What caused an error of a host. -/
def ConnectorError.causes : ConnectorError → List String
  | .io _ fault => [fault.message]
  | _ => []

/-- What caused an error of the registry. -/
def HostError.causes : HostError → List String
  | .io _ fault => [fault.message]
  | .invalidJson _ => [jsonComplaint]
  | _ => []

/-- What caused an error of the service. -/
def ServiceError.causes : ServiceError → List String
  | .schema e => e.message :: e.causes
  | .unitFile e => e.message :: e.causes
  | .connector e => e.message :: e.causes
  | .host e => e.message :: e.causes
  | .invalidFilename _ | .unknownKind _ => []

namespace CommandLine

/-- **Why a command failed.** -/
inductive CommandError where
  /-- An operation of the service failed. -/
  | service (e : ServiceError)
  /-- The registry of hosts refused a change. -/
  | registry (e : HostError)
  /-- The settings cannot be used. -/
  | settings (f : Failure)
  /-- The input cannot be read. -/
  | input (source : String) (fault : Fault)
  /-- The input is not a document. -/
  | notDocument
  /-- There is no host with the name. -/
  | notRegistered (name : String)
deriving DecidableEq

/-- **The text of an error and of its causes.** -/
def CommandError.failure : CommandError → Failure
  | .service e => ⟨e.message, e.causes⟩
  | .registry e => ⟨e.message, e.causes⟩
  | .settings f => f
  | .input source fault => ⟨s!"reading {source}", [fault.message]⟩
  | .notDocument => ⟨"input is not a configuration document", [jsonComplaint]⟩
  | .notRegistered name => ⟨s!"host '{name}' is not registered", []⟩

end CommandLine

namespace Failure

/-- A text whose lines after the first begin with a margin. -/
def withMargin (margin text : String) : String :=
  String.ofList (text.toList.flatMap fun c => if c = '\n' then c :: margin.toList else [c])

/-- The causes, each on a line of its own with its number. -/
def numbered (n : Nat) : List String → List String
  | [] => []
  | cause :: rest =>
    let number := toString n
    let margin := String.ofList (List.replicate (5 - number.length) ' ')
    ("\n" ++ margin ++ number ++ ": " ++ withMargin "       " cause) :: numbered (n + 1) rest

/-- What is said of causes; a single one has no number. -/
def causesText : List String → String
  | [] => ""
  | [cause] => "\n\nCaused by:\n    " ++ withMargin "    " cause
  | causes => "\n\nCaused by:" ++ String.join (numbered 0 causes)

/-- **What is written at the end of the program.** -/
def report (f : Failure) : String :=
  "Error: " ++ f.text ++ causesText f.causes ++ "\n"

end Failure

end NetUnits
