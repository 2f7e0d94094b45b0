import NetUnits.Action.Basic
import NetUnits.Link.Listing

/-!
# Gathering links

The links of a host are asked for as JSON; where that does not work, as a table. Their addresses
are added if they can be had. A lost connection ends the gathering.

* **`Link.gather`** — the links, with a way to run a command.
-/

namespace NetUnits.Link

variable {σ : Type}

/-- The command for the links as JSON. -/
def jsonCommand : List String := ["networkctl", "list", "--json=short"]

/-- The command for the links as a table. -/
def textCommand : List String := ["networkctl", "list", "--no-legend"]

/-- The command for the addresses. -/
def addressCommand : List String := ["ip", "-j", "addr"]

/-- **The links of a JSON listing** that was asked for. -/
def fromJson (reply : Except ConnectorError CommandResult) : Except ConnectorError (List Link) := do
  let result ← (← reply).check (commandLine jsonCommand)
  match ofJsonListing? result.stdout with
  | some links => .ok links
  | none => .error (.invalidOutput (commandLine jsonCommand) (listingComplaint result.stdout))

/-- **The links of a table** that was asked for. -/
def fromText (reply : Except ConnectorError CommandResult) : Except ConnectorError (List Link) := do
  let result ← (← reply).check (commandLine textCommand)
  return ofTextListing result.stdout

/-- The links with the addresses of a listing that was asked for. -/
def addAddresses (links : List Link) (reply : Except ConnectorError CommandResult) :
    Action σ (Except ConnectorError (List Link)) :=
  match reply with
  | .ok result =>
    if result.success then
      match addressesOf? result.stdout with
      | some table => return .ok (links.map (withAddresses table))
      | none => do
        Action.event .links .debug s!"ignoring unparsable ip -j addr output: {jsonComplaint}"
        return .ok links
    else do
      Action.event .links .debug s!"ip -j addr failed: {Text.trim result.combined}"
      return .ok links
  | .error e =>
    if e.isConnection then return .error e
    else do
      Action.event .links .debug s!"ip -j addr unavailable: {e.message}"
      return .ok links

/-- The links of the first listing that works. -/
def gatherListing (probe : List String → Action σ (Except ConnectorError CommandResult)) :
    Action σ (Except ConnectorError (List Link)) := do
  match fromJson (← probe jsonCommand) with
  | .ok links => return .ok links
  | .error e =>
    -- without a connection the table cannot be had either
    if e.isConnection then return .error e
    else
      Action.event .links .debug s!"JSON link listing unavailable, using text: {e.message}"
      return fromText (← probe textCommand)

/-- **The links of a host**, with a way to run a command there. -/
def gather (probe : List String → Action σ (Except ConnectorError CommandResult)) :
    Action σ (Except ConnectorError (List Link)) :=
  (gatherListing probe).andThen fun links => do
    addAddresses links (← probe addressCommand)

end NetUnits.Link
