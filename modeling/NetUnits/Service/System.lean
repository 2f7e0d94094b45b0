import NetUnits.Service.Basic

/-!
# The running system of hosts

* **`Service.apply`**, **`Service.links`** — devices and links.
* **`Service.global`**, **`Service.globalDocument`**, **`Service.setGlobal`** — the global
  configuration.
* **`Service.reload`**, **`Service.routes`**, **`Service.rules`**, **`Service.logs`** — what
  commands print.
-/

namespace NetUnits.Service

/-- **Makes a host use its configuration**, for devices or, if none is named, for all. -/
def apply (s : Service) (host : String) (devices : List String) :
    Action ServiceState (Except ServiceError Unit) :=
  s.call host (·.apply devices)

/-- **The links of a host.** -/
def links (s : Service) (host : String) : Action ServiceState (Except ServiceError (List Link)) :=
  s.call host Connector.links

/-- **The text of the global configuration.** -/
def global (s : Service) (host : String) : Action ServiceState (Except ServiceError String) :=
  s.call host Connector.readGlobal

/-- **The global configuration as a document.** -/
def globalDocument (s : Service) (host : String) :
    Action ServiceState (Except ServiceError Document) :=
  (s.global host).andThen fun text =>
  (s.hostGeneration host).andThen fun version => s.convert text .networkdConf version

/-- **A new text for the global configuration.** -/
def setGlobal (s : Service) (host text : String) : Action ServiceState (Except ServiceError Unit) :=
  (s.call host (·.writeGlobal text)).andThen fun _ => do
    Action.event .service .info s!"updated global configuration on {hostKey host}"
    return .ok ()

/-- **What the host prints when it reloads its configuration.** -/
def reload (s : Service) (host : String) : Action ServiceState (Except ServiceError String) :=
  s.call host Connector.reload

/-- **The routing tables.** -/
def routes (s : Service) (host : String) : Action ServiceState (Except ServiceError String) :=
  s.call host Connector.routes

/-- **The routing rules.** -/
def rules (s : Service) (host : String) : Action ServiceState (Except ServiceError String) :=
  s.call host Connector.rules

/-- **The newest lines of the journal.** -/
def logs (s : Service) (host : String) : Action ServiceState (Except ServiceError String) :=
  s.call host Connector.logs

end NetUnits.Service
