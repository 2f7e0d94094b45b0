import NetUnits.Connector.Pool
import NetUnits.Document.Conversion
import NetUnits.Schema.Store
import NetUnits.Service.Error
import NetUnits.Settings.Basic

/-!
# The service

The service joins schemas, conversion and hosts. For each host it remembers which generation of
schemas fits the systemd version there.

* **`Service`** — what the service is made from; **`ServiceState`** its state.
* **`Service.start`** — the service of settings.
* **`Service.call`** — an operation on a host.
* **`Service.hostGeneration`** — the generation for a host; **`Service.invalidate`** forgets a
  host.
* **`Service.convert`**, **`Service.render`** — between text and documents.
-/

namespace NetUnits

/-- **What the service is made from.** -/
structure Service where
  /-- The settings. -/
  settings : Settings
  /-- The installed schemas. -/
  store : SchemaStore
  /-- The ways to hosts. -/
  pool : ConnectorPool
deriving Inhabited

/-- **The state of the service.** -/
structure ServiceState where
  /-- What connectors share. -/
  pool : PoolState
  /-- The schemas loaded so far. -/
  schemas : LoadedSchemas := []
  /-- The generation of each host for which it was asked. -/
  generations : Dict Nat := ∅
deriving Inhabited

namespace ServiceState

/-- What connectors share, as a part of the state. -/
def poolPart : Action.Part ServiceState PoolState where
  get := pool
  set := fun pool s => { s with pool }

/-- The schemas loaded so far, as a part of the state. -/
def schemaPart : Action.Part ServiceState LoadedSchemas where
  get := schemas
  set := fun schemas s => { s with schemas }

end ServiceState

namespace Service

variable {α : Type}

/-! ## Beginning and end -/

/-- The service of settings, with a store and a way to open sessions. -/
def ofParts (settings : Settings) (store : SchemaStore) (transport : Transport) : Service where
  settings := settings
  store := store
  pool := {
    here := { configDir := settings.configDir, globalConfig := settings.globalConfig }
    transport := transport
    settings := settings.remote }

/-- The `ssh` client of settings. -/
def sshClient (settings : RemoteSettings) : SshClient where
  controlDir := settings.controlDir
  connectTimeout := settings.connectTimeout

/-- The first state of a service with a registry. Sessions are counted on. -/
def firstState (registry : Registry) (before : ServiceState) : ServiceState where
  pool := { registry := registry, opened := before.pool.opened }

/-- **The service of settings.** Its state is the first one. -/
def start (settings : Settings) : Action ServiceState (Except ServiceError Service) := do
  let store ← SchemaStore.openAt settings.schemaDir settings.defaultGeneration
  match ← Registry.load settings.dataDir with
  | .error e => return .error (.host e)
  | .ok registry => do
    Action.change fun s => ((), firstState registry s)
    return .ok (ofParts settings store (.ssh (sshClient settings.remote)))

/-- **The end of the service**: its sessions are closed. -/
def shutDown : Action ServiceState Unit :=
  ConnectorPool.shutDown.inside ServiceState.poolPart

/-! ## Hosts -/

/-- An action on the registry of hosts. -/
def onRegistry (x : Action Registry α) : Action ServiceState α :=
  (x.inside PoolState.registryPart).inside ServiceState.poolPart

/-- **An operation on a host**, with the deadline of the settings. -/
def call (s : Service) (host : String)
    (operation : Connector → Action PoolState (Except ConnectorError α)) :
    Action ServiceState (Except ServiceError α) := do
  match ← (s.pool.call host operation).inside ServiceState.poolPart with
  | .ok a => return .ok a
  | .error e => return .error (.connector e)

/-- The name under which a host is remembered. -/
def hostKey (host : String) : String :=
  if host.isEmpty then localName else host

/-- Remembers the generation of a host. -/
def remember (key : String) (generation : Nat) : Action ServiceState Unit :=
  Action.change fun s => ((), { s with generations := s.generations.insert key generation })

/-- The generation for what the version command of a host prints. -/
def generationOf (s : Service) (key output : String) : Action ServiceState Nat := do
  let detected := (Version.ofProbe? output).elim "" toString
  if detected.isEmpty then
    Action.event .service .warn s!"could not detect systemd version on {key}, using default schema"
  let generation := s.store.resolve detected
  Action.event .service .info s!"{key}: systemd {detected} uses schema generation v{generation}"
  return generation

/-- **The generation that fits a host.** It is found out once. -/
def hostGeneration (s : Service) (host : String) :
    Action ServiceState (Except ServiceError Nat) := do
  match (← Action.look).generations.get? (hostKey host) with
  | some generation => return .ok generation
  | none =>
    (s.call host fun c => return .ok (← c.version)).andThen fun output => do
      let generation ← s.generationOf (hostKey host) output
      remember (hostKey host) generation
      return .ok generation

/-- **Forgets a host**: its connector and its generation. -/
def invalidate (host : String) : Action ServiceState Unit := do
  (ConnectorPool.invalidate host).inside ServiceState.poolPart
  Action.change fun s => ((), { s with generations := s.generations.erase host })

/-! ## Conversion -/

/-- What a generation is without any schema. -/
def untyped (version : Nat) : Generation :=
  .ofDocuments version 0 (PerKind.ofFn fun _ => none)

/-- The schemas of a generation. Where none are installed at all, nothing is known of types. -/
def schemasOf (s : Service) (version : Nat) :
    Action ServiceState (Except ServiceError Generation) := do
  if s.store.available.isEmpty then
    Action.event .service .warn s!"no schemas installed, converting v{version} untyped"
    return .ok (untyped version)
  else
    match ← (s.store.generation version).inside ServiceState.schemaPart with
    | .ok generation => return .ok generation
    | .error e => return .error (.schema e)

/-- The sections that may be written several times: those of a generation and of the settings. -/
def repeatable (s : Service) (generation : Generation) : Repeatable :=
  generation.repeatable.mergedWith s.settings.repeatable

/-- The document of a text, for a generation. -/
def documentOf (s : Service) (generation : Generation) (kind : Kind) (text : String) :
    Except UnitFile.Error Document :=
  Document.ofText text generation.types (s.repeatable generation) kind

/-- An error of a unit file as one of the service. -/
def ofUnitFile : Except UnitFile.Error α → Except ServiceError α
  | .ok a => .ok a
  | .error e => .error (.unitFile e)

/-- **The document of a text.** -/
def convert (s : Service) (text : String) (kind : Kind) (version : Nat) :
    Action ServiceState (Except ServiceError Document) :=
  (s.schemasOf version).andThen fun generation =>
    return ofUnitFile (s.documentOf generation kind text)

/-- **The text of a document.** -/
def render (s : Service) (document : Document) (kind : Kind) (version : Nat) :
    Action ServiceState (Except ServiceError String) :=
  (s.schemasOf version).andThen fun generation =>
    return ofUnitFile (document.toText generation.types kind)

end Service

end NetUnits
