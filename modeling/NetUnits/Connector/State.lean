import NetUnits.Connector.Remote
import NetUnits.Dict
import NetUnits.Host.Registry

/-!
# What connectors share

The connectors for remote hosts are kept by host, so that a session serves many operations. A
connector that is no longer kept may still be in use; its session is closed when its last user is
done.

* **`PoolState`** — the registry, the kept connectors, and the session of every connector.
* **`PoolState.take`** — a kept connector for one more user; **`PoolState.create`** a new one.
* **`PoolState.release`** — one user less; **`PoolState.evict`**, **`PoolState.forget`** — a
  connector kept no longer.
-/

namespace NetUnits

/-- **What belongs to a connector**, by its number. -/
structure ConnectorSlot where
  /-- The session, if one is held. -/
  session : Option Session := none
  /-- How many operations use the connector. -/
  users : Nat := 0
deriving DecidableEq, Inhabited

/-- **What connectors share.** -/
structure PoolState where
  /-- The registered hosts. -/
  registry : Registry
  /-- The connectors kept for hosts, by host. -/
  kept : Dict RemoteConnector := ∅
  /-- What belongs to each connector, by number. -/
  slots : List ConnectorSlot := []
  /-- How many sessions were opened so far. -/
  opened : Nat := 0
deriving Inhabited

namespace PoolState

/-- The registry as a part of the state. -/
def registryPart : Action.Part PoolState Registry where
  get := registry
  set := fun registry s => { s with registry }

/-- What a connector holds, as a part of the state. -/
def wire (number : Nat) : Action.Part PoolState Wire where
  get := fun s => { session := (s.slots[number]?).bind ConnectorSlot.session, opened := s.opened }
  set := fun w s => { s with
    slots := s.slots.modify number fun slot => { slot with session := w.session }
    opened := w.opened }

/-- The state with another count of users for a connector. -/
def withUsers (s : PoolState) (number : Nat) (f : Nat → Nat) : PoolState :=
  { s with slots := s.slots.modify number fun slot => { slot with users := f slot.users } }

/-- **The connector kept for a host**, with one more user. -/
def take (s : PoolState) (host : String) : Option RemoteConnector × PoolState :=
  match s.kept.get? host with
  | some c => (some c, s.withUsers c.number (· + 1))
  | none => (none, s)

/-- **A new connector for a host**, which is kept and has one user. -/
def create (s : PoolState) (host : String) (make : Nat → RemoteConnector) :
    RemoteConnector × PoolState :=
  let c := make s.slots.length
  (c, { s with kept := s.kept.insert host c, slots := s.slots ++ [{ users := 1 }] })

/-- Whether a connector is kept or in use. -/
def isNeeded (s : PoolState) (number : Nat) : Bool :=
  s.kept.values.any (fun c => c.number == number) ||
    (s.slots[number]?).any fun slot => slot.users != 0

/-- The session of a connector that is not needed any more, and the state without it. -/
def retire (s : PoolState) (number : Nat) : Option Session × PoolState :=
  if s.isNeeded number then (none, s)
  else
    ((s.slots[number]?).bind ConnectorSlot.session,
      { s with slots := s.slots.modify number fun slot => { slot with session := none } })

/-- **One user less** for a connector, and the session that must be closed now. -/
def release (s : PoolState) (number : Nat) : Option Session × PoolState :=
  (s.withUsers number (· - 1)).retire number

/-- **Keeps a connector no longer for a host**, unless another one is kept. Says whether it was
kept. -/
def evict (s : PoolState) (host : String) (c : RemoteConnector) : Bool × PoolState :=
  if (s.kept.get? host).any (·.number == c.number) then (true, { s with kept := s.kept.erase host })
  else (false, s)

/-- **Keeps no connector for a host.** Says whether one was kept, and gives the session that must
be closed now. -/
def forget (s : PoolState) (host : String) : Option (Option Session) × PoolState :=
  match s.kept.get? host with
  | none => (none, s)
  | some c =>
    let (session, s) := ({ s with kept := s.kept.erase host }).retire c.number
    (some session, s)

end PoolState

end NetUnits
