import NetUnits.Proofs.Action.Within
import NetUnits.Proofs.Connector.Lookup
import NetUnits.Proofs.Connector.Sending

/-! # Connectors that a pool makes

A pool hands out the connector for this machine, and those that it has made for registered hosts. As
long as it keeps no others, what a call asks for is told by what its operation asks of such
connectors.

* **`ConnectorPool.Makes`**, **`ConnectorPool.HandsOut`** — the connectors of a pool;
  **`ConnectorPool.KeepsOwn`** — no others are kept.
* **`Request.AllowsCalls`** — rules that allow what a call on a remote host asks for, beside its
  operation.
* **`ConnectorPool.callWithin_within`** — a call stays within rules if its operation does. -/

namespace NetUnits

open NetUnits.Action

/-- **Rules that allow calls on remote hosts**: a transport opens sessions, they are looked after
and closed, and locks are taken. -/
structure Request.AllowsCalls (p : Request → Prop) (t : Transport) : Prop
    extends Request.AllowsOpening p t where
  /-- A lock is taken. -/
  acquire : ∀ lock, p (.acquire lock)
  /-- It is given back. -/
  release : ∀ lock, p (.release lock)

theorem Request.AllowsCalls.toAllowsEnd {p : Request → Prop} {t : Transport}
    (hp : Request.AllowsCalls p t) : Request.AllowsEnd p :=
  ⟨hp.toAllowsUpkeep, hp.acquire _, hp.release _⟩

namespace ConnectorPool

variable {pool : ConnectorPool} {s s' : PoolState} {host : String} {α : Type} {p : Request → Prop}

/-- **A pool makes a connector** for some entry. -/
def Makes (pool : ConnectorPool) (k : RemoteConnector) : Prop :=
  ∃ entry number, k = pool.connectorFor entry number

/-- **A pool hands a connector out** for a host. -/
def HandsOut (pool : ConnectorPool) (host : String) : Connector → Prop
  | .here c => isLocalHost host = true ∧ c = pool.here
  | .remote k => isLocalHost host = false ∧ pool.Makes k

/-- **A pool keeps only connectors that it makes.** -/
def KeepsOwn (pool : ConnectorPool) (s : PoolState) : Prop :=
  ∀ host k, s.kept.get? host = some k → pool.Makes k

theorem keepsOwn_of_kept_empty (h : s.kept = ∅) : pool.KeepsOwn s :=
  fun host k hk => by simp [h] at hk

theorem KeepsOwn.of_fewer (h : pool.KeepsOwn s) (hs : s.Fewer s') : pool.KeepsOwn s' :=
  fun host k hk => h host k (hs host k hk)

/-- A new connector is one that the pool makes. -/
theorem KeepsOwn.create (h : pool.KeepsOwn s) (host : String) (entry : HostEntry) :
    pool.KeepsOwn (s.create host (pool.connectorFor entry)).2 := by
  intro host' k hk
  rw [PoolState.get?_kept_create] at hk
  split at hk
  · exact ⟨entry, _, (Option.some.inj hk).symm⟩
  · exact h host' k hk

/-! ## Calls -/

/-- **A lookup finds a connector that the pool makes.** -/
theorem lookup_within (hp : Request.AllowsCalls p pool.transport) (host : String) :
    (pool.lookup host).Within pool.KeepsOwn p
      fun result => ∀ k, result = .ok k → pool.Makes k := by
  refine Within.withLock (hp.acquire _) (hp.release _) ?_
  have htake : (change fun s : PoolState => s.take host).Within pool.KeepsOwn p
      fun taken => ∀ k, taken = some k → pool.Makes k := by
    refine within_change fun s hs => ⟨hs.of_fewer (s.quiet_take host).fewer, fun k hk => ?_⟩
    rw [PoolState.fst_take] at hk
    exact hs host k hk
  refine htake.bind fun taken htaken => ?_
  cases taken with
  | some k =>
    intro k' hk'
    obtain rfl := Except.ok.inj hk'
    exact htaken k rfl
  | none =>
    rw [get_inside]
    have hget : (withLock .registry (change fun s : PoolState =>
        (s.registry.hosts.get? host, s))).Obeys p fun s s' => s' = s :=
      Obeys.withLock (hp.acquire _) (hp.release _) (obeys_change fun _ => rfl)
    refine (hget.within fun s s' h hs => h ▸ hs).bind fun entry _ => ?_
    cases entry with
    | none => exact fun _ h => nomatch h
    | some entry =>
      have hcreate : (change fun s : PoolState => s.create host (pool.connectorFor entry)).Within
          pool.KeepsOwn p pool.Makes :=
        within_change fun s hs => ⟨hs.create host entry, entry, _, rfl⟩
      refine (within_request (hp.event _)).bind fun _ _ => hcreate.bind fun k hk k' hk' => ?_
      obtain rfl := Except.ok.inj hk'
      exact hk

theorem remote_within (hp : Request.AllowsCalls p pool.transport) (host : String) :
    (pool.remote host).Within pool.KeepsOwn p
      fun result => ∀ k, result = .ok k → pool.Makes k := by
  have hfewer : ∀ {β : Type} {x : Action PoolState β} {q : PoolState → PoolState → Prop},
      x.Obeys p q → (∀ s s', q s s' → s.Fewer s') → x.Within pool.KeepsOwn p fun _ => True :=
    fun hx hq => hx.within fun s s' h hs => hs.of_fewer (hq s s' h)
  refine (lookup_within hp host).andThen fun k hk => ?_
  have hconnect : (k.connect.inside (PoolState.wire k.number)).Obeys p
      (PoolState.Quiet (· = k.number)) := by
    obtain ⟨entry, number, rfl⟩ := hk
    exact (RemoteConnector.connect_obeys hp.toAllowsOpening (hp.acquire _) (hp.release _)).inside _
      fun s w _ => s.quiet_wire _ w
  refine (hfewer hconnect fun _ _ h => h.fewer).bind fun result _ => ?_
  cases result with
  | ok _ =>
    intro k' hk'
    obtain rfl := Except.ok.inj hk'
    exact hk
  | error e =>
    refine (hfewer (evict_obeys_of hp.toAllowsEnd host k) fun _ _ h => h.fewer).bind fun _ _ => ?_
    refine (hfewer (release_obeys_of hp.toAllowsUpkeep k) fun _ _ h => h.fewer).bind fun _ _ => ?_
    exact fun _ h => nomatch h

theorem get_within (hp : isLocalHost host = false → Request.AllowsCalls p pool.transport) :
    (pool.get host).Within pool.KeepsOwn p
      fun result => ∀ c, result = .ok c → pool.HandsOut host c := by
  cases hlocal : isLocalHost host with
  | true =>
    rw [get_of_isLocalHost pool hlocal]
    intro c hc
    obtain rfl := Except.ok.inj hc
    exact ⟨hlocal, rfl⟩
  | false =>
    rw [get_of_not_isLocalHost pool hlocal]
    refine (remote_within (hp hlocal) host).andThen fun k hk c hc => ?_
    obtain rfl := Except.ok.inj hc
    exact ⟨hlocal, hk⟩

/-- **A call stays within rules** that allow workers, and sessions and locks if the host is a remote
one, as long as its operation obeys them on the connectors that the pool hands out. -/
theorem callWithin_within (hworkers : Request.AllowsWorkers p)
    (hp : isLocalHost host = false → Request.AllowsCalls p pool.transport)
    {operation : Connector → Action PoolState (Except ConnectorError α)}
    (hoperation : ∀ c, pool.HandsOut host c → (operation c).Obeys p c.Changes) (secs : Nat) :
    (pool.callWithin secs host operation).Within pool.KeepsOwn p fun _ => True := by
  refine ((get_within hp).andThen (R := fun _ => True) fun c hc => ?_).mono fun _ _ => trivial
  have hend : ∀ k, c = .remote k → Request.AllowsEnd p := by
    rintro k rfl
    exact (hp hc.1).toAllowsEnd
  refine ((runOn_obeys_of hend hworkers (hoperation c hc) host secs).within fun s s' h hs =>
    hs.of_fewer h.fewer).mono fun _ _ _ _ => trivial

end ConnectorPool

end NetUnits
