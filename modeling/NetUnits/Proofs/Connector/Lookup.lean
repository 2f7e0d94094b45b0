import NetUnits.Proofs.Action.Settled
import NetUnits.Proofs.Connector.GivingUp
import NetUnits.Proofs.Connector.Promises
import NetUnits.Proofs.Shell.Opening

/-! # Where connectors come from

A connector is made only in a lookup, from an entry that was read before under the same lock. All
that pools do otherwise keeps fewer connectors, and what goes on beside a call keeps the same.

* **`ConnectorPool.Arises`** — how a deed changes which connectors are kept, after what was done
  before; **`ConnectorPool.callWithin_each`** — all deeds of calls change it so.
* **`ConnectorPool.Discreet`** — what keeps the same connectors;
  **`ConnectorPool.callWithin_starts`** — all that goes on beside a call. -/

namespace NetUnits

open NetUnits.Action NetUnits.Deed

/-- No other connectors are kept than before. -/
def PoolState.Fewer (s s' : PoolState) : Prop :=
  ∀ host c, s'.kept.get? host = some c → s.kept.get? host = some c

theorem PoolState.Quiet.fewer {p : Nat → Prop} {s s' : PoolState} (h : PoolState.Quiet p s s') :
    s.Fewer s' :=
  fun _ _ hc => h.kept ▸ hc

namespace ConnectorPool

variable {α : Type} {pool : ConnectorPool} {host : String} {secs : Nat} {c : Connector}
  {operation : Operation α} {t u : List (Deed PoolState)} {d : Deed PoolState}

theorem Ends.fewer {s s' : PoolState} (h : Ends host c s s') : s.Fewer s' := by
  obtain ⟨remote, -, rfl⟩ | h := h
  · exact fun _ _ hc => (PoolState.get?_kept_evict_iff.1 hc).1
  · exact h.fewer

/-! ## What is kept -/

/-- **The entry for a host was read** from the registry, under its lock. -/
def Looked (host : String) (entry : HostEntry) (t : List (Deed PoolState)) : Prop :=
  ∃ t₁ s t₂, t = t₁ ++ .asked (.acquire .registry) () :: .changed s s :: t₂ ∧
    s.registry.hosts.get? host = some entry

/-- **How a deed changes which connectors are kept**: there are no others than before, or there is a
new one from an entry that was read since the lock of the kept connectors was taken. -/
inductive Arises (pool : ConnectorPool) (t : List (Deed PoolState)) (d : Deed PoolState) :
    Prop where
  /-- No other connectors are kept. -/
  | fewer (h : d.Obeys (fun _ => True) PoolState.Fewer)
  /-- A new connector is kept. -/
  | created {host : String} {entry : HostEntry} {s : PoolState} {u : List (Deed PoolState)}
    (held : since .connectors t = some u) (looked : Looked host entry u)
    (eq : d = .changed s (s.create host (pool.connectorFor entry)).2)

theorem arises_looksBack : LooksBack (Arises pool) := by
  rintro t₀ t d (h | ⟨hheld, hlooked, heq⟩)
  · exact .fewer h
  · exact .created (since_append_of_some hheld) hlooked heq

/-- What keeps no other connectors needs no reason. -/
theorem each_arises {x : Action PoolState α} {p : Request → Prop}
    {q : PoolState → PoolState → Prop} (h : x.Obeys p q) (hq : ∀ s s', q s s' → s.Fewer s') :
    x.Each (Arises pool) :=
  h.each fun _ d hd => .fewer (by
    cases d with
    | changed s s' => exact hq s s' hd
    | asked | forked => trivial)

theorem lookup_each (pool : ConnectorPool) (host : String) :
    (pool.lookup host).Each (Arises pool) := by
  refine each_withLock (.fewer trivial) ?_ fun _ _ _ => .fewer trivial
  refine each_bind (each_change fun s => .fewer (s.quiet_take host).fewer) fun t₁ taken htake => ?_
  obtain ⟨s, rfl, -⟩ := run_change_iff.1 htake
  cases taken with
  | some c => exact each_done _
  | none =>
    rw [get_inside]
    have hget : (withLock .registry (change fun s : PoolState =>
        (s.registry.hosts.get? host, s))).Obeys (fun _ => True) fun s s' => s' = s :=
      Obeys.withLock trivial trivial (obeys_change fun _ => rfl)
    refine each_bind (hget.each fun _ d hd => .fewer ?_) fun t₂ entry hentry => ?_
    · cases d with
      | changed s s' =>
        obtain rfl : s' = s := hd
        exact fun _ _ hc => hc
      | asked | forked => trivial
    obtain ⟨t₂, rfl, hlook⟩ := run_withLock_iff.1 hentry
    obtain ⟨s', rfl, rfl⟩ := run_change_iff.1 hlook
    cases hfound : s'.registry.hosts.get? host with
    | none => exact each_done _
    | some entry =>
      refine each_bind (each_request fun _ => .fewer trivial) fun t₃ _ htold => ?_
      obtain rfl := run_request_iff.1 htold
      refine each_bind (each_change fun s'' => ?_) fun _ _ _ => each_done _
      -- the entry was read between taking the lock of the connectors and now
      refine .created (since_cons_acquire fun e he => ?_)
        ⟨[.changed s (s.take host).2], s', _, rfl, hfound⟩ rfl
      simp only [List.cons_append, List.nil_append, List.append_nil, List.mem_cons,
        List.not_mem_nil, or_false] at he
      rcases he with rfl | rfl | rfl | rfl | rfl <;> simp [Spares]

theorem get_each (pool : ConnectorPool) (host : String) : (pool.get host).Each (Arises pool) := by
  have hends : ∀ {β : Type} {x : Action PoolState β} {c : RemoteConnector},
      x.Obeys (fun _ => True) (Ends host (.remote c)) → x.Each (Arises pool) := fun h =>
    each_arises h fun _ _ hs => hs.fewer
  rw [get]
  split
  · exact each_done _
  · refine Each.andThen arises_looksBack ?_ fun c => each_done _
    refine (lookup_each pool host).andThen arises_looksBack fun c => ?_
    refine (each_arises (connect_obeys c) fun _ _ hs => hs.fewer).bind arises_looksBack
      fun result => ?_
    cases result with
    | ok _ => exact each_done _
    | error e =>
      exact hends ((evict_obeys host c).bind fun _ =>
        Obeys.bind (drop_ends host (.remote c)) fun _ => trivial)

/-- **A call keeps a new connector only in its lookup.** -/
theorem callWithin_each (pool : ConnectorPool) (secs : Nat) (host : String)
    (operation : Operation α) : (pool.callWithin secs host operation.on).Each (Arises pool) :=
  (get_each pool host).andThen arises_looksBack fun c =>
    each_arises (runOn_obeys host secs c operation) fun _ _ hs => hs.fewer

theorem invalidate_each (pool : ConnectorPool) (host : String) :
    (invalidate host).Each (Arises pool) :=
  each_arises (invalidate_obeys host) fun _ _ hs _ _ hc =>
    (PoolState.get?_kept_forget_iff.1 (hs ▸ hc)).1

theorem callWithin_obeys (pool : ConnectorPool) (secs : Nat) (host : String)
    (operation : Operation α) :
    (pool.callWithin secs host operation.on).Obeys (fun _ => True) PoolState.Change :=
  (pool.get_obeys host).andThen fun c =>
    (runOn_obeys host secs c operation).mono (fun _ hr => hr) fun _ _ hs => hs.change

/-! ## What goes on beside -/

section Starts

variable {Q : Action PoolState Unit → Prop}

theorem reportEvicted_starts (host : String) (wasKept : Bool) :
    (reportEvicted host wasKept).Starts Q := by
  rw [reportEvicted]
  split
  · exact starts_request _
  · trivial

theorem evict_starts (host : String) (c : RemoteConnector) : (evict host c).Starts Q :=
  Starts.withLock ((starts_change _).bind fun wasKept => reportEvicted_starts host wasKept)

theorem discard_starts (host : String) (c : Connector) : (discard host c).Starts Q := by
  cases c with
  | here c => trivial
  | remote c => exact evict_starts host c

theorem invalidate_starts (host : String) : (invalidate host).Starts Q := by
  refine (Starts.withLock (Starts.bind (starts_change _) fun session => ?_)).bind fun wasKept =>
    reportEvicted_starts host wasKept
  cases session with
  | none => trivial
  | some session =>
    have hclose : (closeSession session).Starts Q := by
      cases session with
      | none => trivial
      | some session => exact session.close_starts
    exact hclose.bind fun _ => trivial

theorem lookup_starts (pool : ConnectorPool) (host : String) : (pool.lookup host).Starts Q := by
  refine Starts.withLock (Starts.bind (starts_change _) fun taken => ?_)
  cases taken with
  | some c => trivial
  | none =>
    rw [get_inside]
    refine Starts.bind (Starts.withLock (starts_change _)) fun entry => ?_
    cases entry with
    | none => trivial
    | some entry =>
      exact (starts_request _).bind fun _ => Starts.bind (starts_change _) fun _ => trivial

end Starts

/-- **What keeps the same connectors**, all that is started beside it too. -/
def Discreet (x : Action PoolState Unit) : Prop :=
  x.Obeys (fun _ => True) (PoolState.Quiet fun _ => True)

theorem starts_discreet {x : Action PoolState α} {p : Request → Prop} {r : Nat → Prop}
    (h : x.Obeys p (PoolState.Quiet r)) : x.Starts Discreet :=
  (h.mono (fun _ _ => trivial) fun _ _ hs => hs.mono fun _ _ => trivial).starts

theorem get_starts (pool : ConnectorPool) (host : String) : (pool.get host).Starts Discreet := by
  rw [get]
  split
  · trivial
  · refine Starts.andThen ?_ fun c => trivial
    refine (lookup_starts pool host).andThen fun c => ?_
    refine (starts_discreet (connect_obeys c)).bind fun result => ?_
    cases result with
    | ok _ => trivial
    | error e =>
      exact (evict_starts host c).bind fun _ => (starts_discreet (release_obeys c)).bind fun _ =>
        trivial

theorem runOn_starts (host : String) (secs : Nat) (c : Connector) (operation : Operation α) :
    (runOn host secs c operation.on).Starts Discreet := by
  have hdrop : ∀ r : Except ConnectorError α,
      (drop c >>= fun _ => done r).Starts Discreet := fun r =>
    (starts_discreet (drop_obeys c)).bind fun _ => trivial
  rw [runOn]
  split
  · exact hdrop _
  refine (starts_request _).bind fun started => ?_
  cases started with
  | error fault => exact hdrop _
  | ok _ =>
    refine (starts_request _).bind fun fate => ?_
    cases fate with
    | inTime =>
      have hoperation : (operation.on c).Obeys (fun _ => True) (PoolState.Quiet c.Has) :=
        (operation.obeys c).mono (fun _ h => h) fun _ _ h => h.quiet
      refine (starts_discreet hoperation).bind fun result => ?_
      by_cases hlost : ∃ e, result = .error e ∧ e.isConnection = true
      · obtain ⟨e, rfl, he⟩ := hlost
        rw [settle_of_lost he]
        exact (discard_starts host c).bind fun _ => hdrop _
      · rw [settle_of_kept fun e he => Bool.eq_false_iff.2 fun he' => hlost ⟨e, he, he'⟩]
        exact hdrop _
    | late =>
      -- the operation that goes on keeps what is kept
      refine (starts_discreet (retain_obeys c)).bind fun _ => ⟨?_, (starts_request _).bind fun _ =>
        (discard_starts host c).bind fun _ => hdrop _⟩
      exact (finishAlone_obeys c operation).mono (fun _ h => h) fun _ _ h =>
        h.mono fun _ _ => trivial
    | gone => exact (discard_starts host c).bind fun _ => hdrop _

/-- **What goes on beside a call** keeps the same connectors. -/
theorem callWithin_starts (pool : ConnectorPool) (secs : Nat) (host : String)
    (operation : Operation α) : (pool.callWithin secs host operation.on).Starts Discreet :=
  (get_starts pool host).andThen fun c => runOn_starts host secs c operation

end ConnectorPool

end NetUnits
