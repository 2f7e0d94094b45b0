import NetUnits.Proofs.Action.Protocol
import NetUnits.Proofs.Connector.Clients

/-! # Promises of clients

What a client does is taken apart once, for any promises: it looks a connector up, uses it, and may
evict it or invalidate its host. Whoever keeps the promises in these parts keeps them.

* **`ConnectorPool.InUse`** — the promises are kept by what changes only what a connector holds.
* **`ConnectorPool.triple_lookup`** — a lookup, in which nobody else keeps a connector.
* **`ConnectorPool.triple_runOn`** — an operation on a connector, in time or late.
* **`ConnectorPool.Client.triple`** — a client. -/

namespace NetUnits.ConnectorPool

open NetUnits.Action NetUnits.Protocol

variable {α : Type} {P : Protocol PoolState} {R : Nat → Prop} {pool : ConnectorPool}
  {host : String} {secs i : Nat}

/-! ## Connectors in use -/

/-- **What changes only what a connector holds keeps the promises** of some threads, as long as
scenes have a property, which it preserves. -/
structure InUse (P : Protocol PoolState) (R : Nat → Prop) (c : Connector)
    (M : Scene PoolState → Prop) : Prop where
  /-- Others preserve the property. -/
  stable : ∀ j, P.Stable j M
  /-- Requests keep the promises. -/
  asked : ∀ j a r reply, R j → M a → a.May P.answers j (.asked r reply) →
    P.promise j a (a.after j (.asked r reply)) ∧ M (a.after j (.asked r reply))
  /-- Changes of what the connector holds keep the promises. -/
  changed : ∀ j a s, R j → PoolState.Quiet c.Has a.state s → M a →
    P.promise j a (a.after j (.changed a.state s)) ∧ M (a.after j (.changed a.state s))
  /-- New threads keep the promises. -/
  forked : ∀ j a, R j → M a → P.promise j a (a.after j .forked) ∧ M (a.after j .forked)

section Use

variable {c : Connector} {M : Scene PoolState → Prop}

theorem InUse.triple (h : InUse P R c M) (hR : ∀ j, P.size ≤ j → R j) (hi : R i) {β : Type}
    {x : Action PoolState β} {p : Request → Prop} (hx : x.Obeys p (PoolState.Quiet c.Has)) :
    P.Triple i M x fun _ => M :=
  triple_of_obeys hx hR h.stable (fun j a r reply hj _ => h.asked j a r reply hj) h.changed
    h.forked hi

theorem InUse.triple_request (h : InUse P R c M) (hi : R i) (r : Request) :
    P.Triple i M (request r) fun _ => M :=
  Protocol.triple_request (h.stable i) (fun _ => h.stable i) fun a reply =>
    h.asked i a r reply hi

/-- **A change under the lock of the kept connectors** keeps the promises if the change itself
does. -/
theorem InUse.triple_locked (h : InUse P R c M) (hR : ∀ j, P.size ≤ j → R j) (hi : R i)
    {β γ : Type} {f : PoolState → β × PoolState} {rest : β → Action PoolState γ}
    (hchange : ∀ a, M a → a.holder .connectors = some i →
      P.promise i a (a.after i (.changed a.state (f a.state).2)) ∧
        M (a.after i (.changed a.state (f a.state).2)))
    (hrest : ∀ b, (rest b).Obeys Request.KeepsLocks fun _ _ => False) :
    P.Triple i M (withLock .connectors (change f >>= rest)) fun _ => M := by
  have hstable := h.stable i
  -- taking the lock and giving it back are requests like others
  have hheld : P.Stable i fun a => M a ∧ a.holder .connectors = some i :=
    hstable.and (stable_holder _)
  refine triple_withLock (Q := fun _ => M) hstable hheld (fun _ => hstable) (fun a ha hmay => ?_)
    ?_ (fun _ => hstable) fun _ a ha hmay => h.asked i a _ _ hi ha hmay
  · obtain ⟨hpromise, hafter⟩ := h.asked i a _ _ hi ha hmay
    exact ⟨hpromise, hafter, by rw [Scene.holder_after_acquire, Function.update_self]⟩
  · refine Triple.bind (Q := fun _ => M) (triple_change hheld (fun _ => hstable)
      fun a ha => hchange a ha.1 ha.2) fun b => ?_
    exact h.triple hR hi ((hrest b).mono (fun _ hr => hr) fun _ _ hs => hs.elim)

/-- **An operation on a connector** keeps the promises if evicting the connector does. -/
theorem triple_runOn (h : InUse P R c M) (hR : ∀ j, P.size ≤ j → R j) (hi : R i)
    (hdiscard : P.Triple i M (discard host c) fun _ => M) (operation : Operation α) :
    P.Triple i M (runOn host secs c operation.on) fun _ _ => True := by
  have hdrop : ∀ r : Except ConnectorError α,
      P.Triple i M (drop c >>= fun _ => done r) fun _ _ => True := fun r =>
    (h.triple hR hi (drop_obeys c)).bind fun _ =>
      (triple_done (h.stable i)).conseq (fun _ ha => ha) fun _ _ _ => trivial
  have habandon : ∀ e, P.Triple i M (abandon host c e : Action PoolState (Except _ α))
      fun _ _ => True := fun e => hdiscard.bind fun _ => hdrop _
  rw [runOn]
  split
  · exact hdrop _
  refine (h.triple_request hi _).bind fun started => ?_
  cases started with
  | error fault => exact hdrop _
  | ok _ =>
    refine (h.triple_request hi _).bind fun fate => ?_
    cases fate with
    | inTime =>
      have hoperation : (operation.on c).Obeys (fun _ => True) (PoolState.Quiet c.Has) :=
        (operation.obeys c).mono (fun _ hr => hr) fun _ _ hs => hs.quiet
      refine (h.triple hR hi hoperation).bind fun result => ?_
      by_cases hlost : ∃ e, result = .error e ∧ e.isConnection = true
      · obtain ⟨e, rfl, he⟩ := hlost
        rw [settle_of_lost he]
        exact hdiscard.bind fun _ => hdrop _
      · rw [settle_of_kept fun e he => Bool.eq_false_iff.2 fun hlost' => hlost ⟨e, he, hlost'⟩]
        exact hdrop _
    | late =>
      -- the operation goes on as a thread of its own, which does not evict
      refine (h.triple hR hi (retain_obeys c)).bind fun _ =>
        triple_fork (h.stable i) (fun a => h.forked i a hi) (fun j hj => ?_)
          ((h.triple_request hi _).bind fun _ => habandon _)
      exact (h.triple hR (hR j hj) (finishAlone_obeys c operation)).conseq (fun _ ha => ha.1)
        fun _ _ _ => trivial
    | gone => exact habandon _

end Use

/-! ## Lookups -/

/-- Taking and giving back locks that are no session's, events, and looking at the state. -/
def IsIdle : Deed PoolState → Prop
  | .asked (.acquire lock) _ | .asked (.release lock) _ => lock = .connectors ∨ lock = .registry
  | .asked (.event _) _ => True
  | .changed s s' => s' = s
  | _ => False

/-- An idle deed changes neither the state nor who holds a session. -/
theorem IsIdle.after {d : Deed PoolState} (h : IsIdle d) (a : Scene PoolState)
    (hmay : a.May P.answers i d) :
    (a.after i d).state = a.state ∧
      ∀ n, (a.after i d).holder (.session n) = a.holder (.session n) := by
  cases d with
  | changed s s' =>
    obtain rfl : s = a.state := hmay
    exact ⟨h, fun _ => rfl⟩
  | forked => exact h.elim
  | asked r reply =>
    refine ⟨rfl, fun n => ?_⟩
    cases r with
    | acquire lock | release lock =>
      have hne : Lock.session n ≠ lock := by
        rintro rfl
        simp [IsIdle] at h
      exact Function.update_of_ne hne _ _
    | _ => rfl

/-- The entry of a host is looked up under the lock of the registry. -/
theorem get_inside (host : String) : (Registry.get host).inside PoolState.registryPart =
    withLock .registry (change fun s => (s.registry.hosts.get? host, s)) :=
  rfl

/-- **A lookup**: it keeps promises that idle deeds, taking a kept connector and creating one keep.
While it is made, nobody else keeps a connector, and the new one is made from an entry of the
registry. -/
theorem triple_lookup {A : Scene PoolState → Prop} {p : Option HostEntry → Prop}
    {Q : Except ConnectorError RemoteConnector → Scene PoolState → Prop} (hA : P.Stable i A)
    (hfree : P.Stable i fun a => A a ∧ a.holder .connectors = some i ∧
      a.state.kept.get? host = none)
    (hQ : ∀ r, P.Stable i (Q r)) (hp : ∀ a, A a → p (a.state.registry.hosts.get? host))
    (hidle : ∀ a d, IsIdle d → a.May P.answers i d → P.promise i a (a.after i d) ∧
      (A a → A (a.after i d)) ∧ ∀ r, Q r a → Q r (a.after i d))
    (htake : ∀ a k, A a → a.state.kept.get? host = some k →
      P.promise i a (a.after i (.changed a.state (a.state.take host).2)) ∧
        Q (.ok k) (a.after i (.changed a.state (a.state.take host).2)))
    (hcreate : ∀ a entry, A a → a.holder .connectors = some i →
      a.state.kept.get? host = none → p (some entry) →
      P.promise i a
          (a.after i (.changed a.state (a.state.create host (pool.connectorFor entry)).2)) ∧
        Q (.ok (a.state.create host (pool.connectorFor entry)).1)
          (a.after i (.changed a.state (a.state.create host (pool.connectorFor entry)).2)))
    (hunknown : ∀ a, A a → p none → Q (.error (.unknownHost host)) a) :
    P.Triple i A (pool.lookup host) Q := by
  let Mine : Scene PoolState → Prop := fun a => A a ∧ a.holder .connectors = some i
  let Free : Scene PoolState → Prop := fun a =>
    A a ∧ a.holder .connectors = some i ∧ a.state.kept.get? host = none
  have hmine : P.Stable i Mine := hA.and (stable_holder _)
  have hidleFree : ∀ a d, IsIdle d → a.May P.answers i d →
      (a.after i d).holder .connectors = a.holder .connectors → Free a →
      P.promise i a (a.after i d) ∧ Free (a.after i d) := fun a d hd hmay hholder ha => by
    obtain ⟨hpromise, hkeep, -⟩ := hidle a d hd hmay
    refine ⟨hpromise, hkeep ha.1, hholder ▸ ha.2.1, ?_⟩
    rw [(IsIdle.after (P := P) hd a hmay).1]
    exact ha.2.2
  have hregistry : (Lock.connectors : Lock) ≠ .registry := by decide
  have hdone : ∀ r, P.Triple i (Q r) (done r) Q := fun r =>
    (triple_done (hQ r)).conseq (fun _ ha => ha) fun r' a ha => ha.1 ▸ ha.2
  refine triple_withLock (B := Mine) hA hmine hQ ?_ ?_ hQ ?_
  · intro a ha hmay
    obtain ⟨hpromise, hkeep, -⟩ := hidle a (.asked (.acquire .connectors) ()) (Or.inl rfl) hmay
    refine ⟨hpromise, hkeep ha, ?_⟩
    rw [Scene.holder_after_acquire, Function.update_self]
  · refine Triple.bind (Q := fun taken a => (∀ k, taken = some k → Q (.ok k) a) ∧
      (taken = none → Free a)) (triple_change hmine ?_ ?_) fun taken => ?_
    · exact fun taken => (stable_forall fun k => stable_forall fun _ => hQ (.ok k)).and
        (stable_forall fun _ => hfree)
    · intro a ha
      cases htaken : a.state.kept.get? host with
      | some k =>
        obtain ⟨hpromise, hafter⟩ := htake a k ha.1 htaken
        refine ⟨hpromise, fun k' hk' => ?_, fun hnone => ?_⟩
        · rw [PoolState.fst_take, htaken] at hk'
          exact Option.some.inj hk' ▸ hafter
        · rw [PoolState.fst_take, htaken] at hnone
          exact nomatch hnone
      | none =>
        have hstate : (a.state.take host).2 = a.state := PoolState.snd_take_of_none htaken
        obtain ⟨hpromise, hafter⟩ := hidleFree a (.changed a.state a.state) rfl rfl rfl
          ⟨ha.1, ha.2, htaken⟩
        rw [PoolState.fst_take, htaken, hstate]
        exact ⟨hpromise, fun _ hk => (nomatch hk), fun _ => hafter⟩
    cases taken with
    | some k => exact (hdone (.ok k)).conseq (fun a ha => ha.1 k rfl) fun _ _ h => h
    | none =>
      -- no connector was kept, and none is kept by others until the lock is given back
      refine Triple.conseq (A := Free) ?_ (fun a ha => ha.2 rfl) fun _ _ h => h
      have hentry : ∀ entry, P.Stable i fun a => Free a ∧ p entry := fun entry =>
        hfree.and (stable_const _)
      rw [get_inside]
      refine Triple.bind (Q := fun entry a => Free a ∧ p entry)
        (triple_withLock hfree hfree hentry ?_ (triple_change hfree hentry ?_) hentry ?_)
        fun entry => ?_
      · intro a ha hmay
        refine hidleFree a (.asked (.acquire .registry) ()) (Or.inr rfl) hmay ?_ ha
        rw [Scene.holder_after_acquire, Function.update_of_ne hregistry]
      · intro a ha
        obtain ⟨hpromise, hafter⟩ := hidleFree a (.changed a.state a.state) rfl rfl rfl ha
        exact ⟨hpromise, hafter, hp a ha.1⟩
      · intro entry a ha hmay
        obtain ⟨hpromise, hafter⟩ := hidleFree a (.asked (.release .registry) ()) (Or.inr rfl) hmay
          (by rw [Scene.holder_after_release, Function.update_of_ne hregistry]) ha.1
        exact ⟨hpromise, hafter, ha.2⟩
      cases entry with
      | none =>
        exact (triple_done (hentry none)).conseq (fun _ ha => ha)
          fun r a ha => ha.1 ▸ hunknown a ha.2.1.1 ha.2.2
      | some entry =>
        refine Triple.bind (Q := fun _ a => Free a ∧ p (some entry))
          (triple_request (hentry _) (fun _ => hentry _) fun a reply ha hmay => ?_) fun _ => ?_
        · obtain ⟨hpromise, hafter⟩ := hidleFree a (.asked (.event _) reply) trivial hmay rfl ha.1
          exact ⟨hpromise, hafter, ha.2⟩
        · exact (triple_change (hentry _) (fun k => hQ (.ok k)) fun a ha =>
            hcreate a entry ha.1.1 ha.1.2.1 ha.1.2.2 ha.2).bind fun k => hdone (.ok k)
  · intro r a ha hmay
    obtain ⟨hpromise, -, hkeep⟩ :=
      hidle a (.asked (.release .connectors) ()) (Or.inl rfl) hmay
    exact ⟨hpromise, hkeep r ha⟩

/-! ## Clients -/

/-- **What the parts of a client must keep** for it to keep the promises: from scenes with a
property on, it looks up connectors for a host, and as long as it uses one of them scenes have
another property. -/
structure Keeps (P : Protocol PoolState) (R : Nat → Prop) (pool : ConnectorPool) (i : Nat)
    (host : String) (A : Scene PoolState → Prop) (M : Connector → Scene PoolState → Prop) :
    Prop where
  /-- A lookup keeps the promises, and its connector can be used. -/
  lookup : P.Triple i A (pool.lookup host) fun r a => ∀ k, r = .ok k → M (.remote k) a
  /-- The connector for this machine can be used. -/
  here : ∀ c a, A a → M (.here c) a
  /-- Using a connector keeps the promises. -/
  use : ∀ c, InUse P R c (M c)
  /-- Evicting a connector keeps the promises. -/
  evict : ∀ k, P.Triple i (M (.remote k)) (evict host k) fun _ => M (.remote k)

namespace Keeps

variable {A : Scene PoolState → Prop} {M : Connector → Scene PoolState → Prop}

theorem triple_get (h : Keeps P R pool i host A M) (hR : ∀ j, P.size ≤ j → R j) (hi : R i)
    (hA : P.Stable i A) : P.Triple i A (pool.get host) fun r a => ∀ c, r = .ok c → M c a := by
  have hM : ∀ r : Except ConnectorError Connector, P.Stable i fun a => ∀ c, r = .ok c → M c a :=
    fun r => stable_forall fun c => stable_forall fun _ => (h.use c).stable i
  have herror : ∀ {B : Scene PoolState → Prop} (e : ConnectorError), P.Stable i B →
      P.Triple i B (done (.error e : Except ConnectorError RemoteConnector))
        fun r a => ∀ k, r = .ok k → M (.remote k) a := fun e hB =>
    (triple_done hB).conseq (fun _ ha => ha) fun r a ha k hk => by cases ha.1.symm.trans hk
  rw [get]
  split
  · refine (triple_done hA).conseq (fun _ ha => ha) fun r a ha c hc => ?_
    obtain rfl := Except.ok.inj (ha.1.symm.trans hc)
    exact h.here _ a ha.2
  have hremote : P.Triple i A (pool.remote host) fun r a => ∀ k, r = .ok k → M (.remote k) a := by
    refine h.lookup.andThen (fun k => ?_) fun e => herror e (stable_forall fun k =>
      stable_forall fun _ => (h.use (.remote k)).stable i)
    have hk := h.use (.remote k)
    refine Triple.conseq (A := M (.remote k)) ?_ (fun a ha => ha k rfl) fun _ _ hQ => hQ
    refine (hk.triple hR hi (connect_obeys k)).bind fun result => ?_
    cases result with
    | ok _ =>
      refine (triple_done (hk.stable i)).conseq (fun _ ha => ha) fun r a ha k' hk' => ?_
      obtain rfl := Except.ok.inj (ha.1.symm.trans hk')
      exact ha.2
    | error e =>
      exact (h.evict k).bind fun _ => (hk.triple hR hi (release_obeys k)).bind fun _ =>
        herror e (hk.stable i)
  refine hremote.andThen (fun k => ?_) fun e => ?_
  · refine (triple_done ((h.use (.remote k)).stable i)).conseq (fun a ha => ha k rfl)
      fun r a ha c hc => ?_
    obtain rfl := Except.ok.inj (ha.1.symm.trans hc)
    exact ha.2
  · exact (triple_done (A := fun _ => True) (stable_const True)).conseq (fun _ _ => trivial)
      fun r a ha c hc => by cases ha.1.symm.trans hc

/-- **A call keeps the promises.** -/
theorem triple_callWithin (h : Keeps P R pool i host A M) (hR : ∀ j, P.size ≤ j → R j) (hi : R i)
    (hA : P.Stable i A) (operation : Operation α) :
    P.Triple i A (pool.callWithin secs host operation.on) fun _ _ => True := by
  refine (h.triple_get hR hi hA).andThen (fun c => ?_) fun e => ?_
  · have hdiscard : P.Triple i (M c) (discard host c) fun _ => M c := by
      cases c with
      | here c =>
        exact (triple_done ((h.use _).stable i)).conseq (fun _ ha => ha) fun _ _ ha => ha.2
      | remote k => exact h.evict k
    exact (triple_runOn (h.use c) hR hi hdiscard operation).conseq (fun a ha => ha c rfl)
      fun _ _ _ => trivial
  · exact (triple_done (A := fun _ => True) (stable_const True)).conseq (fun _ _ => trivial)
      fun _ _ _ => trivial

end Keeps

end NetUnits.ConnectorPool
