import NetUnits.Proofs.Connector.GivingUp
import NetUnits.Proofs.Connector.Promises
import NetUnits.Proofs.Connector.Replacement

/-! # Who evicts connectors

Clients look connectors up, connect them, use them and give them up in many steps, and the steps of
others come in between. Whatever the order is, a connector leaves the pool only by a client that
has a reason to give up that very connector, and then it is gone for good: what was kept for the
host in the meantime stays.

* **`ConnectorPool.exclusive`** — only who holds the lock of the kept connectors changes them, and
  nobody replaces one.
* **`ConnectorPool.GoneForGood`** — no host keeps a connector any more, and no lookup hands it out.
* **`ConnectorPool.Evictions`** — how connectors leave a pool; **`ConnectorPool.evictions`** — so
  they do in all systems of clients. -/

namespace NetUnits.ConnectorPool

open NetUnits.Action NetUnits.RemoteConnector

variable {answers : Answers} {pool : ConnectorPool} {clients : List Client} {s₀ s s' : PoolState}
  {sys sys' : System PoolState} {t : List (Deed PoolState)} {i n : Nat}

/-- Surroundings that may give any reply. -/
def anyReply : Answers :=
  fun _ _ _ => True

/-- **Clients of a pool before they do anything.** -/
def startClients (pool : ConnectorPool) (clients : List Client) (s : PoolState) :
    System PoolState :=
  .start s (clients.map (Client.action pool))

/-! ## Numbers over time -/

theorem change_of_step (hreach : System.Reaches answers (startClients pool clients s₀) sys)
    (hstep : System.Step answers i sys sys') :
    sys'.scene.state = sys.scene.state ∨
      PoolState.Change sys.scene.state sys'.scene.state := by
  have hobeys : ∀ x ∈ clients.map (Client.action pool),
      x.Obeys (fun _ => True) PoolState.Change := fun x hx => by
    obtain ⟨client, -, rfl⟩ := List.mem_map.1 hx
    exact client.obeys pool
  obtain ⟨d, hmay, hd, hscene⟩ := hreach.exists_obeys hobeys hstep
  rw [hscene]
  cases d with
  | asked | forked => exact .inl rfl
  | changed s s' =>
    obtain rfl : s = sys.scene.state := hmay
    exact .inr hd

/-- **Numbers that were given out are never given out again.** -/
theorem grows_of_reaches (hreach : System.Reaches answers (startClients pool clients s₀) sys)
    (h : System.Reaches answers sys sys') : PoolState.Grows sys.scene.state sys'.scene.state := by
  induction h with
  | refl => exact .refl _
  | tail hmid hstep ih =>
    obtain ⟨j, hstep⟩ := hstep
    obtain heq | hchange := change_of_step (hreach.trans hmid) hstep
    · exact heq.symm ▸ ih
    · exact ih.trans hchange.grows

theorem numbered_of_reaches (hs : s₀.Numbered)
    (hreach : System.Reaches answers (startClients pool clients s₀) sys) :
    sys.scene.state.Numbered := by
  induction hreach with
  | refl => exact hs
  | tail hmid hstep ih =>
    obtain ⟨j, hstep⟩ := hstep
    obtain heq | hchange := change_of_step hmid hstep
    · exact heq.symm ▸ ih
    · exact hchange.numbered ih

/-- A change that a client has made comes between what was before and what is after. -/
theorem exists_between (hs : s₀.Numbered)
    (hreach : System.Reaches answers (startClients pool clients s₀) sys)
    (h : System.Reaches answers sys sys')
    (hpast : sys'.scene.pastOf i = sys.scene.pastOf i ++ t) (hmem : Deed.changed s s' ∈ t) :
    PoolState.Grows sys.scene.state s' ∧ s'.Numbered ∧
      PoolState.Grows s' sys'.scene.state := by
  obtain ⟨sys₁, sys₂, h₁, hstep, h₂, -, hscene⟩ := h.exists_step hpast hmem
  have hstate : sys₂.scene.state = s' := hscene ▸ rfl
  have hreach₂ := (hreach.trans h₁).trans hstep.reaches
  rw [← hstate]
  exact ⟨grows_of_reaches hreach (h₁.trans hstep.reaches), numbered_of_reaches hs hreach₂,
    grows_of_reaches hreach₂ h₂⟩

/-! ## The lock of the kept connectors -/

/-- **What clients promise of the kept connectors**: only who holds their lock changes them, a
connector is never replaced by another one, and threads that are started later change none. -/
def exclusive (size : Nat) : Protocol PoolState where
  answers := anyReply
  promise := fun i a b =>
    (b.state.kept ≠ a.state.kept → a.holder .connectors = some i ∧ i < size) ∧
      ∀ h k, a.state.kept.get? h = some k →
        b.state.kept.get? h = some k ∨ b.state.kept.get? h = none
  size := size

theorem promise_of_kept {a b : Scene PoolState} (h : b.state.kept = a.state.kept) :
    (exclusive n).promise i a b :=
  ⟨fun hne => absurd h hne, fun _ _ hk => .inl (h ▸ hk)⟩

/-- Nobody else changes the kept connectors as long as a thread holds their lock. -/
theorem stable_kept (p : Dict RemoteConnector → Prop) :
    (exclusive n).Stable i fun a => a.holder .connectors = some i ∧ p a.state.kept := by
  intro j a b hj hacts ha
  refine ⟨Protocol.stable_holder .connectors j a b hj hacts ha.1, ?_⟩
  obtain ⟨d, -, hpromise, -⟩ := hacts
  by_cases hkept : b.state.kept = a.state.kept
  · exact hkept ▸ ha.2
  · have hholder := (hpromise.1 hkept).1
    exact absurd (Option.some.inj (hholder.symm.trans ha.1)) hj

/-- What changes no kept connectors keeps the promises. -/
theorem inUse_exclusive (c : Connector) :
    InUse (exclusive n) (fun _ => True) c fun _ => True where
  stable := fun _ => Protocol.stable_const True
  asked := fun _ _ _ _ _ _ _ => ⟨promise_of_kept rfl, trivial⟩
  changed := fun _ _ _ _ hquiet _ => ⟨promise_of_kept hquiet.kept, trivial⟩
  forked := fun _ _ _ _ => ⟨promise_of_kept rfl, trivial⟩

/-- What only removes connectors, under their lock, keeps the promises. -/
theorem triple_remove {α β : Type} {f : PoolState → α × PoolState} {rest : α → Action PoolState β}
    (hi : i < n)
    (h : ∀ s h k, (f s).2.kept.get? h = some k → s.kept.get? h = some k)
    (hrest : ∀ a, (rest a).Obeys Request.KeepsLocks fun _ _ => False) :
    (exclusive n).Triple i (fun _ => True) (withLock .connectors (change f >>= rest))
      fun _ _ => True := by
  refine (inUse_exclusive (.here ⟨"", ""⟩)).triple_locked (fun _ _ => trivial) trivial
    (fun a _ hholder => ⟨⟨fun _ => ⟨hholder, hi⟩, fun host k hk => ?_⟩, trivial⟩) hrest
  rw [Scene.state_after_changed]
  cases hafter : (f a.state).2.kept.get? host with
  | none => exact .inr rfl
  | some k' =>
    obtain rfl := Option.some.inj ((h _ _ _ hafter).symm.trans hk)
    exact .inl rfl

theorem triple_evict (host : String) (c : RemoteConnector) (hi : i < n) :
    (exclusive n).Triple i (fun _ => True) (evict host c) fun _ _ => True :=
  triple_remove hi (fun _ _ _ hk => (PoolState.get?_kept_evict_iff.1 hk).1)
    fun wasKept => reportEvicted_obeys host wasKept

theorem triple_invalidate (host : String) (hi : i < n) :
    (exclusive n).Triple i (fun _ => True) (invalidate host) fun _ _ => True := by
  refine (triple_remove hi (fun _ _ _ hk => (PoolState.get?_kept_forget_iff.1 hk).1)
    fun session => ?_).bind fun wasKept => ?_
  · cases session with
    | none => trivial
    | some session => exact (closeSession_obeys session).bind fun _ => trivial
  · exact (inUse_exclusive (.here ⟨"", ""⟩)).triple (fun _ _ => trivial) trivial
      ((reportEvicted_obeys host wasKept).mono (fun _ hr => hr) fun _ _ h => h)

theorem keeps_exclusive (pool : ConnectorPool) (host : String) (hi : i < n) :
    Keeps (exclusive n) (fun _ => True) pool i host (fun _ => True) fun _ _ => True where
  here := fun _ _ _ => trivial
  use := inUse_exclusive
  evict := fun c => triple_evict host c hi
  lookup := by
    have hfree : (exclusive n).Stable i fun a => True ∧ a.holder .connectors = some i ∧
        a.state.kept.get? host = none :=
      (Protocol.stable_const True).and (stable_kept fun kept => kept.get? host = none)
    refine (triple_lookup (Q := fun _ _ => True) (p := fun _ => True) (Protocol.stable_const True)
      hfree (fun _ => Protocol.stable_const True) (fun _ _ => trivial) ?_ ?_ ?_
      fun _ _ _ => trivial).conseq (fun _ ha => ha) fun _ _ _ _ _ => trivial
    · intro a d hd hmay
      have hkept : (a.after i d).state.kept = a.state.kept := by
        rw [(IsIdle.after (P := exclusive n) hd a hmay).1]
      exact ⟨promise_of_kept hkept, fun _ => trivial, fun _ _ => trivial⟩
    · exact fun a k _ _ => ⟨promise_of_kept (a.state.quiet_take host).kept, trivial⟩
    · -- nothing is replaced: no connector was kept for the host
      intro a entry _ hholder hnone _
      refine ⟨⟨fun _ => ⟨hholder, hi⟩, fun h k hk => ?_⟩, trivial⟩
      rw [Scene.state_after_changed, PoolState.get?_kept_create]
      split
      · subst h
        exact nomatch hnone.symm.trans hk
      · exact .inl hk

theorem triple_client (pool : ConnectorPool) (client : Client) (hi : i < n) :
    (exclusive n).Triple i (fun _ => True) (client.action pool) fun _ _ => True := by
  have hdone : (exclusive n).Triple i (fun _ => True) (done ()) fun _ _ => True :=
    (Protocol.triple_done (Protocol.stable_const True)).conseq (fun _ ha => ha) fun _ _ _ => trivial
  cases client with
  | get host =>
    have hget := (keeps_exclusive pool host hi).triple_get (fun _ _ => trivial) trivial
      (Protocol.stable_const True)
    exact (hget.conseq (fun _ ha => ha) fun _ _ _ => trivial).bind fun _ => hdone
  | call secs host operation =>
    exact ((keeps_exclusive pool host hi).triple_callWithin (fun _ _ => trivial) trivial
      (Protocol.stable_const True) operation).bind fun _ => hdone
  | invalidate host => exact triple_invalidate host hi

/-- **All clients keep these promises** in all their steps. -/
theorem exclusive_of_step
    (hreach : System.Reaches anyReply (startClients pool clients s₀) sys)
    (hstep : System.Step anyReply i sys sys') :
    (exclusive clients.length).promise i sys.scene sys'.scene := by
  refine Protocol.promise_of_step (P := exclusive clients.length) (Q := fun _ _ => True)
    (List.length_map _) (fun j x hx => ?_) (fun _ _ _ => trivial) hreach hstep
  rw [List.getElem?_map] at hx
  obtain ⟨client, hclient, rfl⟩ := Option.map_eq_some_iff.1 hx
  exact triple_client pool client (List.getElem?_eq_some_iff.1 hclient).1 _ trivial

/-! ## Gone for good -/

/-- **A connector is gone for good**: from then on no host keeps it, and no lookup that begins then
hands it out. -/
structure GoneForGood (pool : ConnectorPool) (sys : System PoolState) (n : Nat) : Prop where
  /-- No host keeps it. -/
  ne_of_kept : ∀ sys', System.Reaches anyReply sys sys' →
    ∀ h k, sys'.scene.state.kept.get? h = some k → k.number ≠ n
  /-- No lookup hands it out. -/
  ne_of_lookup : ∀ sys', System.Reaches anyReply sys sys' →
    ∀ i t, sys'.scene.pastOf i = sys.scene.pastOf i ++ t →
      ∀ host t' c, t' <:+: t → Run (pool.lookup host) t' (.ok c) → c.number ≠ n

theorem goneForGood_of_ne (hs : s₀.Numbered)
    (hreach : System.Reaches anyReply (startClients pool clients s₀) sys)
    (hn : n < sys.scene.state.slots.length)
    (hne : ∀ h k, sys.scene.state.kept.get? h = some k → k.number ≠ n) :
    GoneForGood pool sys n where
  ne_of_kept := by
    intro sys' h host k hk hnumber
    exact hne host k ((grows_of_reaches hreach h).kept_of_lt host k hk (hnumber ▸ hn)) hnumber
  ne_of_lookup := by
    intro sys' h i t hpast host t' c hsub hrun hnumber
    -- what is handed out is kept then, so it was kept before
    obtain ⟨s, s', hmem, hkept⟩ := exists_kept_of_run_lookup hrun
    obtain ⟨hgrows, -, -⟩ := exists_between hs hreach h hpast (hsub.subset hmem)
    exact hne host c (hgrows.kept_of_lt host c hkept (hnumber ▸ hn)) hnumber

/-- **A connector that a client has looked up is the one that is kept** with its number. -/
theorem eq_of_run_lookup (hs : s₀.Numbered)
    (hreach : System.Reaches anyReply (startClients pool clients s₀) sys) {host h : String}
    {c k : RemoteConnector} {t₁ t₂ : List (Deed PoolState)}
    (hpast : sys.scene.pastOf i = t₁ ++ t₂) (hrun : Run (pool.lookup host) t₁ (.ok c))
    (hsys : System.Reaches anyReply sys sys') (hk : sys'.scene.state.kept.get? h = some k)
    (hnumber : k.number = c.number) : h = host ∧ k = c := by
  obtain ⟨s, s', hmem, hkept⟩ := exists_kept_of_run_lookup hrun
  obtain ⟨-, hnumbered, hgrows⟩ := exists_between (t := t₁ ++ t₂) hs .refl hreach
    (by rw [hpast]; rfl) (List.mem_append_left t₂ hmem)
  have hlt : k.number < s'.slots.length := hnumber ▸ hnumbered.lt host c hkept
  have hk' : s'.kept.get? h = some k :=
    (hgrows.trans (grows_of_reaches hreach hsys)).kept_of_lt h k hk hlt
  obtain rfl := hnumbered.eq h host k c hk' hkept hnumber
  exact ⟨rfl, Option.some.inj (hk'.symm.trans hkept)⟩

/-! ## Evictions -/

/-- **How connectors leave a pool** that clients have used up to some moment, in any order. -/
structure Evictions (pool : ConnectorPool) (clients : List Client) (sys : System PoolState) :
    Prop where
  /-- A step after which a host no longer has the connector that it had is one of a client with a
  reason to give up that very connector, which is gone for good then. -/
  cause : ∀ i sys' h k, System.Step anyReply i sys sys' →
    sys.scene.state.kept.get? h = some k → sys'.scene.state.kept.get? h ≠ some k →
      (∃ client, clients[i]? = some client ∧ client.GivesUp pool h k (sys.scene.pastOf i)) ∧
        GoneForGood pool sys' k.number
  /-- After a call on a remote host has returned an error of the connection, the connector that it
  had looked up is gone for good. -/
  lost : ∀ i secs host (α : Type) (operation : Operation α) e,
    clients[i]? = some (.call secs host operation) → isLocalHost host = false →
      Run (pool.callWithin secs host operation.on) (sys.scene.pastOf i) (.error e) →
      e.isConnection = true →
        ∃ c t₁ t₂, sys.scene.pastOf i = t₁ ++ t₂ ∧ Run (pool.lookup host) t₁ (.ok c) ∧
          GoneForGood pool sys c.number
  /-- A caller whose operation has ended with a result, or with an error that is not one of the
  connection, takes no connector from any host. -/
  spared : ∀ i secs host (α : Type) (operation : Operation α) c t₁ t₂ t₃ r,
    clients[i]? = some (.call secs host operation) →
      sys.scene.pastOf i = t₁ ++ (begun secs c .inTime ++ t₂ ++ t₃) →
      Run (pool.get host) t₁ (.ok c) → Run (operation.on c) t₂ r →
      (∀ e, r = .error e → e.isConnection = false) →
        ∀ s s', Deed.changed s s' ∈ sys.scene.pastOf i →
          ∀ h k, s.kept.get? h = some k → s'.kept.get? h = some k
  /-- What is done on this machine does not change which connectors are kept. -/
  unchanged : ∀ i client, clients[i]? = some client → client.IsLocal →
    ∀ s s', Deed.changed s s' ∈ sys.scene.pastOf i → s'.kept = s.kept

/-- What a client has done is a history of it. -/
theorem exists_after_client {client : Client}
    (hreach : System.Reaches answers (startClients pool clients s₀) sys)
    (hclient : clients[i]? = some client) :
    ∃ y, sys.threads[i]? = some y ∧ After (client.action pool) (sys.scene.pastOf i) y := by
  have hget : (startClients pool clients s₀).threads[i]? = some (client.action pool) := by
    rw [startClients, System.start, List.getElem?_map, hclient, Option.map_some]
  obtain ⟨t, y, hy, hpast, hafter⟩ := hreach.exists_after hget
  rw [hpast]
  exact ⟨y, hy, hafter⟩

/-- **How connectors leave a pool**, whatever its clients do and in whatever order. -/
theorem evictions (hs : s₀.Numbered)
    (hreach : System.Reaches anyReply (startClients pool clients s₀) sys) :
    Evictions pool clients sys where
  cause := by
    intro i sys' h k hstep hk hlost
    have hreach' := hreach.trans hstep.reaches
    obtain ⟨hheld, hreplaced⟩ := exclusive_of_step hreach hstep
    have hchanged : sys'.scene.state.kept ≠ sys.scene.state.kept := fun heq =>
      hlost (heq ▸ hk)
    have hnone : sys'.scene.state.kept.get? h = none := (hreplaced h k hk).resolve_left hlost
    obtain ⟨client, hclient⟩ : ∃ client, clients[i]? = some client :=
      ⟨_, List.getElem?_eq_getElem (hheld hchanged).2⟩
    obtain ⟨y, hy, hafter⟩ := exists_after_client hreach hclient
    constructor
    · refine ⟨client, hclient, ?_⟩
      obtain @⟨x, z, d, started, hthread, hnext, hmay⟩ := hstep
      obtain rfl : y = x := Option.some.inj (hy.symm.trans hthread)
      cases d with
      | asked | forked => exact absurd rfl hchanged
      | changed s s' =>
        obtain rfl : s = sys.scene.state := hmay
        obtain ⟨c, hnumber, hgivesUp⟩ := Client.exists_givesUp (hafter.snoc hnext) hk hnone
        obtain rfl | ⟨t₁, t₂, hpast, hlookup⟩ := hgivesUp.exists_lookup
        · exact rfl
        · obtain ⟨-, rfl⟩ := eq_of_run_lookup hs hreach hpast hlookup .refl hk hnumber.symm
          exact hgivesUp
    · have hgrows := grows_of_reaches hreach hstep.reaches
      have hnumbered := numbered_of_reaches hs hreach
      have hlt := hnumbered.lt h k hk
      refine goneForGood_of_ne hs hreach' (hlt.trans_le hgrows.length_le) fun h' k' hk' heq => ?_
      have hold := hgrows.kept_of_lt h' k' hk' (heq ▸ hlt)
      obtain rfl := hnumbered.eq h' h k' k hold hk heq
      exact nomatch hk'.symm.trans hnone
  lost := by
    intro i secs host α operation e _ hlocal hrun he
    obtain ⟨c, t₁, t₂, s, hpast, hlookup, hevict⟩ :=
      exists_evict_of_run_callWithin hlocal he hrun
    refine ⟨c, t₁, t₂, hpast, hlookup, ?_⟩
    -- the connector is evicted after the moment at which it was looked up
    obtain ⟨sys₁, h₁, h₂, hpast₁⟩ := hreach.exists_split
      (show (startClients pool clients s₀).scene.pastOf i = [] from rfl) hpast
    obtain ⟨a, a', hmem, hkept⟩ := exists_kept_of_run_lookup hlookup
    obtain ⟨-, hnumbered, hgrows₁⟩ := exists_between (t := t₁) hs .refl h₁
      (by rw [hpast₁]; rfl) hmem
    have hpast₂ : sys.scene.pastOf i = sys₁.scene.pastOf i ++ t₂ := by
      rw [hpast₁, hpast, List.nil_append]
    obtain ⟨hgrows₂, -, hgrows₃⟩ := exists_between hs h₁ h₂ hpast₂ hevict
    have hlt : c.number < a'.slots.length := hnumbered.lt host c hkept
    have hlt' := hlt.trans_le (hgrows₁.trans hgrows₂).length_le
    refine goneForGood_of_ne hs hreach (hlt'.trans_le hgrows₃.length_le) fun h k hk heq => ?_
    have hk' := hgrows₃.kept_of_lt h k hk (heq ▸ hlt')
    have hold := (hgrows₁.trans hgrows₂).kept_of_lt h k hk' (heq ▸ hlt)
    obtain rfl := hnumbered.eq h host k c hold hkept heq
    exact (PoolState.get?_kept_evict_iff.1 hk').2 ⟨rfl, heq⟩
  spared := by
    intro i secs host α operation c t₁ t₂ t₃ r hclient hpast hget hrun hr s s' hmem h k hk
    obtain ⟨y, -, hafter⟩ := exists_after_client hreach hclient
    rw [hpast] at hafter
    have hretains := retains_of_begun hr hget hrun hafter (hpast ▸ hmem)
    obtain ⟨sys₁, sys₂, h₁, hstep, -, hmay, hscene⟩ :=
      hreach.exists_step (t := sys.scene.pastOf i) rfl hmem
    obtain ⟨-, hreplaced⟩ := exclusive_of_step h₁ hstep
    obtain rfl : s = sys₁.scene.state := hmay
    rw [hscene] at hreplaced
    exact (hreplaced h k hk).resolve_right (hretains h k hk)
  unchanged := by
    intro i client hclient hlocal s s' hmem
    obtain ⟨y, -, hafter⟩ := exists_after_client hreach hclient
    have hquiet : PoolState.Quiet (fun _ => True) s s' :=
      (hlocal.obeys.of_after hafter).1 _ hmem
    exact hquiet.kept

/-- A pool whose sessions are opened by its surroundings. -/
def external : ConnectorPool :=
  { (default : ConnectorPool) with transport := .external }

/-- A pool that keeps no connector yet. -/
def emptyState : PoolState where
  registry := {
    path := ""
    hosts := Registry.hostsOf [{ name := "router", address := "192.0.2.1" }] }

theorem numbered_emptyState : emptyState.Numbered := by
  refine ⟨fun h k hk => ?_, fun h h' k k' hk _ _ => ?_⟩ <;>
    simp [emptyState, Dict.get?_empty] at hk

/-- A command on the host. -/
def routerCommand : Operation String :=
  .outputOf ["true"]

/-- Two callers run it, and a third client invalidates the host. -/
def routerClients : List Client :=
  [.call 30 "router" routerCommand, .invalidate "router", .call 30 "router" routerCommand]

/-- The operation of a caller takes too long. -/
def replyOfLate : (r : Request) → r.Reply
  | .awaitWorker _ => .late
  | r => r.usual

/-- The first caller has a connector when the host is invalidated, and the second one gets another.
Only then the operation of the first caller is too late, and what goes on of it loses the
connection. -/
def replaced : System PoolState :=
  (startClients external routerClients emptyState).follow
    (List.replicate 14 (0, replyOfBreaking 0) ++ List.replicate 4 (1, Request.usual) ++
      List.replicate 14 (2, replyOfBreaking 1) ++ List.replicate 8 (0, replyOfLate) ++
      List.replicate 10 (3, replyOfBreaking 0))

theorem reaches_replaced :
    System.Reaches anyReply (startClients external routerClients emptyState) replaced :=
  System.reaches_follow fun _ _ _ => trivial

section

-- the histories are computed by the whole schedule, step inside step
set_option maxRecDepth 10000

theorem run_late : Run (external.callWithin 30 "router" routerCommand.on)
    (replaced.scene.pastOf 0) (.error (.timeout "router" 30)) := by
  have hafter : After (external.callWithin 30 "router" routerCommand.on)
      (replaced.scene.pastOf 0) (done (.error (.timeout "router" 30))) :=
    .ask _ <| .atomic _ <| .ask _ <| .atomic _ <| .ask _ <| .ask _ <| .atomic _ <| .ask _ <|
      .ask _ <| .atomic _ <| .ask _ <| .atomic _ <| .ask _ <| .ask _ <| .ask _ <| .atomic _ <|
      .fork <| .ask _ <| .ask _ <| .atomic _ <| .ask _ <| .atomic _ <| .start _
  exact hafter

/-- Then the operation of the second caller loses its connection. -/
def lostTwice : System PoolState :=
  replaced.follow (List.replicate 15 (2, replyOfBreaking 1))

theorem run_lost : Run (external.callWithin 30 "router" routerCommand.on)
    (lostTwice.scene.pastOf 2) (.error (.connection "router" "broken pipe")) := by
  have hafter : After (external.callWithin 30 "router" routerCommand.on)
      (lostTwice.scene.pastOf 2) (done (.error (.connection "router" "broken pipe"))) :=
    .ask _ <| .atomic _ <| .ask _ <| .atomic _ <| .ask _ <| .ask _ <| .atomic _ <| .ask _ <|
      .ask _ <| .atomic _ <| .ask _ <| .atomic _ <| .ask _ <| .ask _ <| .ask _ <| .ask _ <|
      .atomic _ <| .ask _ <| .ask _ <| .ask _ <| .ask _ <| .ask _ <| .atomic _ <| .ask _ <|
      .ask _ <| .atomic _ <| .ask _ <| .ask _ <| .atomic _ <| .start _
  exact hafter

/-- The replacement outlives the late end of the operation before it, and no longer the loss of its
own connection. -/
theorem evictions_replaced :
    emptyState.Numbered ∧
      System.Reaches anyReply (startClients external routerClients emptyState) replaced ∧
      Run (external.callWithin 30 "router" routerCommand.on) (replaced.scene.pastOf 0)
        (.error (.timeout "router" 30)) ∧
      replaced.threads[3]? = some (done ()) ∧
      (replaced.scene.state.kept.get? "router").map (·.number) = some 1 ∧
      System.Reaches anyReply replaced lostTwice ∧
      Run (external.callWithin 30 "router" routerCommand.on) (lostTwice.scene.pastOf 2)
        (.error (.connection "router" "broken pipe")) ∧
      lostTwice.scene.state.kept.get? "router" = none ∧
      Evictions external routerClients lostTwice := by
  have hreach : System.Reaches anyReply replaced lostTwice :=
    System.reaches_follow fun _ _ _ => trivial
  exact ⟨numbered_emptyState, reaches_replaced, run_late, rfl, rfl, hreach, run_lost, rfl,
    evictions numbered_emptyState (reaches_replaced.trans hreach)⟩

end

end NetUnits.ConnectorPool
