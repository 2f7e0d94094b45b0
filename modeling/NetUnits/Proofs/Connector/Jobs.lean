import NetUnits.Proofs.Connector.Lookup
import NetUnits.Proofs.Connector.Order
import NetUnits.Proofs.Host.Change
import NetUnits.Proofs.Host.Entry

/-! # A pool while its registry changes

Threads use a pool, and others add hosts to its registry and remove hosts from it, in any order. A
host stands under its own name all the same, in the registry and among the kept connectors: whoever
changes the one or the other has read it before.

* **`ConnectorPool.Job`** — what a thread does with a pool or its registry;
  **`ConnectorPool.started`** — the threads before they do anything.
* **`PoolState.Named`** — hosts stand under their names;
  **`ConnectorPool.named_of_reaches`** — they do so all the time.
* **`ConnectorPool.Job.orderly`** — jobs take locks in order. -/

namespace NetUnits

open NetUnits.Action NetUnits.Deed

/-! ## Changes of the registry -/

namespace Registry

/-- **Hosts stand under their names.** -/
def Named (hosts : Dict HostEntry) : Prop :=
  ∀ name e, hosts.get? name = some e → e.name = name

variable {before after : Dict HostEntry}

theorem Named.insert (h : Named before) (e : HostEntry) : Named (before.insert e.name e) := by
  intro name e' he'
  rw [Dict.get?_insert] at he'
  split at he'
  · rename_i hname
    rw [← Option.some.inj he', hname]
  · exact h name e' he'

theorem Named.erase (h : Named before) (name : String) : Named (before.erase name) := by
  intro name' e he
  rw [Dict.get?_erase] at he
  exact h name' e (Option.ite_none_left_eq_some.1 he).2

theorem named_hostsOf (entries : List HostEntry) : Named (hostsOf entries) :=
  fun _ _ h => (mem_of_get?_hostsOf h).1

theorem put_keeps {name : String} {e : HostEntry} (h : e.name = name) :
    (put name e).Each (Deed.Keeps fun r => Named r.hosts) :=
  each_change fun _ _ hr => h ▸ hr.insert e

theorem take_keeps (name : String) : (take name).Each (Deed.Keeps fun r => Named r.hosts) :=
  each_change fun _ _ hr => hr.erase name

theorem persist_keeps : persist.Each (Deed.Keeps fun r => Named r.hosts) :=
  persist_obeys.keeps fun _ _ h hr => h ▸ hr

/-- **Adding a host** leaves each one under its name. -/
theorem add_keeps (e : HostEntry) : (add e).Each (Deed.Keeps fun r => Named r.hosts) := by
  rw [add]
  split
  · exact each_done _
  refine Each.keeps_withLock (keeps_change_bind (fun _ hr => hr.insert e) fun r hr => ?_) _
  refine persist_keeps.bind keeps_looksBack fun written => ?_
  cases written with
  | error why =>
    refine Each.bind keeps_looksBack ?_ fun _ => each_done _
    cases hprevious : r.hosts.get? e.name with
    | some old => exact put_keeps (hr _ old hprevious)
    | none => exact take_keeps _
  | ok => exact (each_request fun _ => trivial).bind keeps_looksBack fun _ => each_done _

/-- **Removing a host** leaves each one under its name. -/
theorem remove_keeps (name : String) :
    (remove name).Each (Deed.Keeps fun r => Named r.hosts) := by
  refine Each.keeps_withLock (keeps_change_bind (fun _ hr => hr.erase name) fun r hr => ?_) _
  cases htaken : r.hosts.get? name with
  | none => exact each_done _
  | some removed =>
    refine persist_keeps.bind keeps_looksBack fun written => ?_
    cases written with
    | error why =>
      exact (put_keeps (hr name removed htaken)).bind keeps_looksBack fun _ => each_done _
    | ok => exact (each_request fun _ => trivial).bind keeps_looksBack fun _ => each_done _

end Registry

/-! ## Hosts under their names -/

/-- **Hosts stand under their names**, in the registry and among the kept connectors. -/
structure PoolState.Named (s : PoolState) : Prop where
  /-- A registered host stands under its name. -/
  registered : Registry.Named s.registry.hosts
  /-- A connector is kept under the name of the host that it is for. -/
  kept : ∀ host c, s.kept.get? host = some c → c.entry.name = host

theorem PoolState.isLawful_registryPart : registryPart.IsLawful :=
  ⟨fun _ _ => rfl⟩

/-- What the registry keeps is kept in the state of a pool. -/
theorem Registry.keeps_inside {α : Type} {x : Action Registry α}
    (h : x.Each (Deed.Keeps fun r => Named r.hosts)) :
    (x.inside PoolState.registryPart).Each (Deed.Keeps PoolState.Named) :=
  h.keeps_inside PoolState.isLawful_registryPart (fun _ hs => hs.registered)
    fun _ _ hs hu => ⟨hu, hs.kept⟩

namespace ConnectorPool

variable {pool : ConnectorPool} {α : Type} {x : Action PoolState α}

/-- **What keeps a connector only after a look at its entry** keeps hosts under their names. -/
theorem keeps_of_arises (h : x.Each (Arises pool))
    (hobeys : x.Obeys (fun _ => True) PoolState.Change) : x.Each (Deed.Keeps PoolState.Named) := by
  intro t d y hafter
  cases d with
  | changed s s' =>
    intro hmet hs
    have hchange : PoolState.Change s s' := hobeys.of_after_snoc hafter
    refine ⟨hchange.registry ▸ hs.registered, fun host c hc => ?_⟩
    obtain hfewer | ⟨hheld, hlooked, heq⟩ := h t _ y hafter
    · exact hs.kept host c (hfewer host c hc)
    · rename_i host' entry s₁ u
      obtain ⟨rfl, rfl⟩ : s = s₁ ∧ s' = _ := by simpa using heq
      rw [PoolState.get?_kept_create] at hc
      split at hc
      · -- the entry that was read stood under its name
        rename_i hhost
        obtain ⟨t₁, s₂, t₂, rfl, hfound⟩ := hlooked
        obtain ⟨t₀, rfl, -⟩ := exists_of_since hheld
        have hs₂ : s₂.Named := (hmet (.changed s₂ s₂) (by simp)).1
        rw [← Option.some.inj hc, ← hhost]
        exact hs₂.registered host' entry hfound
      · exact hs.kept host c hc
  | asked | forked => trivial

/-! ## Jobs -/

/-- **What a thread does with a pool or its registry.** -/
inductive Job : Type 1 where
  /-- It is a client of the pool. -/
  | client (c : Client)
  /-- It adds a host. -/
  | add (e : HostEntry)
  /-- It removes a host. -/
  | remove (name : String)

namespace Job

/-- **The thread of a job.** -/
def action (pool : ConnectorPool) : Job → Action PoolState Unit
  | client c => c.action pool
  | add e => (Registry.add e).inside PoolState.registryPart >>= fun _ => done ()
  | remove name => (Registry.remove name).inside PoolState.registryPart >>= fun _ => done ()

/-- **The operations of a job take locks in order.** -/
def IsOrderly : Job → Prop
  | client c => c.IsOrderly
  | _ => True

theorem keeps (pool : ConnectorPool) (job : Job) :
    (job.action pool).Each (Deed.Keeps PoolState.Named) := by
  cases job with
  | client c =>
    have harises : (c.action pool).Each (Arises pool) := by
      cases c with
      | get host => exact (get_each pool host).bind arises_looksBack fun _ => each_done _
      | call secs host operation =>
        exact (callWithin_each pool secs host operation).bind arises_looksBack fun _ => each_done _
      | invalidate host => exact invalidate_each pool host
    exact keeps_of_arises harises (c.obeys pool)
  | add e =>
    exact (Registry.keeps_inside (Registry.add_keeps e)).bind keeps_looksBack fun _ =>
      each_done _
  | remove name =>
    exact (Registry.keeps_inside (Registry.remove_keeps name)).bind keeps_looksBack fun _ =>
      each_done _

theorem starts (pool : ConnectorPool) (job : Job) : (job.action pool).Starts Discreet := by
  cases job with
  | client c =>
    cases c with
    | get host => exact (get_starts pool host).bind fun _ => trivial
    | call secs host operation =>
      exact (callWithin_starts pool secs host operation).bind fun _ => trivial
    | invalidate host => exact invalidate_starts host
  | add e =>
    have hadd : (Registry.add e).Starts fun _ => False := Registry.add_starts e
    exact (hadd.inside fun _ h => h.elim).bind fun _ => trivial
  | remove name =>
    have hremove : (Registry.remove name).Starts fun _ => False := Registry.remove_starts name
    exact (hremove.inside fun _ h => h.elim).bind fun _ => trivial

/-- **Jobs take locks in order** if their operations do. -/
theorem orderly (pool : ConnectorPool) {job : Job} (h : job.IsOrderly) :
    Orderly [] (job.action pool) [] := by
  have hregistry : ∀ {β : Type} {body : Action Registry β} {q : Registry → Registry → Prop},
      body.Obeys Request.KeepsLocks q → Orderly [] (withLock .registry body) [] := fun hbody =>
    Orderly.withLock (fun _ hl => absurd hl List.not_mem_nil) hbody.orderly
  cases job with
  | client c => exact c.orderly pool h
  | add e =>
    have hadd : Orderly [] (Registry.add e) [] := by
      cases hvalid : e.validate with
      | ok =>
        rw [Registry.add_of_validate hvalid]
        exact hregistry (Registry.addition_obeys e)
      | error why =>
        rw [Registry.add_of_not_validate hvalid]
        rfl
    exact (hadd.inside _).bind fun _ => rfl
  | remove name =>
    exact ((hregistry (Registry.removal_obeys name)).inside _).bind fun _ => rfl

end Job

/-- **A pool that is used**, with the hosts of some entries, before anything is done. -/
def started (pool : ConnectorPool) (path : String) (entries : List HostEntry)
    (jobs : List Job) : System PoolState :=
  .start { registry := { path := path, hosts := Registry.hostsOf entries } }
    (jobs.map (Job.action pool))

/-- **Hosts stand under their names all the time**, and each thread meets them so. -/
theorem named_of_reaches {answers : Answers} {path : String} {entries : List HostEntry}
    {jobs : List Job} {sys : System PoolState}
    (h : System.Reaches answers (pool.started path entries jobs) sys) (i : Nat) :
    ∀ d ∈ sys.scene.pastOf i, d.Meets PoolState.Named := by
  have hnamed : PoolState.Named { registry := { path, hosts := Registry.hostsOf entries } } :=
    ⟨Registry.named_hostsOf entries, fun host c hc => by simp at hc⟩
  refine (System.Reaches.meets (K := PoolState.Named) (p := fun _ => True)
    (q := PoolState.Quiet fun _ => True) h hnamed (fun x hx => ?_) fun s s' hq hs => ?_).2 i
  · obtain ⟨job, -, rfl⟩ := List.mem_map.1 hx
    exact ⟨job.keeps pool, job.starts pool⟩
  · refine ⟨?_, ?_⟩
    · rw [hq.registry]
      exact hs.registered
    · rw [hq.kept]
      exact hs.kept

end ConnectorPool

end NetUnits
