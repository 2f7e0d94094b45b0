import NetUnits.Proofs.Connector.Lookup
import NetUnits.Proofs.Host.Change
import NetUnits.Proofs.Host.Entry
import NetUnits.Proofs.Service.Probe

/-! # What services make of registered hosts and of connectors

A service changes its registered hosts in whole sections, of which each adds a host, removes one or
leaves them as they were. Connectors are kept as calls keep them. What goes on beside changes
neither, nor the remembered generations.

* **`ServiceState.hosts`** — the registered hosts.
* **`Service.Registers`** — what a section comes to; **`Service.Built.sections`** — there are no
  others.
* **`Service.Built.each_arises`** — which connectors are kept.
* **`Service.perform_starts_discreet`** — what goes on beside tasks. -/

namespace NetUnits

open NetUnits.Action NetUnits.Deed

/-! ## The registry as a part of the state -/

namespace ServiceState

/-- The registered hosts. -/
def hosts (σ : ServiceState) : Dict HostEntry :=
  σ.pool.registry.hosts

/-- The registry, as a part of the state. -/
def registryPart : Action.Part ServiceState Registry where
  get := fun σ => σ.pool.registry
  set := fun registry σ => { σ with pool := { σ.pool with registry } }

theorem isLawful_registryPart : registryPart.IsLawful :=
  ⟨fun _ _ => rfl⟩

end ServiceState

namespace Service

open NetUnits.ConnectorPool NetUnits.ServiceState

variable {s : Service} {α β : Type} {forgotten : String → Prop} {x : Action ServiceState α}
  {t u : List (Deed ServiceState)}

theorem onRegistry_eq (x : Action Registry α) : onRegistry x = x.inside registryPart := by
  rw [onRegistry]
  induction x with
  | done a => rfl
  | ask r k ih => exact congrArg _ (funext ih)
  | atomic v k ih => exact congrArg _ (funext fun σ => ih _)
  | fork other next ihother ih => exact congr (congrArg _ ihother) ih

theorem onRegistry_withLock (body : Action Registry α) :
    onRegistry (withLock .registry body) = withLock .registry (body.inside registryPart) := by
  rw [onRegistry_eq, inside_withLock]

/-! ## Sections -/

/-- **What a section under the lock of the registry comes to.** -/
inductive Registers (u : List (Deed ServiceState)) : Prop where
  /-- The hosts are as they were. -/
  | unchanged (eq : ∀ v v', Passes hosts v u v' → v' = v)
  /-- A host is added. -/
  | added (entry : HostEntry) (valid : entry.validate = .ok ())
    (run : Run (onRegistry (Registry.add entry)) (locked .registry u) (.ok ()))
    (eq : ∀ v v', Passes hosts v u v' → v' = v.insert entry.name entry)
  /-- A host that was there is removed. -/
  | removed (name : String)
    (eq : ∀ v v', Passes hosts v u v' → v.contains name = true ∧ v' = v.erase name)

theorem registers_of_leaves (h : ∀ d ∈ u, d.Leaves hosts) : Registers u :=
  .unchanged fun _ _ hpasses => hpasses.eq_of_leaves h

/-- **An entry that is registered after a section** was so before, or the section has added it. -/
theorem Registers.exists_of_get? {v v' : Dict HostEntry} {name : String} {entry : HostEntry}
    (h : Registers u) (hpasses : Passes hosts v u v') (hentry : v'.get? name = some entry) :
    v.get? name = some entry ∨ entry.name = name ∧ entry.validate = .ok () ∧
      Run (onRegistry (Registry.add entry)) (locked .registry u) (.ok ()) := by
  cases h with
  | unchanged heq => exact .inl (heq v v' hpasses ▸ hentry)
  | removed gone heq =>
    rw [(heq v v' hpasses).2, Dict.get?_erase] at hentry
    exact .inl (Option.ite_none_left_eq_some.1 hentry).2
  | added new hvalid hrun heq =>
    rw [heq v v' hpasses, Dict.get?_insert] at hentry
    by_cases hname : new.name = name
    · rw [if_pos hname] at hentry
      obtain rfl := Option.some.inj hentry
      exact .inr ⟨hname, hvalid, hrun⟩
    · rw [if_neg hname] at hentry
      exact .inl hentry

/-- What is passed on under the lock, as the registry sees it. -/
theorem passes_registryPart {v v' : Dict HostEntry} (h : Passes hosts v u v') :
    Passes Registry.hosts v (u.map (Deed.on registryPart)) v' :=
  (passes_map_on_iff registryPart).2 h

theorem registers_of_run_addition {entry : HostEntry} {result : Except HostError Unit}
    (hvalid : entry.validate = .ok ())
    (hrun : Run ((Registry.addition entry).inside registryPart) u result) : Registers u := by
  have haddition := ((run_inside_iff isLawful_registryPart).1 hrun).1
  cases result with
  | ok =>
    refine .added entry hvalid ?_ fun v v' hv => ?_
    · rw [Registry.add_of_validate hvalid, onRegistry_withLock]
      exact run_withLock_iff.2 ⟨u, rfl, hrun⟩
    · obtain ⟨-, rfl⟩ | ⟨⟨why, hwhy⟩, -⟩ :=
        Registry.passes_of_run_addition haddition (passes_registryPart hv)
      · rfl
      · cases hwhy
  | error why =>
    refine .unchanged fun v v' hv => ?_
    obtain ⟨hok, -⟩ | ⟨-, rfl⟩ := Registry.passes_of_run_addition haddition (passes_registryPart hv)
    · cases hok
    · rfl

theorem registers_of_run_removal {name : String} {result : Except HostError Bool}
    (hrun : Run ((Registry.removal name).inside registryPart) u result) : Registers u := by
  have hremoval := ((run_inside_iff isLawful_registryPart).1 hrun).1
  by_cases hdone : result = .ok true
  · refine .removed name fun v v' hv => ?_
    obtain ⟨-, hthere, rfl⟩ | ⟨hne, -⟩ :=
      Registry.passes_of_run_removal hremoval (passes_registryPart hv)
    · exact ⟨hthere, rfl⟩
    · exact absurd hdone hne
  · refine .unchanged fun v v' hv => ?_
    obtain ⟨hok, -⟩ | ⟨-, rfl⟩ := Registry.passes_of_run_removal hremoval (passes_registryPart hv)
    · exact absurd hok hdone
    · rfl

theorem registers_obeys {body : Action Registry α}
    (h : body.Obeys Request.KeepsLocks fun _ _ => True) :
    (body.inside registryPart).Obeys Request.KeepsLocks fun _ _ => True :=
  h.inside _ fun _ _ _ => trivial

theorem add_sections (entry : HostEntry) :
    (onRegistry (Registry.add entry)).Sections .registry hosts Registers := by
  cases hvalid : entry.validate with
  | error why =>
    rw [Registry.add_of_not_validate hvalid]
    exact sections_of_leaves (p := fun _ => True) (q := fun _ _ => False)
      (fun _ => registers_of_leaves) trivial fun _ _ h => h.elim
  | ok =>
    rw [Registry.add_of_validate hvalid, onRegistry_withLock]
    exact sections_withLock (registers_obeys (Registry.addition_obeys entry)) fun _ _ =>
      registers_of_run_addition hvalid

theorem remove_sections (name : String) :
    (onRegistry (Registry.remove name)).Sections .registry hosts Registers := by
  rw [Registry.remove_eq, onRegistry_withLock]
  exact sections_withLock (registers_obeys (Registry.removal_obeys name)) fun _ _ =>
    registers_of_run_removal

/-! ## What changes connectors only -/

/-- **Of what connectors share only what belongs to connectors changes.** -/
def Pools (σ σ' : ServiceState) : Prop :=
  PoolState.Change σ.pool σ'.pool

theorem pools_of_eq {σ σ' : ServiceState} (h : σ'.pool = σ.pool) : Pools σ σ' :=
  .quiet (p := fun _ => False) (h ▸ .refl _)

theorem Pools.hosts_eq {σ σ' : ServiceState} (h : Pools σ σ') : σ'.hosts = σ.hosts :=
  congrArg Registry.hosts (PoolState.Change.registry h)

theorem call_pools (host : String) (operation : Operation α) :
    (s.call host operation.on).Obeys (fun _ => True) Pools := by
  have hcall : ((s.pool.call host operation.on).inside poolPart).Obeys (fun _ => True) Pools :=
    (callWithin_obeys s.pool _ host operation).inside _ fun _ _ h => h
  exact hcall.bind fun result => by cases result <;> trivial

theorem hostGeneration_pools (host : String) :
    (s.hostGeneration host).Obeys (fun _ => True) Pools := by
  refine Obeys.bind (x := look) (fun σ => ⟨pools_of_eq rfl, trivial⟩) fun σ => ?_
  cases σ.generations.get? (hostKey host) with
  | some g => trivial
  | none =>
    refine (call_pools host Operation.version).andThen fun output => ?_
    refine (generationOf_obeys (fun _ => trivial) (hostKey host) output).bind fun g => ?_
    exact Obeys.bind (obeys_change fun σ => pools_of_eq rfl) fun _ => trivial

theorem schemasOf_pools (version : Nat) : (s.schemasOf version).Obeys (fun _ => True) Pools :=
  (schemasOf_obeys version).mono (fun _ h => h) fun _ _ h => pools_of_eq h.1

theorem list_pools : (onRegistry Registry.list).Obeys (fun _ => True) Pools := by
  have hlist : Registry.list.Obeys (fun _ => True) fun r r' => r' = r :=
    Obeys.withLock trivial trivial (Obeys.bind (x := look) (fun _ => ⟨rfl, trivial⟩) fun _ =>
      trivial)
  rw [onRegistry_eq]
  refine hlist.inside _ fun σ r h => pools_of_eq ?_
  obtain rfl : r = σ.pool.registry := h
  rfl

theorem invalidate_pools (host : String) :
    (Service.invalidate host).Obeys (fun _ => True) Pools := by
  have hforget : ((ConnectorPool.invalidate host).inside poolPart).Obeys (fun _ => True) Pools :=
    (invalidate_obeys host).inside _ fun σ p h => by
      obtain rfl : p = (σ.pool.forget host).2 := h
      exact PoolState.change_forget σ.pool host
  exact hforget.bind fun _ => obeys_change fun _ => pools_of_eq rfl

/-- **Services change their registered hosts in sections.** -/
theorem Built.sections (h : Built s forgotten x) : x.Sections .registry hosts Registers := by
  have hpools : ∀ {γ : Type} {y : Action ServiceState γ}, y.Obeys (fun _ => True) Pools →
      y.Sections .registry hosts Registers := fun hy =>
    sections_of_leaves (fun _ => registers_of_leaves) hy fun _ _ hq => hq.hosts_eq
  induction h with
  | done a => exact hpools (y := .done a) trivial
  | @ask α r k _ _ ih => exact Sections.bind (hpools (obeys_request (r := r) trivial)) ih
  | call host operation _ _ ih => exact (hpools (call_pools host operation)).bind ih
  | generation host _ ih => exact (hpools (hostGeneration_pools host)).bind ih
  | schemas version _ ih => exact (hpools (schemasOf_pools version)).bind ih
  | registered _ ih => exact (hpools list_pools).bind ih
  | add entry _ ih => exact (add_sections entry).bind ih
  | remove name _ ih => exact (remove_sections name).bind ih
  | invalidate host _ _ ih => exact (hpools (invalidate_pools host)).bind ih

/-! ## Connectors -/

/-- **Which connectors are kept** after a deed, as the pool sees it. -/
def ArisesIn (s : Service) (t : List (Deed ServiceState)) (d : Deed ServiceState) : Prop :=
  Arises s.pool (t.map (Deed.on poolPart)) (d.on poolPart)

/-- **An entry that a service has read** under the lock of the registry. -/
theorem exists_of_looked_map {host : String} {entry : HostEntry}
    (h : Looked host entry (t.map (Deed.on poolPart))) : ∃ t₁ σ₁ σ₂ t₂,
      t = t₁ ++ .asked (.acquire .registry) () :: .changed σ₁ σ₂ :: t₂ ∧
        (hosts σ₁).get? host = some entry := by
  obtain ⟨v, p, v', hv, hfound⟩ := h
  obtain ⟨t₁, t₂, rfl, rfl, hrest⟩ := List.map_eq_append_iff.1 hv
  obtain ⟨d₁, t₂, rfl, hd₁, hrest⟩ := List.map_eq_cons_iff.1 hrest
  obtain ⟨d₂, t₂, rfl, hd₂, rfl⟩ := List.map_eq_cons_iff.1 hrest
  obtain rfl : d₁ = .asked (.acquire .registry) () := by
    cases d₁ with
    | asked r reply => cases hd₁; rfl
    | changed | forked => cases hd₁
  cases d₂ with
  | changed σ₁ σ₂ =>
    obtain ⟨rfl, -⟩ := Deed.changed.inj hd₂
    exact ⟨t₁, σ₁, σ₂, t₂, rfl, hfound⟩
  | asked | forked => cases hd₂

theorem arisesIn_looksBack : LooksBack (ArisesIn s) := by
  intro t₀ t d h
  rw [ArisesIn, List.map_append]
  exact arises_looksBack _ _ _ h

theorem each_arisesIn {y : Action PoolState β} (h : y.Each (Arises s.pool)) :
    (y.inside poolPart).Each (ArisesIn s) :=
  h.inside isLawful_poolPart fun _ _ hd _ => hd

/-- What changes nothing that connectors share needs no reason. -/
theorem each_arisesIn_of_eq {p : Request → Prop} {q : ServiceState → ServiceState → Prop}
    (h : x.Obeys p q) (hq : ∀ σ σ', q σ σ' → σ'.pool.kept = σ.pool.kept) :
    x.Each (ArisesIn s) :=
  h.each fun _ d hd => .fewer (by
    cases d with
    | changed σ σ' => exact fun _ _ hc => hq σ σ' hd ▸ hc
    | asked | forked => trivial)

theorem call_each (host : String) (operation : Operation α) :
    (s.call host operation.on).Each (ArisesIn s) :=
  (each_arisesIn (callWithin_each s.pool _ host operation)).bind arisesIn_looksBack
    fun result => by cases result <;> exact each_done _

theorem onRegistry_kept (y : Action Registry β) :
    (onRegistry y).Obeys (fun _ => True) fun σ σ' => σ'.pool.kept = σ.pool.kept := by
  rw [onRegistry_eq]
  exact (obeys_true y).inside _ fun _ _ _ => rfl

/-- **Services keep new connectors only as calls do.** -/
theorem Built.each_arises (h : Built s forgotten x) : x.Each (ArisesIn s) := by
  induction h with
  | done a => exact each_done a
  | ask _ _ ih => exact (each_request fun _ => .fewer trivial).bind arisesIn_looksBack ih
  | call host operation _ _ ih => exact (call_each host operation).bind arisesIn_looksBack ih
  | schemas version _ ih =>
    exact (each_arisesIn_of_eq (schemasOf_obeys version) fun _ _ h =>
      congrArg PoolState.kept h.1).bind arisesIn_looksBack ih
  | registered _ ih =>
    exact (each_arisesIn_of_eq (onRegistry_kept _) fun _ _ h => h).bind arisesIn_looksBack ih
  | add entry _ ih =>
    exact (each_arisesIn_of_eq (onRegistry_kept _) fun _ _ h => h).bind arisesIn_looksBack ih
  | remove name _ ih =>
    exact (each_arisesIn_of_eq (onRegistry_kept _) fun _ _ h => h).bind arisesIn_looksBack ih
  | invalidate host _ _ ih =>
    refine Each.bind arisesIn_looksBack ?_ ih
    exact (each_arisesIn (ConnectorPool.invalidate_each s.pool host)).bind arisesIn_looksBack
      fun _ => each_change fun _ => .fewer fun _ _ hc => hc
  | generation host _ ih =>
    refine Each.bind arisesIn_looksBack ?_ ih
    refine (each_change (f := fun σ : ServiceState => (σ, σ)) fun _ =>
      .fewer fun _ _ hc => hc).bind arisesIn_looksBack fun σ => ?_
    cases σ.generations.get? (hostKey host) with
    | some g => exact each_done _
    | none =>
      refine (call_each host Operation.version).andThen arisesIn_looksBack fun output => ?_
      have htold : (s.generationOf (hostKey host) output).Obeys Request.KeepsLocks
        fun _ _ => False := generationOf_obeys (fun _ _ => rfl) (hostKey host) output
      exact (each_arisesIn_of_eq htold fun _ _ h => h.elim).bind arisesIn_looksBack fun g =>
        (each_change fun _ => .fewer fun _ _ hc => hc).bind arisesIn_looksBack fun _ => each_done _

/-! ## What goes on beside -/

/-- **Hosts, kept connectors and generations stay the same.** -/
structure Stays (σ σ' : ServiceState) : Prop where
  /-- The hosts are the same. -/
  hosts : σ'.hosts = σ.hosts
  /-- The kept connectors are the same. -/
  kept : σ'.pool.kept = σ.pool.kept
  /-- The remembered generations are the same. -/
  generations : σ'.generations = σ.generations

/-- **What goes on beside tasks** changes neither hosts nor connectors nor generations. -/
theorem perform_starts_discreet (tasks : List Task) :
    (s.perform tasks).Starts (·.Obeys (fun _ => True) Stays) := by
  have hbuilt : Built s (fun _ => True) (s.perform tasks) :=
    perform_built fun _ _ _ _ => trivial
  have hregistry : ∀ {γ : Type} {y : Action Registry γ}, y.Starts (fun _ => False) →
      (onRegistry y).Starts (·.Obeys (fun _ => True) Stays) := fun hy => by
    rw [onRegistry_eq]
    exact hy.inside fun _ h => h.elim
  have hpool : ∀ {γ : Type} {y : Action PoolState γ}, y.Starts Discreet →
      (y.inside poolPart).Starts (·.Obeys (fun _ => True) Stays) := fun hy =>
    hy.inside fun z hz => Obeys.inside poolPart hz fun σ p hp =>
      ⟨congrArg Registry.hosts hp.registry, hp.kept, rfl⟩
  refine hbuilt.starts (fun host operation => ?_) (fun version => ?_)
    (hregistry Registry.list_starts) (fun entry => hregistry (Registry.add_starts entry))
    (fun name => hregistry (Registry.remove_starts name)) fun host => ?_
  · exact (hpool (callWithin_starts s.pool _ host operation)).bind fun result => by
      cases result <;> trivial
  · exact ((schemasOf_obeys version).mono (fun _ h => h) fun _ _ h =>
      ⟨congrArg (fun p => p.registry.hosts) h.1, congrArg PoolState.kept h.1, h.2⟩).starts
  · exact hpool (invalidate_starts host)

end Service

end NetUnits
