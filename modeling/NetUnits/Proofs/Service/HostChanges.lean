import NetUnits.Proofs.Service.Registration
import NetUnits.Proofs.Service.Unknown

/-! # Changes of registered hosts

A command changes the entry for a host in the registry and then makes the service forget the host.
Meanwhile others may copy the old entry into a connector, but only under the lock of the kept
connectors, so none of these copies outlives the command.

* **`Service.served`** — a service that is asked many things at the same time.
* **`Service.AddedSince`** — an entry was added since some moment.
* **`Service.stems_of_settled`**, **`Service.madeFrom_of_kept`** — where the registered entry, and
  that of the kept connector for a host, come from.
* **`Service.known_or_probed`** — where a remembered generation comes from.
* **`Service.Changes`** — a command changes the entry for its host;
  **`Service.exists_of_run_execute`** — a command that has returned has done so. -/

namespace NetUnits.Service

open NetUnits.Action NetUnits.Deed NetUnits.ConnectorPool NetUnits.ServiceState

variable {answers : Answers} {s : Service} {σ : ServiceState} {tasks : List (List Task)}
  {sys₀ sys₁ sys sys' : System ServiceState} {h : String} {t u : List (Deed ServiceState)}
  {i j : Nat} {command : CommandLine.HostsCommand} {own : HostEntry → Prop} {entry : HostEntry}

/-! ## Many tasks at the same time -/

/-- **A service that is asked many things at the same time**: each thread does some tasks, one after
the other. -/
def served (s : Service) (σ : ServiceState) (tasks : List (List Task)) : System ServiceState :=
  .start σ (tasks.map s.perform)

theorem built_of_mem {x : Action ServiceState Unit} (hx : x ∈ tasks.map s.perform) :
    Built s (fun _ => True) x ∧ x.Starts (·.Obeys (fun _ => True) Stays) := by
  obtain ⟨list, -, rfl⟩ := List.mem_map.1 hx
  exact ⟨perform_built fun _ _ _ _ => trivial, perform_starts_discreet list⟩

theorem sections_of_mem {x : Action ServiceState Unit} (hx : x ∈ tasks.map s.perform) :
    x.Sections .registry hosts Registers ∧ x.Starts (·.Obeys (fun _ => True) Stays) :=
  (built_of_mem hx).imp_left Built.sections

theorem guards_of_served (hreach : System.Reaches answers (s.served σ tasks) sys) :
    System.Guards .registry hosts sys :=
  hreach.guards (fun _ => registers_of_leaves) (fun _ => sections_of_mem) fun _ _ hq => hq.hosts

/-- **How kept connectors change** in each step of a thread. -/
theorem arisesIn_of_served (hreach : System.Reaches answers (s.served σ tasks) sys)
    {d : Deed ServiceState} (hpast : sys.scene.pastOf i = t ++ d :: u) : ArisesIn s t d := by
  refine hreach.forall_deeds (p := fun _ => True) (q := Stays) (fun x hx => ?_)
    (fun t d hd => ?_) hpast
  · exact (built_of_mem hx).imp_left Built.each_arises
  · refine .fewer ?_
    cases d with
    | changed σ σ' => exact fun _ _ hc => (hd : Stays σ σ').kept ▸ hc
    | asked | forked => trivial

/-- **How remembered generations change** in each step of a thread. -/
theorem recorded_of_served (hreach : System.Reaches answers (s.served σ tasks) sys)
    {d : Deed ServiceState} (hpast : sys.scene.pastOf i = t ++ d :: u) :
    Recorded s (fun _ => True) t d := by
  refine hreach.forall_deeds (p := fun _ => True) (q := Stays) (fun x hx => ?_)
    (fun t d hd => ?_) hpast
  · exact (built_of_mem hx).imp_left Built.each_recorded
  · refine .leaves ?_
    cases d with
    | changed σ σ' => exact (hd : Stays σ σ').generations
    | asked | forked => trivial

/-! ## Where entries come from -/

/-- **An entry was added since some moment**: all that a thread had to do under the lock of the
registry for that was done later. -/
def AddedSince (sys₀ sys : System ServiceState) (entry : HostEntry) : Prop :=
  ∃ i t u v, sys.scene.pastOf i = sys₀.scene.pastOf i ++ t ++ u ++ v ∧
    Run (onRegistry (Registry.add entry)) u (.ok ())

theorem AddedSince.mono (hadded : AddedSince sys₀ sys entry)
    (hreach : System.Reaches answers sys sys') : AddedSince sys₀ sys' entry := by
  obtain ⟨i, t, u, v, hpast, hrun⟩ := hadded
  obtain ⟨w, hw⟩ := hreach.exists_pastOf i
  exact ⟨i, t, u, v ++ w, by rw [hw, hpast, List.append_assoc], hrun⟩

/-- **Where an entry for a host comes from**: it is one of some, or was added since some moment. -/
def Stems (own : HostEntry → Prop) (h : String) (sys₀ sys : System ServiceState)
    (entry : HostEntry) : Prop :=
  entry.name = h ∧ (own entry ∨ AddedSince sys₀ sys entry)

theorem Stems.mono (hstems : Stems own h sys₀ sys entry)
    (hreach : System.Reaches answers sys sys') : Stems own h sys₀ sys' entry :=
  ⟨hstems.1, hstems.2.imp_right fun hadded => hadded.mono hreach⟩

/-- **Where the registered entry for a host comes from**, after a moment at which the registry is
not locked. -/
theorem stems_of_settled (hreach₀ : System.Reaches answers (s.served σ tasks) sys₀)
    (hfree : sys₀.scene.holder .registry = none)
    (hfirst : ∀ entry, (hosts sys₀.scene.state).get? h = some entry → entry.name = h ∧ own entry)
    (hreach : System.Reaches answers sys₀ sys) {v : Dict HostEntry}
    (hv : System.Settled .registry hosts sys v) (hentry : v.get? h = some entry) :
    Stems own h sys₀ sys entry := by
  refine hreach₀.keeps_settled (K := fun sys v => ∀ entry, v.get? h = some entry →
      Stems own h sys₀ sys entry) hreach (fun _ => registers_of_leaves) (fun _ => sections_of_mem)
    (fun _ _ hq => hq.hosts) ?_ ?_ ?_ hv entry hentry
  · intro v hv entry hentry
    obtain rfl := hv.eq_of_free hreach₀ hfree
    exact ⟨(hfirst entry hentry).1, .inl (hfirst entry hentry).2⟩
  · exact fun sys₁ sys₂ v hsteps hK entry hentry => (hK entry hentry).mono hsteps
  · intro sys₁ sys₂ i u v hreach₁ hsteps hscene hu hregisters hpasses hK entry hentry
    obtain hold | ⟨hname, -, hrun⟩ := hregisters.exists_of_get? hpasses hentry
    · exact (hK entry hold).mono hsteps
    · refine ⟨hname, .inr ?_⟩
      -- the lock was free at the first moment, so it was taken later
      obtain ⟨t, ht⟩ := hreach₁.exists_pastOf i
      rw [ht, since_append_of_none (hreach₀.since_eq_none hfree i)] at hu
      obtain ⟨p, rfl, -⟩ := exists_of_since hu
      refine ⟨i, p, locked .registry u, [], ?_, hrun⟩
      rw [hscene, Scene.pastOf_after_self, ht]
      simp [locked]

/-- **No host is registered under a name of this machine**, if none was at first. -/
theorem isLocalHost_of_settled
    (hfirst : ∀ name entry, (hosts σ).get? name = some entry → isLocalHost name = false)
    (hreach : System.Reaches answers (s.served σ tasks) sys) {v : Dict HostEntry}
    (hv : System.Settled .registry hosts sys v) {name : String}
    (hentry : v.get? name = some entry) : isLocalHost name = false := by
  have hstart : System.Reaches answers (s.served σ tasks) (s.served σ tasks) := .refl
  refine hstart.keeps_settled (K := fun _ v => ∀ name entry, v.get? name = some entry →
      isLocalHost name = false) hreach (fun _ => registers_of_leaves) (fun _ => sections_of_mem)
    (fun _ _ hq => hq.hosts) ?_ (fun _ _ _ _ hK => hK) ?_ hv name entry hentry
  · intro v hv
    obtain rfl := hv.eq_of_free hstart rfl
    exact hfirst
  · intro sys₁ sys₂ i u v _ _ _ _ hregisters hpasses hK name entry hentry
    obtain hold | ⟨hname, hvalid, -⟩ := hregisters.exists_of_get? hpasses hentry
    · exact hK name entry hold
    · exact hname ▸ HostEntry.isLocalHost_of_validate hvalid

/-! ## Where connectors come from -/

/-- **A connector was made from an entry** that comes from where entries for the host come from. -/
def MadeFrom (s : Service) (own : HostEntry → Prop) (h : String)
    (sys₀ sys : System ServiceState) (c : RemoteConnector) : Prop :=
  ∃ entry number, c = s.pool.connectorFor entry number ∧ Stems own h sys₀ sys entry

theorem MadeFrom.mono {c : RemoteConnector} (hmade : MadeFrom s own h sys₀ sys c)
    (hreach : System.Reaches answers sys sys') : MadeFrom s own h sys₀ sys' c := by
  obtain ⟨entry, number, hc, hstems⟩ := hmade
  exact ⟨entry, number, hc, hstems.mono hreach⟩

/-- **An entry that is read under both locks is the registered one** then. -/
theorem stems_of_looked (hreach₀ : System.Reaches answers (s.served σ tasks) sys₀)
    (hfree : sys₀.scene.holder .registry = none)
    (hfirst : ∀ entry, (hosts sys₀.scene.state).get? h = some entry → entry.name = h ∧ own entry)
    (hreach₁ : System.Reaches answers sys₀ sys₁)
    (hunlocked : sys₁.scene.holder .connectors = none)
    (hreach : System.Reaches answers sys₁ sys) {v : List (Deed ServiceState)}
    (hheld : since .connectors (sys.scene.pastOf i) = some v)
    (hlooked : Looked h entry (v.map (Deed.on poolPart))) : Stems own h sys₀ sys entry := by
  -- the lock of the connectors was taken after it was free, and the entry was read after that
  obtain ⟨t, ht⟩ := hreach.exists_pastOf i
  rw [ht, since_append_of_none
    (System.Reaches.since_eq_none (hreach₀.trans hreach₁) hunlocked i)] at hheld
  obtain ⟨p, rfl, -⟩ := exists_of_since hheld
  obtain ⟨w₁, σ₁, σ₂, w₂, rfl, hfound⟩ := exists_of_looked_map hlooked
  have hsplit : sys.scene.pastOf i = sys₁.scene.pastOf i ++ (p ++
      .asked (.acquire .connectors) () :: w₁ ++ [.asked (.acquire .registry) (),
        .changed σ₁ σ₂]) ++ w₂ := by rw [ht]; simp
  obtain ⟨sys₂, h₁₂, h₂, hpast⟩ := hreach.exists_split rfl hsplit
  have hsince : since .registry (sys₂.scene.pastOf i) = some [.changed σ₁ σ₂] := by
    have hlast : sys₂.scene.pastOf i = (sys₁.scene.pastOf i ++ p ++
        .asked (.acquire .connectors) () :: w₁) ++
          .asked (.acquire .registry) () :: [.changed σ₁ σ₂] := by rw [hpast]; simp
    rw [hlast]
    exact since_append_of_some (since_cons_acquire (by simp [Spares]))
  have hreach₂ : System.Reaches answers (s.served σ tasks) sys₂ :=
    (hreach₀.trans hreach₁).trans h₁₂
  obtain ⟨w, hpasses⟩ := hreach₂.passes_since (guards_of_served hreach₂) hsince
  obtain ⟨rfl, -⟩ := passes_singleton_iff.1 hpasses
  exact (stems_of_settled hreach₀ hfree hfirst (hreach₁.trans h₁₂) (.inr ⟨i, _, hsince, hpasses⟩)
    hfound).mono h₂

/-- **Where the kept connector for a host comes from**, after a moment at which none was kept. -/
theorem madeFrom_of_kept (hreach₀ : System.Reaches answers (s.served σ tasks) sys₀)
    (hfree : sys₀.scene.holder .registry = none)
    (hfirst : ∀ entry, (hosts sys₀.scene.state).get? h = some entry → entry.name = h ∧ own entry)
    (hreach₁ : System.Reaches answers sys₀ sys₁)
    (hunlocked : sys₁.scene.holder .connectors = none)
    {sys₂ : System ServiceState} (hreach₂ : System.Reaches answers sys₁ sys₂)
    (hnone : sys₂.scene.state.pool.kept.get? h = none)
    (hreach : System.Reaches answers sys₂ sys) {c : RemoteConnector}
    (hc : sys.scene.state.pool.kept.get? h = some c) : MadeFrom s own h sys₀ sys c := by
  induction hreach generalizing c with
  | refl => cases hnone.symm.trans hc
  | tail hsteps hstep ih =>
    rename_i sys₃ sys₄
    have hnext : System.Reaches answers sys₃ sys₄ := .single hstep
    obtain ⟨i, @⟨x, y, d, started, -, -, hmay⟩⟩ := hstep
    have hreach₃ := ((hreach₀.trans hreach₁).trans hreach₂).trans hsteps
    have harises : ArisesIn s (sys₃.scene.pastOf i) d :=
      arisesIn_of_served (u := []) (hreach₃.trans hnext) Scene.pastOf_after_self
    cases d with
    | asked | forked => exact (ih hc).mono hnext
    | changed σ₁ σ₂ =>
      obtain rfl : σ₁ = sys₃.scene.state := hmay
      cases harises with
      | fewer hfewer => exact (ih (hfewer h c hc)).mono hnext
      | @created host entry p v hheld hlooked heq =>
        obtain ⟨rfl, hcreate⟩ := Deed.changed.inj heq
        have hc : (poolPart.get σ₂).kept.get? h = some c := hc
        rw [hcreate, PoolState.get?_kept_create] at hc
        by_cases hhost : host = h
        · subst hhost
          rw [if_pos rfl] at hc
          rw [since_map_on] at hheld
          obtain ⟨w, hw, rfl⟩ := Option.map_eq_some_iff.1 hheld
          exact ⟨entry, _, (Option.some.inj hc).symm, (stems_of_looked hreach₀ hfree hfirst hreach₁
            hunlocked (hreach₂.trans hsteps) hw hlooked).mono hnext⟩
        · rw [if_neg hhost] at hc
          exact (ih hc).mono hnext

/-- **Where a connector that is looked up comes from.** -/
theorem madeFrom_of_lookup {c : RemoteConnector} {a : List (Deed ServiceState)}
    (hkept : ∀ sys', System.Reaches answers sys₁ sys' → ∀ c,
      sys'.scene.state.pool.kept.get? h = some c → MadeFrom s own h sys₀ sys' c)
    (hreach : System.Reaches answers sys₁ sys)
    (hpast : sys.scene.pastOf i = sys₁.scene.pastOf i ++ t ++ a ++ u)
    (hrun : Run ((s.pool.lookup h).inside poolPart) a (.ok c)) : MadeFrom s own h sys₀ sys c := by
  obtain ⟨p, p', hmem, hc⟩ :=
    exists_kept_of_run_lookup ((run_inside_iff isLawful_poolPart).1 hrun).1
  obtain ⟨d, hd, hon⟩ := List.mem_map.1 hmem
  obtain ⟨σ₁, σ₂, rfl, rfl⟩ : ∃ σ₁ σ₂, d = .changed σ₁ σ₂ ∧ p' = σ₂.pool := by
    cases d with
    | changed σ₁ σ₂ => exact ⟨σ₁, σ₂, rfl, (Deed.changed.inj hon).2.symm⟩
    | asked | forked => cases hon
  -- it was kept in the step in which it was looked up
  obtain ⟨sys₂, sys₃, h₁₂, hstep, h₃, -, hscene⟩ := hreach.exists_step (t := t ++ a ++ u)
    (by rw [hpast]; simp) (List.mem_append_left _ (List.mem_append_right _ hd))
  refine (hkept sys₃ (h₁₂.trans hstep.reaches) c ?_).mono h₃
  rw [hscene]
  exact hc

/-! ## Where generations come from -/

/-- **A generation that is remembered** was so at some moment, or has been found out since. -/
theorem known_or_probed {key : String} {g : Nat}
    (hreach₀ : System.Reaches answers (s.served σ tasks) sys₀)
    (hreach : System.Reaches answers sys₀ sys)
    (hknown : sys.scene.state.generations.get? key = some g) :
    sys₀.scene.state.generations.get? key = some g ∨
      ∃ k p q r host, hostKey host = key ∧ sys.scene.pastOf k = p ++ q ++ r ∧
        Probed s host (fun g => done (.ok g)) q (.ok g) ∧
          (sys₀.scene.pastOf k).length < (p ++ q).length := by
  induction hreach generalizing g with
  | refl => exact .inl hknown
  | tail hsteps hstep ih =>
    rename_i sys₁ sys₂
    have hsteps : System.Reaches answers sys₀ sys₁ := hsteps
    have hnext : System.Reaches answers sys₁ sys₂ := .single hstep
    obtain ⟨i, @⟨x, y, d, started, -, -, hmay⟩⟩ := hstep
    have hrecorded : Recorded s (fun _ => True) (sys₁.scene.pastOf i) d :=
      recorded_of_served (u := []) ((hreach₀.trans hsteps).trans hnext) Scene.pastOf_after_self
    obtain hbefore | ⟨host, σ₁, t₀, t₁, hhost, hhistory, hunknown, hrun⟩ :=
      hrecorded.exists_of_get? (System.passes_after hmay) hknown
    · refine (ih hbefore).imp_right fun ⟨k, p, q, r, host, hhost, hpast, hprobed, hlt⟩ => ?_
      obtain ⟨w, hw⟩ := hnext.exists_pastOf k
      exact ⟨k, p, q, r ++ w, host, hhost, by rw [hw, hpast, List.append_assoc], hprobed, hlt⟩
    · refine .inr ⟨i, t₀, .changed σ₁ σ₁ :: t₁ ++ [d], [], host, hhost, ?_, ?_, ?_⟩
      · rw [Scene.pastOf_after_self, hhistory]
        simp
      · obtain ⟨g, σ, t', heq, hfound, -⟩ | hprobed := reused_or_probed_of_run hrun
        · obtain ⟨rfl, -⟩ := Deed.changed.inj (List.cons.inj heq).1
          rw [hhost, hunknown] at hfound
          cases hfound
        · exact hprobed
      · -- it was found out in the deeds of the thread up to now
        obtain ⟨w, hw⟩ := hsteps.exists_pastOf i
        have hle := congrArg List.length (hw.symm.trans hhistory)
        simp only [List.length_append, List.length_cons, List.length_nil] at hle ⊢
        omega

/-- **A generation that is remembered has been found out** since some moment at which none was. -/
theorem exists_probed {key : String} {g : Nat}
    (hreach₀ : System.Reaches answers (s.served σ tasks) sys₀)
    (hnone : sys₀.scene.state.generations.get? key = none)
    (hreach : System.Reaches answers sys₀ sys)
    (hknown : sys.scene.state.generations.get? key = some g) :
    ∃ k p q r host, hostKey host = key ∧ sys.scene.pastOf k = p ++ q ++ r ∧
      Probed s host (fun g => done (.ok g)) q (.ok g) ∧
        (sys₀.scene.pastOf k).length < (p ++ q).length :=
  (known_or_probed hreach₀ hreach hknown).resolve_left fun hfirst =>
    nomatch hnone.symm.trans hfirst

/-! ## Commands -/

/-- The host that a command changes. -/
def hostOf? : CommandLine.HostsCommand → Option String
  | .list => none
  | .add entry => some entry.name
  | .remove name => some name

/-- **A command changes the entry for its host.** -/
def Changes : CommandLine.HostsCommand → List (Deed ServiceState) → Prop
  | .list, _ => False
  | .add entry, t => Run (onRegistry (Registry.add entry)) t (.ok ())
  | .remove name, t => Run (onRegistry (Registry.remove name)) t (.ok true)

theorem run_of_run_ofRegistry {α : Type} {x : Action Registry (Except HostError α)} {a : α}
    (hrun : Run (CommandLine.ofRegistry x) t (.ok a)) : Run (onRegistry x) t (.ok a) := by
  obtain ⟨t₁, t₂, result, rfl, hx, hrest⟩ := run_bind_iff.1 hrun
  cases result with
  | error why => cases (run_done_iff.1 hrest).2
  | ok b =>
    obtain ⟨rfl, hok⟩ := run_done_iff.1 hrest
    obtain rfl := Except.ok.inj hok
    rwa [List.append_nil]

/-- **A command that has returned** has changed the registry and then made the service forget the
host. -/
theorem exists_of_run_execute (hhost : hostOf? command = some h)
    (hrun : Run command.execute t (.ok ())) :
    ∃ t₁ t₂, t = t₁ ++ t₂ ∧ Changes command t₁ ∧ Run (Service.invalidate h) t₂ () := by
  have hforget : ∀ {host : String} {t : List (Deed ServiceState)},
      Run (Service.invalidate host >>= fun a => done (.ok a) :
        Action ServiceState (Except CommandLine.CommandError Unit)) t (.ok ()) →
        Run (Service.invalidate host) t () := fun hrun => by
    obtain ⟨t₁, t₂, _, rfl, hinvalidate, hdone⟩ := run_bind_iff.1 hrun
    obtain ⟨rfl, -⟩ := run_done_iff.1 hdone
    rwa [List.append_nil]
  cases command with
  | list => cases hhost
  | add entry =>
    obtain rfl := Option.some.inj hhost
    obtain ⟨e, -, he⟩ | ⟨t₁, t₂, _, rfl, hadd, hrest⟩ := run_andThen_iff.1 hrun
    · cases he
    · exact ⟨t₁, t₂, rfl, run_of_run_ofRegistry hadd, hforget hrest⟩
  | remove name =>
    obtain rfl := Option.some.inj hhost
    obtain ⟨e, -, he⟩ | ⟨t₁, t₂, wasThere, rfl, hremove, hrest⟩ := run_andThen_iff.1 hrun
    · cases he
    · cases wasThere with
      | false => cases (run_done_iff.1 hrest).2
      | true => exact ⟨t₁, t₂, rfl, run_of_run_ofRegistry hremove, hforget hrest⟩

/-- **What a command makes of the registered hosts** under their lock. -/
theorem Changes.exists_locked (hchanges : Changes command t) (hhost : hostOf? command = some h) :
    ∃ u, t = locked .registry u ∧ (∀ d ∈ u, d.Spares .registry) ∧
      ∀ v v', Passes hosts v u v' →
        (∀ entry, v'.get? h = some entry → entry.name = h ∧ command = .add entry) ∧
          ((∀ name entry, v.get? name = some entry → isLocalHost name = false) →
            isLocalHost h = false) := by
  cases command with
  | list => exact hchanges.elim
  | add entry =>
    obtain rfl := Option.some.inj hhost
    have hchanges : Run (onRegistry (Registry.add entry)) t (.ok ()) := hchanges
    cases hvalid : entry.validate with
    | error why =>
      rw [Registry.add_of_not_validate hvalid] at hchanges
      cases (run_done_iff.1 hchanges).2
    | ok =>
      rw [Registry.add_of_validate hvalid, onRegistry_withLock] at hchanges
      obtain ⟨u, rfl, hrun⟩ := run_withLock_iff.1 hchanges
      refine ⟨u, rfl, spares_of_after (registers_obeys (Registry.addition_obeys entry)) hrun,
        fun v v' hpasses => ⟨fun entry' hentry => ?_, fun _ =>
          HostEntry.isLocalHost_of_validate hvalid⟩⟩
      obtain ⟨-, rfl⟩ | ⟨⟨why, hwhy⟩, -⟩ := Registry.passes_of_run_addition
        ((run_inside_iff isLawful_registryPart).1 hrun).1 (passes_registryPart hpasses)
      · rw [Dict.get?_insert, if_pos rfl] at hentry
        obtain rfl := Option.some.inj hentry
        exact ⟨rfl, rfl⟩
      · cases hwhy
  | remove name =>
    obtain rfl := Option.some.inj hhost
    have hchanges : Run (onRegistry (Registry.remove name)) t (.ok true) := hchanges
    rw [Registry.remove_eq, onRegistry_withLock] at hchanges
    obtain ⟨u, rfl, hrun⟩ := run_withLock_iff.1 hchanges
    refine ⟨u, rfl, spares_of_after (registers_obeys (Registry.removal_obeys name)) hrun,
      fun v v' hpasses => ?_⟩
    obtain ⟨-, hthere, rfl⟩ | ⟨hne, -⟩ := Registry.passes_of_run_removal
      ((run_inside_iff isLawful_registryPart).1 hrun).1 (passes_registryPart hpasses)
    · refine ⟨fun entry hentry => ?_, fun hlocal => ?_⟩
      · rw [Dict.get?_erase, if_pos rfl] at hentry
        cases hentry
      · obtain ⟨entry, hentry⟩ := Option.isSome_iff_exists.1 hthere
        exact hlocal name entry hentry
    · exact absurd rfl hne

/-- **To forget a host**, its connector is forgotten under the lock of the connectors, and in the
end its generation. -/
theorem exists_of_run_invalidate (hrun : Run (Service.invalidate h) t ()) :
    ∃ σ₁ σ₂ u σ₃ σ₄, t = .asked (.acquire .connectors) () :: .changed σ₁ σ₂ :: u ++
        [.changed σ₃ σ₄] ∧
      σ₂.pool.kept.get? h = none ∧ σ₄.generations.get? h = none := by
  obtain ⟨t₁, t₂, _, rfl, hconnector, hgeneration⟩ := run_bind_iff.1 hrun
  obtain ⟨σ₃, rfl, -⟩ := run_change_iff.1 hgeneration
  rw [ConnectorPool.invalidate, inside_bind, inside_withLock] at hconnector
  obtain ⟨t₁, t₂, _, rfl, hlocked, -⟩ := run_bind_iff.1 hconnector
  obtain ⟨t₁, rfl, hbody⟩ := run_withLock_iff.1 hlocked
  rw [inside_bind] at hbody
  obtain ⟨t₃, t₄, _, rfl, hforget, -⟩ := run_bind_iff.1 hbody
  obtain ⟨σ₁, t₃, rfl, hdone⟩ := run_atomic_iff.1 hforget
  obtain ⟨rfl, -⟩ := run_done_iff.1 hdone
  refine ⟨σ₁, { σ₁ with pool := (σ₁.pool.forget h).2 },
    t₄ ++ .asked (.release .connectors) () :: t₂, σ₃,
    { σ₃ with generations := σ₃.generations.erase h }, ?_, ?_, ?_⟩
  · simp only [List.cons_append, List.nil_append, List.append_assoc]
    rfl
  · have hgone : (σ₁.pool.forget h).2.kept.get? h = none := by
      by_contra hne
      obtain ⟨c, hc⟩ := Option.ne_none_iff_exists'.1 hne
      exact (PoolState.get?_kept_forget_iff.1 hc).2 rfl
    exact hgone
  · rw [Dict.get?_erase, if_pos rfl]

end NetUnits.Service
