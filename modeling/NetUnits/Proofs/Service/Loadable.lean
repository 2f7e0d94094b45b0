import NetUnits.Proofs.Kind
import NetUnits.Proofs.Schema.Contents
import NetUnits.Proofs.Schema.Version
import NetUnits.Proofs.Service.HostChanges

/-! # The generations that services choose

A service chooses a generation by what a host reports, and remembers it. What it chooses is
installed, unless nothing is installed at all, and then it works without schemas. So whatever is
chosen can be loaded.

* **`Service.Loadable`** — a generation is installed, or none is; **`Service.fitting_loadable`** —
  what fits a report is such.
* **`Service.loadable_of_get?`** — so is all that is remembered, whatever was asked at the same
  time.
* **`Service.Spared`** — an operation does not fail for a schema if what it finds out can be loaded.
* **`Service.Chooses`** — the operations that choose the generation themselves;
  **`Service.LoadsChosen`**, **`Service.loadsChosen`** — none of them ever fails for a schema. -/

namespace NetUnits

namespace Service

open NetUnits.Action NetUnits.Deed

variable {answers : Answers} {s : Service} {σ : ServiceState} {tasks : List (List Task)}
  {sys : System ServiceState} {host : String} {g : Nat} {t : List (Deed ServiceState)}
  {α β : Type}

/-! ## The choice -/

/-- **A generation can be loaded**: it is installed, or none is and nothing is loaded for it. -/
def Loadable (s : Service) (g : Nat) : Prop :=
  s.store.available = [] ∨ g ∈ s.store.available

/-- **The generation for a report can be loaded**, whatever the report says. -/
theorem resolve_loadable (s : Service) (report : String) : s.Loadable (s.store.resolve report) := by
  refine or_iff_not_imp_left.2 fun hne => ?_
  unfold SchemaStore.resolve Version.resolveReport Version.resolve
  split <;> exact Version.bestFit_mem hne _ _

theorem fitting_loadable (s : Service) (output : String) : s.Loadable (s.fitting output) :=
  s.resolve_loadable _

/-- What can be loaded is got. -/
theorem exists_of_run_schemasOf (hloadable : s.Loadable g)
    {result : Except ServiceError Generation} (hrun : Run (s.schemasOf g) t result) :
    ∃ generation, result = .ok generation ∧ generation.version = g := by
  rw [schemasOf] at hrun
  split at hrun
  · obtain ⟨_, _, -, hdone⟩ := run_ask_iff.1 hrun
    obtain ⟨-, rfl⟩ := run_done_iff.1 hdone
    exact ⟨untyped g, rfl, rfl⟩
  · rename_i hne
    have havailable : g ∈ s.store.available := hloadable.resolve_left fun h => hne (by simp [h])
    obtain ⟨_, _, loaded, -, hload, hrest⟩ := run_bind_iff.1 hrun
    obtain ⟨_, hload, -⟩ := exists_run_of_inside hload
    obtain ⟨generation, rfl, hversion⟩ := SchemaStore.exists_of_run_generation havailable hload
    obtain ⟨-, rfl⟩ := run_done_iff.1 hrest
    exact ⟨generation, rfl, hversion⟩

/-! ## What is remembered -/

theorem Probed.loadable (h : Probed s host (fun g => done (.ok g)) t (.ok g)) : s.Loadable g := by
  cases h with
  | failed _ _ _ hfailure => cases hfailure
  | answered _ _ _ hrest _ =>
    obtain ⟨-, hg⟩ := run_done_iff.1 hrest
    obtain rfl := Except.ok.inj hg
    exact s.fitting_loadable _

/-- **All that is remembered can be loaded**, if this is so at first, whatever a service is asked at
the same time. -/
theorem loadable_of_get?
    (hσ : ∀ key g, σ.generations.get? key = some g → s.Loadable g)
    (hreach : System.Reaches answers (s.served σ tasks) sys) {key : String}
    (hknown : sys.scene.state.generations.get? key = some g) : s.Loadable g := by
  obtain hfirst | ⟨_, _, _, _, _, -, -, hprobed, -⟩ := known_or_probed .refl hreach hknown
  · exact hσ key g hfirst
  · exact hprobed.loadable

/-- **All generations that are got for hosts can be loaded**, whether they were remembered or have
been found out. -/
theorem loadable_of_run (hσ : ∀ key g, σ.generations.get? key = some g → s.Loadable g)
    (hreach : System.Reaches answers (s.served σ tasks) sys) {i : Nat}
    {b u : List (Deed ServiceState)} (hpast : sys.scene.pastOf i = t ++ b ++ u)
    (hrun : Run (s.hostGeneration host) b (.ok g)) : s.Loadable g := by
  obtain ⟨g', σ', b', rfl, hknown, hdone⟩ | hprobed := reused_or_probed_of_run hrun
  · obtain ⟨-, hg⟩ := run_done_iff.1 hdone
    obtain rfl := Except.ok.inj hg
    -- it was remembered at the moment of the look
    obtain ⟨sys₁, sys₂, hreach₁, -, -, hmay, -⟩ := hreach.exists_step (i := i)
      (t := t ++ (.changed σ' σ' :: b') ++ u) hpast
      (List.mem_append_left _ (List.mem_append_right _ List.mem_cons_self))
    obtain rfl : σ' = sys₁.scene.state := hmay
    exact loadable_of_get? hσ hreach₁ hknown
  · exact hprobed.loadable

/-! ## Operations -/

/-- **An operation does not fail for a schema** in any history in which all generations that are got
for hosts can be loaded. -/
def Spared (s : Service) (x : Action ServiceState (Except ServiceError α)) : Prop :=
  ∀ t result, Run x t result →
    (∀ b host g, b <:+: t → Run (s.hostGeneration host) b (.ok g) → s.Loadable g) →
      ∀ e, result ≠ .error (.schema e)

theorem spared_done {result : Except ServiceError α} (h : ∀ e, result ≠ .error (.schema e)) :
    s.Spared (done result) := by
  rintro t _ hrun - e rfl
  exact h e (run_done_iff.1 hrun).2.symm

theorem Spared.andThen {x : Action ServiceState (Except ServiceError α)}
    {f : α → Action ServiceState (Except ServiceError β)} (hx : s.Spared x)
    (hf : ∀ a, s.Spared (f a)) : s.Spared (x.andThen f) := by
  intro t result hrun hloadable
  obtain ⟨e', hfirst, rfl⟩ | ⟨t₁, t₂, a, rfl, -, hrest⟩ := run_andThen_iff.1 hrun
  · rintro e heq
    exact hx t _ hfirst hloadable e (congrArg _ (Except.error.inj heq))
  · exact hf a t₂ result hrest fun b host g hb =>
      hloadable b host g (hb.trans (List.suffix_append t₁ t₂).isInfix)

/-- What follows other actions does not fail for a schema if it does not do so alone. -/
theorem Spared.bind {x : Action ServiceState α}
    {f : α → Action ServiceState (Except ServiceError β)} (hf : ∀ a, s.Spared (f a)) :
    s.Spared (x >>= f) := by
  intro t result hrun hloadable
  obtain ⟨t₁, t₂, a, rfl, -, hrest⟩ := run_bind_iff.1 hrun
  exact hf a t₂ result hrest fun b host g hb =>
    hloadable b host g (hb.trans (List.suffix_append t₁ t₂).isInfix)

theorem call_spared (host : String)
    (operation : Connector → Action PoolState (Except ConnectorError α)) :
    s.Spared (s.call host operation) := by
  refine Spared.bind fun result => ?_
  cases result with
  | ok a => exact spared_done fun e => nofun
  | error e' => exact spared_done fun e => nofun

theorem hostGeneration_spared (host : String) : s.Spared (s.hostGeneration host) := by
  refine Spared.bind fun σ => ?_
  split
  · exact spared_done fun e => nofun
  · exact (call_spared host Operation.version.on).andThen fun output =>
      Spared.bind fun g => Spared.bind fun _ => spared_done fun e => nofun

/-- **What is done with the generation for a host** only has to work for one that can be loaded. -/
theorem spared_generation {use : Nat → Action ServiceState (Except ServiceError α)}
    (huse : ∀ g, s.Loadable g → s.Spared (use g)) :
    s.Spared ((s.hostGeneration host).andThen use) := by
  intro t result hrun hloadable
  obtain ⟨e', hfirst, rfl⟩ | ⟨t₁, t₂, g, rfl, hgot, hrest⟩ := run_andThen_iff.1 hrun
  · rintro e heq
    exact hostGeneration_spared host t _ hfirst hloadable e (congrArg _ (Except.error.inj heq))
  · have hg : s.Loadable g :=
      hloadable t₁ host g (List.prefix_append t₁ t₂).isInfix hgot
    exact huse g hg t₂ result hrest fun b host g hb =>
      hloadable b host g (hb.trans (List.suffix_append t₁ t₂).isInfix)

theorem schemasOf_spared (hg : s.Loadable g) : s.Spared (s.schemasOf g) := by
  intro t result hrun _ e
  obtain ⟨generation, rfl, -⟩ := exists_of_run_schemasOf hg hrun
  nofun

theorem spared_ofUnitFile (result : Except UnitFile.Error α) :
    s.Spared (done (ofUnitFile result)) := by
  cases result with
  | ok a => exact spared_done fun e => nofun
  | error e' => exact spared_done fun e => nofun

theorem convert_spared (hg : s.Loadable g) (text : String) (kind : Kind) :
    s.Spared (s.convert text kind g) :=
  (schemasOf_spared hg).andThen fun _ => spared_ofUnitFile _

theorem render_spared (hg : s.Loadable g) (document : Document) (kind : Kind) :
    s.Spared (s.render document kind g) :=
  (schemasOf_spared hg).andThen fun _ => spared_ofUnitFile _

theorem spared_refused {filename : String} {e : ServiceError}
    (h : Kind.ofSafeFilename filename = .error e) : s.Spared (done (.error e : Except _ α)) := by
  obtain ⟨-, rfl⟩ := Kind.eq_of_ofSafeFilename_eq_error h
  exact spared_done fun e => nofun

theorem readText_spared (host filename : String) : s.Spared (s.readText host filename) := by
  unfold readText
  split
  · exact spared_refused ‹_›
  · exact (call_spared host _).andThen fun _ => spared_done fun e => nofun

theorem writeText_spared (host filename text : String) :
    s.Spared (s.writeText host filename text) := by
  unfold writeText
  split
  · exact spared_refused ‹_›
  · exact (call_spared host _).andThen fun _ => Spared.bind fun _ => spared_done fun e => nofun

/-- **The operations that choose the generation themselves.** -/
inductive Chooses (s : Service) :
    {α : Type} → Action ServiceState (Except ServiceError α) → Prop where
  /-- The files of a kind are listed. -/
  | list (host : String) (kind : Kind) (criteria : Option MatchCriteria) :
      Chooses s (s.list host kind criteria)
  /-- A file is read as a document. -/
  | read (host filename : String) : Chooses s (s.read host filename)
  /-- A document is written to a file. -/
  | write (host filename : String) (document : Document) :
      Chooses s (s.write host filename document)
  /-- The global configuration is read as a document. -/
  | globalDocument (host : String) : Chooses s (s.globalDocument host)

/-- **None of these operations fails for a schema** if what it finds out can be loaded. -/
theorem Chooses.spared {x : Action ServiceState (Except ServiceError α)} (h : s.Chooses x) :
    s.Spared x := by
  cases h with
  | list host kind criteria =>
    unfold Service.list
    split
    · refine spared_generation fun g hg => (schemasOf_spared hg).andThen fun generation =>
        (call_spared host _).andThen fun contents => ?_
      exact Spared.bind fun _ => Spared.bind fun _ => spared_done fun e => nofun
    · exact spared_done fun e => nofun
  | read host filename =>
    unfold Service.read
    split
    · exact spared_refused ‹_›
    · exact (readText_spared host filename).andThen fun text => spared_generation fun g hg =>
        (convert_spared hg text _).andThen fun _ => spared_done fun e => nofun
  | write host filename document =>
    unfold Service.write
    split
    · exact spared_refused ‹_›
    · exact spared_generation fun g hg =>
        (render_spared hg document _).andThen fun text => writeText_spared host filename text
  | globalDocument host =>
    exact (call_spared host _).andThen fun text => spared_generation fun g hg =>
      convert_spared hg text _

/-- **The generations that a service has chosen are loaded whenever they are wanted.** -/
structure LoadsChosen (s : Service) (sys : System ServiceState) : Prop where
  /-- Whatever is got for a host, remembered or found out, its schemas are got too. -/
  loads : ∀ i t b u host g, sys.scene.pastOf i = t ++ b ++ u →
    Run (s.hostGeneration host) b (.ok g) → ∀ c result, Run (s.schemasOf g) c result →
      ∃ generation, result = .ok generation ∧ generation.version = g
  /-- An operation that chooses the generation itself does not fail for a schema. -/
  never : ∀ i t b u, sys.scene.pastOf i = t ++ b ++ u →
    ∀ {α : Type} (x : Action ServiceState (Except ServiceError α)), s.Chooses x →
      ∀ result, Run x b result → ∀ e, result ≠ .error (.schema e)

/-- **No operation that chooses the generation itself ever fails for a schema**, whatever a service
is asked at the same time, whatever hosts report, and whatever the files of the schemas hold. What
is remembered at first must be something that can be loaded; a new service remembers nothing. -/
theorem loadsChosen (hσ : ∀ key g, σ.generations.get? key = some g → s.Loadable g)
    (hreach : System.Reaches answers (s.served σ tasks) sys) : s.LoadsChosen sys where
  loads := by
    intro i t b u host g hpast hgot c result hrun
    exact exists_of_run_schemasOf (loadable_of_run hσ hreach hpast hgot) hrun
  never := by
    intro i t b u hpast α x hx result hrun
    refine hx.spared b result hrun fun b' host g ⟨b₁, b₂, hb⟩ hgot => ?_
    have hsplit : sys.scene.pastOf i = (t ++ b₁) ++ b' ++ (b₂ ++ u) := by
      rw [hpast, ← hb]
      simp
    exact loadable_of_run hσ hreach hsplit hgot

/-- A service whose schema files are empty reads the global configuration of this machine. -/
theorem loadsChosen_empty :
    ∃ sys, System.Reaches (fun _ _ _ => True)
        (sample.served sampleState [[.globalDocument ""]]) sys ∧ sys.threads = [done ()] ∧
      sys.scene.state.generations.get? "local" = some 255 ∧ sample.LoadsChosen sys := by
  have hreach : System.Reaches (fun _ _ _ => True)
      (sample.served sampleState [[.globalDocument ""]]) (sampleAfter [.globalDocument ""] 23) :=
    reaches_sampleAfter [.globalDocument ""] 23
  have hdone : (sampleAfter [.globalDocument ""] 23).threads = [done ()] := rfl
  have hknown : (sampleAfter [.globalDocument ""] 23).scene.state.generations.get? "local" =
    some 255 := rfl
  have hfirst : ∀ key g, sampleState.generations.get? key = some g → sample.Loadable g :=
    fun key g h => nomatch (show none = some g from h)
  exact ⟨_, hreach, hdone, hknown, loadsChosen hfirst hreach⟩

end Service

end NetUnits
