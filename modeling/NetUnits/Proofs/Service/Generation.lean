import NetUnits.Proofs.Action.Passing
import NetUnits.Proofs.Service.Task

/-! # How services find generations out

The generation for a host is looked up first. If it is not remembered, the version command is run on
the host, and the generation that fits its output is remembered.

* **`Service.fitting`** — the generation for what the version command prints.
* **`Service.Reused`**, **`Service.Probed`** — an operation that needs the generation takes the one
  that is remembered, or has it found out; **`Service.reused_or_probed`** — there is nothing else.
* **`Service.Recorded`** — the ways in which the remembered generations change;
  **`Service.Built.each_recorded`** — there are no others. -/

namespace NetUnits.Service

open NetUnits.Action

variable {s : Service} {host : String} {σ σ' : ServiceState} {α : Type}
  {t u : List (Deed ServiceState)} {d : Deed ServiceState}

/-! ## Names -/

@[simp] theorem hostKey_hostKey (host : String) : hostKey (hostKey host) = hostKey host := by
  unfold hostKey
  split <;> simp_all [localName]

theorem hostKey_of_ne_empty (h : host ≠ "") : hostKey host = host := by
  rw [hostKey, if_neg]
  simpa using h

/-- A host that is not this machine is remembered under its own name. -/
theorem hostKey_of_not_isLocalHost (hlocal : isLocalHost host = false) : hostKey host = host := by
  refine hostKey_of_ne_empty ?_
  rintro rfl
  cases hlocal

/-- No other host is remembered under this name. -/
theorem eq_of_hostKey_eq {key : String} (hlocal : isLocalHost key = false)
    (heq : hostKey host = key) : host = key := by
  by_cases hempty : host = ""
  · subst hempty
    subst heq
    cases hlocal
  · rwa [hostKey_of_ne_empty hempty] at heq

/-! ## Finding out -/

/-- **The generation for what the version command prints**: the best fit for the version in it. -/
def fitting (s : Service) (output : String) : Nat :=
  s.store.resolve ((Version.ofProbe? output).elim "" toString)

/-- The state in which the generation of a host is remembered. -/
def remembering (σ : ServiceState) (host : String) (generation : Nat) : ServiceState :=
  { σ with generations := σ.generations.insert (hostKey host) generation }

theorem generationOf_obeys {p : Request → Prop} {q : ServiceState → ServiceState → Prop}
    (hevent : ∀ e, p (.event e)) (key output : String) : (s.generationOf key output).Obeys p q := by
  unfold generationOf
  simp only
  split
  · exact (obeys_request (hevent _)).bind fun _ => (obeys_request (hevent _)).bind fun _ => trivial
  · exact (obeys_request (hevent _)).bind fun _ => trivial

theorem eq_fitting_of_run {key output : String} {g : Nat}
    (hrun : Run (s.generationOf key output) t g) : g = s.fitting output := by
  unfold generationOf at hrun
  simp only at hrun
  split at hrun
  · obtain ⟨t₁, t₂, _, -, -, hrun⟩ := run_bind_iff.1 hrun
    obtain ⟨t₃, t₄, _, -, -, hrun⟩ := run_bind_iff.1 hrun
    exact (run_done_iff.1 hrun).2
  · obtain ⟨t₁, t₂, _, -, -, hrun⟩ := run_bind_iff.1 hrun
    exact (run_done_iff.1 hrun).2

/-- **An operation takes a generation that is remembered**: it only looks, and asks for nothing. -/
def Reused (host : String) (g : Nat) (use : Nat → Action ServiceState (Except ServiceError α))
    (t : List (Deed ServiceState)) (result : Except ServiceError α) : Prop :=
  ∃ σ t', t = .changed σ σ :: t' ∧ σ.generations.get? (hostKey host) = some g ∧
    Run (use g) t' result

/-- **An operation has the generation found out**: it runs the version command on the host. -/
inductive Probed (s : Service) (host : String)
    (use : Nat → Action ServiceState (Except ServiceError α)) (t : List (Deed ServiceState))
    (result : Except ServiceError α) : Prop where
  /-- The host cannot be asked, and the operation fails with the same error. -/
  | failed {σ : ServiceState} {t' : List (Deed ServiceState)} {e : ServiceError}
    (unknown : σ.generations.get? (hostKey host) = none)
    (run : Run (s.call host Operation.version.on) t' (.error e))
    (eq : t = .changed σ σ :: t') (failure : result = .error e)
  /-- The best fit for what the host reports is remembered and used. -/
  | answered {σ σ' : ServiceState} {t₁ t₂ t₃ : List (Deed ServiceState)} {output : String}
    (unknown : σ.generations.get? (hostKey host) = none)
    (run : Run (s.call host Operation.version.on) t₁ (.ok output))
    (told : Run (s.generationOf (hostKey host) output) t₂ (s.fitting output))
    (rest : Run (use (s.fitting output)) t₃ result)
    (eq : t = .changed σ σ :: t₁ ++ t₂ ++
      .changed σ' (remembering σ' host (s.fitting output)) :: t₃)

/-- **An operation that needs the generation for a host** takes the one that is remembered or has it
found out. -/
theorem reused_or_probed {use : Nat → Action ServiceState (Except ServiceError α)}
    {result : Except ServiceError α} (hrun : Run ((s.hostGeneration host).andThen use) t result) :
    (∃ g, Reused host g use t result) ∨ Probed s host use t result := by
  rw [andThen, hostGeneration, bind_assoc'] at hrun
  obtain ⟨σ, t', rfl, hlooked⟩ := run_look_bind_iff.1 hrun
  cases hknown : σ.generations.get? (hostKey host) with
  | some g =>
    rw [hknown] at hlooked
    exact .inl ⟨g, σ, t', rfl, hknown, hlooked⟩
  | none =>
    rw [hknown] at hlooked
    refine .inr ?_
    obtain ⟨e, hprobe, rfl⟩ | ⟨t₁, t₂, g, rfl, hprobe, hrest⟩ := run_andThen_iff.1 hlooked
    · obtain ⟨e', hcall, he⟩ | ⟨t₁, t₂, output, rfl, hcall, hrest⟩ := run_andThen_iff.1 hprobe
      · obtain rfl := Except.error.inj he
        exact .failed hknown hcall rfl rfl
      · -- after an answer nothing fails
        obtain ⟨t₃, t₄, g, rfl, -, hrest⟩ := run_bind_iff.1 hrest
        obtain ⟨t₅, t₆, _, rfl, -, hrest⟩ := run_bind_iff.1 hrest
        cases (run_done_iff.1 hrest).2
    · obtain ⟨e', -, he⟩ | ⟨t₁, t₃, output, rfl, hcall, hremember⟩ := run_andThen_iff.1 hprobe
      · cases he
      · obtain ⟨t₃, t₄, g', rfl, htold, hremember⟩ := run_bind_iff.1 hremember
        obtain rfl := eq_fitting_of_run htold
        obtain ⟨t₄, t₅, _, rfl, hchange, hdone⟩ := run_bind_iff.1 hremember
        obtain ⟨σ', rfl, -⟩ := run_change_iff.1 hchange
        obtain ⟨rfl, hg⟩ := run_done_iff.1 hdone
        obtain rfl := Except.ok.inj hg
        have hremembered : t₁ ++ (t₃ ++ ([.changed σ' (remembering σ' host (s.fitting output))] ++
            [])) ++ t₂ =
            t₁ ++ t₃ ++ .changed σ' (remembering σ' host (s.fitting output)) :: t₂ := by simp
        exact .answered hknown hcall htold hrest (congrArg _ hremembered)

/-- What has been found out is the result. -/
theorem run_hostGeneration {output : String} {g : Nat} {t₁ t₂ : List (Deed ServiceState)}
    (hunknown : σ.generations.get? (hostKey host) = none)
    (hcall : Run (s.call host Operation.version.on) t₁ (.ok output))
    (htold : Run (s.generationOf (hostKey host) output) t₂ g) :
    Run (s.hostGeneration host)
      (.changed σ σ :: (t₁ ++ t₂) ++ [.changed σ' (remembering σ' host g)]) (.ok g) := by
  rw [hostGeneration]
  refine run_look_bind_iff.2 ⟨σ, t₁ ++ t₂ ++ [.changed σ' (remembering σ' host g)], rfl, ?_⟩
  rw [hunknown]
  refine run_andThen_iff.2 (.inr ⟨t₁, t₂ ++ [.changed σ' (remembering σ' host g)], output,
    by rw [List.append_assoc], hcall, run_bind_iff.2 ⟨t₂, _, g, rfl, htold, ?_⟩⟩)
  exact run_bind_iff.2 ⟨[.changed σ' (remembering σ' host g)], [], (),
    (List.append_nil _).symm, run_change_iff.2 ⟨σ', rfl, rfl⟩, run_done_iff.2 ⟨rfl, rfl⟩⟩

/-! ## What is remembered -/

/-- **The ways in which the remembered generations change**, after what was done before: a host is
forgotten, or its generation was not remembered and has been found out. -/
inductive Recorded (s : Service) (forgotten : String → Prop) (t : List (Deed ServiceState))
    (d : Deed ServiceState) : Prop where
  /-- They do not change. -/
  | leaves (same : d.Leaves ServiceState.generations)
  /-- A host is forgotten. -/
  | forgot {host : String} {σ : ServiceState} (forget : forgotten host)
    (eq : d = .changed σ { σ with generations := σ.generations.erase host })
  /-- The generation for a host has been found out. -/
  | found {host : String} {σ σ' : ServiceState} {g : Nat} {t₀ t₁ : List (Deed ServiceState)}
    (history : t = t₀ ++ .changed σ σ :: t₁)
    (unknown : σ.generations.get? (hostKey host) = none)
    (between : ∀ d ∈ t₁, d.Leaves ServiceState.generations)
    (eq : d = .changed σ' (remembering σ' host g))
    (run : Run (s.hostGeneration host) (.changed σ σ :: t₁ ++ [d]) (.ok g))

variable {forgotten : String → Prop}

theorem recorded_looksBack : LooksBack (Recorded s forgotten) := by
  rintro t₀ t d (hsame | ⟨hforget, heq⟩ | ⟨rfl, hunknown, hbetween, heq, hrun⟩)
  · exact .leaves hsame
  · exact .forgot hforget heq
  · exact .found (List.append_assoc _ _ _).symm hunknown hbetween heq hrun

/-- What changes no generation needs no reason. -/
theorem each_recorded_of_obeys {x : Action ServiceState α} {p : Request → Prop}
    {q : ServiceState → ServiceState → Prop} (h : x.Obeys p q)
    (hq : ∀ σ σ', q σ σ' → σ'.generations = σ.generations) : x.Each (Recorded s forgotten) := by
  refine h.each fun t d hd => .leaves ?_
  cases d with
  | changed σ σ' => exact hq σ σ' hd
  | asked | forked => trivial

/-- What connectors share has nothing to do with generations. -/
theorem inside_poolPart_obeys (x : Action PoolState α) :
    (x.inside ServiceState.poolPart).Obeys (fun _ => True)
      fun σ σ' => σ'.generations = σ.generations :=
  (obeys_true x).inside _ fun _ _ _ => rfl

theorem call_obeys (host : String)
    (operation : Connector → Action PoolState (Except ConnectorError α)) :
    (s.call host operation).Obeys (fun _ => True)
      fun σ σ' => σ'.generations = σ.generations :=
  (inside_poolPart_obeys _).bind fun result => by cases result <;> trivial

theorem schemasOf_obeys (version : Nat) :
    (s.schemasOf version).Obeys (fun _ => True)
      fun σ σ' => σ'.pool = σ.pool ∧ σ'.generations = σ.generations := by
  unfold schemasOf
  split
  · exact (obeys_request trivial).bind fun _ => trivial
  · have hload : ((s.store.generation version).inside ServiceState.schemaPart).Obeys
        (fun _ => True) fun σ σ' => σ'.pool = σ.pool ∧ σ'.generations = σ.generations :=
      (obeys_true _).inside _ fun _ _ _ => ⟨rfl, rfl⟩
    exact hload.bind fun result => by cases result <;> trivial

theorem hostGeneration_each (host : String) :
    (s.hostGeneration host).Each (Recorded s forgotten) := by
  have hlook : (look : Action ServiceState _).Each (Recorded s forgotten) :=
    each_change (f := fun σ => (σ, σ)) fun σ => .leaves rfl
  refine each_bind hlook fun t₀ σ hlooked => ?_
  obtain ⟨_, _, rfl, hdone⟩ := run_atomic_iff.1 hlooked
  obtain ⟨rfl, rfl⟩ := run_done_iff.1 hdone
  cases hunknown : σ.generations.get? (hostKey host) with
  | some g => exact each_done _
  | none =>
    have hcall := s.call_obeys host Operation.version.on
    refine each_bind ((each_recorded_of_obeys hcall fun _ _ h => h).mono
      fun u d h => recorded_looksBack _ u d h) fun t₁ result hrun => ?_
    cases result with
    | error e => exact each_done _
    | ok output =>
      have hgeneration : (s.generationOf (hostKey host) output).Obeys Request.KeepsLocks
        fun _ _ => False := generationOf_obeys (fun _ _ => rfl) (hostKey host) output
      refine each_bind ((each_recorded_of_obeys hgeneration fun _ _ h => h.elim).mono
        fun u d h => recorded_looksBack _ _ d (recorded_looksBack _ u d h)) fun t₂ g htold => ?_
      refine each_bind (each_change fun σ' => ?_) fun _ _ _ => each_done _
      have hbetween : ∀ d ∈ t₁ ++ t₂, d.Leaves ServiceState.generations :=
        List.forall_mem_append.2 ⟨Deed.leaves_of_after hcall (fun _ _ h => h) hrun,
          Deed.leaves_of_after hgeneration (fun _ _ h => h.elim) htold⟩
      have hhistory : [.changed σ σ] ++ (t₁ ++ (t₂ ++ [])) =
          [] ++ .changed σ σ :: (t₁ ++ t₂) := by simp
      exact .found hhistory hunknown hbetween rfl (run_hostGeneration hunknown hrun htold)

theorem invalidate_each (h : forgotten host) :
    (Service.invalidate host).Each (Recorded s forgotten) :=
  Each.bind recorded_looksBack (each_recorded_of_obeys (inside_poolPart_obeys _) fun _ _ h => h)
    fun _ => each_change fun _ => .forgot h rfl

theorem onRegistry_obeys (x : Action Registry α) :
    (onRegistry x).Obeys (fun _ => True) fun σ σ' => σ'.generations = σ.generations :=
  inside_poolPart_obeys _

/-- **The remembered generations change in these ways only**, whatever is done. -/
theorem Built.each_recorded {x : Action ServiceState α} (h : Built s forgotten x) :
    x.Each (Recorded s forgotten) := by
  induction h with
  | done a => exact each_done a
  | ask _ _ ih =>
    exact Each.bind recorded_looksBack (each_request fun _ => .leaves trivial) ih
  | call host operation _ _ ih =>
    exact Each.bind recorded_looksBack
      (each_recorded_of_obeys (call_obeys host operation.on) fun _ _ h => h) ih
  | generation host _ ih => exact Each.bind recorded_looksBack (hostGeneration_each host) ih
  | schemas version _ ih =>
    exact Each.bind recorded_looksBack
      (each_recorded_of_obeys (schemasOf_obeys version) fun _ _ h => h.2) ih
  | registered _ ih =>
    exact Each.bind recorded_looksBack
      (each_recorded_of_obeys (onRegistry_obeys _) fun _ _ h => h) ih
  | add entry _ ih =>
    exact Each.bind recorded_looksBack
      (each_recorded_of_obeys (onRegistry_obeys _) fun _ _ h => h) ih
  | remove name _ ih =>
    exact Each.bind recorded_looksBack
      (each_recorded_of_obeys (onRegistry_obeys _) fun _ _ h => h) ih
  | invalidate host forget _ ih => exact Each.bind recorded_looksBack (invalidate_each forget) ih

end NetUnits.Service
