import NetUnits.Proofs.Service.Generation

/-! # Remembered generations

A service is asked one thing after the other. Operations that were late go on beside it, but they do
not know of generations: these change only where one is found out, and where a host is forgotten.

* **`Service.asked`** — a service that is asked to do tasks; **`Service.passes_of_asked`** — nobody
  else changes the remembered generations.
* **`Service.Recorded.keeps`**, **`Service.Recorded.exists_of_get?`** — what each deed makes of a
  host that is remembered, and where what is remembered comes from.
* **`Service.Remembers`** — a generation is used until its host is forgotten, and then it is found
  out anew; **`Service.remembers`** — so it is, whatever a service is asked to do. -/

namespace NetUnits.Service

open NetUnits.Action NetUnits.Deed

variable {answers : Answers} {s : Service} {σ : ServiceState} {tasks : List Task}
  {sys : System ServiceState} {forgotten : String → Prop} {key host : String} {g : Nat}
  {t u : List (Deed ServiceState)} {d : Deed ServiceState} {G G₀ G₁ G₂ : Dict Nat}

/-! ## One thing after the other -/

/-- **A service that is asked one thing after the other**, from any state on. -/
def asked (s : Service) (σ : ServiceState) (tasks : List Task) : System ServiceState :=
  .start σ [s.perform tasks]

theorem perform_starts (tasks : List Task) :
    (s.perform tasks).Starts (·.Obeys (fun _ => True)
      fun σ σ' => σ'.generations = σ.generations) := by
  have hbuilt : Built s (fun _ => True) (s.perform tasks) :=
    perform_built fun _ _ _ _ => trivial
  refine hbuilt.starts (fun host operation => (call_obeys host operation.on).starts)
    (fun version => ?_) (onRegistry_obeys _).starts (fun _ => (onRegistry_obeys _).starts)
    (fun _ => (onRegistry_obeys _).starts) fun _ => (inside_poolPart_obeys _).starts
  exact ((schemasOf_obeys version).mono (fun _ h => h) fun _ _ h => h.2).starts

/-- What is done for the caller is a history of its tasks. -/
theorem exists_after_of_asked (hreach : System.Reaches answers (s.asked σ tasks) sys) :
    ∃ y, After (s.perform tasks) (sys.scene.pastOf 0) y := by
  obtain ⟨t, y, -, hpast, hafter⟩ := hreach.exists_after (i := 0) (x := s.perform tasks) rfl
  exact ⟨y, hpast ▸ hafter⟩

/-- **Nobody else changes the remembered generations.** -/
theorem passes_of_asked (hreach : System.Reaches answers (s.asked σ tasks) sys) :
    Passes ServiceState.generations σ.generations (sys.scene.pastOf 0)
      sys.scene.state.generations := by
  refine hreach.passes fun j hj d hd => ?_
  have hstarts : ∀ x ∈ [s.perform tasks], x.Starts (·.Obeys (fun _ => True)
      fun σ σ' => σ'.generations = σ.generations) := fun x hx =>
    List.mem_singleton.1 hx ▸ perform_starts tasks
  have hlt := (hreach.isProper (System.isProper_start _ _)).1 j d (Scene.mem_pastOf_iff.1 hd)
  obtain ⟨x, hx | hx, hafter⟩ :=
    hreach.exists_origin hstarts (List.getElem?_eq_getElem hlt)
  · -- there is only one thread at first
    obtain ⟨hlt, -⟩ := List.getElem?_eq_some_iff.1 hx
    simp only [List.length_singleton] at hlt
    omega
  · exact leaves_of_after hx (fun _ _ h => h) hafter d hd

/-! ## What becomes of a host -/

/-- **A generation that is remembered stays so** until its host is forgotten. -/
theorem Recorded.keeps (h : Recorded s forgotten t d) (hkey : ∀ host, forgotten host → host ≠ key)
    (ht : Passes ServiceState.generations G₀ t G₁)
    (hd : Passes ServiceState.generations G₁ [d] G₂) (hknown : G₁.get? key = some g) :
    G₂.get? key = some g := by
  obtain hsame | @⟨host, σ, hforget, rfl⟩ |
    @⟨host, σ, σ', g', t₀, t₁, rfl, hunknown, hbetween, rfl, -⟩ := h
  · rwa [hd.eq_of_leaves fun e he => List.mem_singleton.1 he ▸ hsame]
  · obtain ⟨rfl, rfl⟩ := passes_singleton_iff.1 hd
    rwa [Dict.get?_erase, if_neg (hkey host hforget)]
  · -- what has just been found out was not remembered
    obtain ⟨rfl, rfl⟩ := passes_singleton_iff.1 hd
    have hsame : σ'.generations = σ.generations := ht.exists_of_mem.2.eq_of_leaves hbetween
    rw [remembering, Dict.get?_insert, if_neg]
    · exact hknown
    · rintro rfl
      rw [hsame, hunknown] at hknown
      cases hknown

/-- **A generation that is remembered after a deed** was so before, or has just been found out. -/
theorem Recorded.exists_of_get? (h : Recorded s forgotten t d)
    (hd : Passes ServiceState.generations G₁ [d] G₂) (hknown : G₂.get? key = some g) :
    G₁.get? key = some g ∨ ∃ host σ t₀ t₁, hostKey host = key ∧ t = t₀ ++ .changed σ σ :: t₁ ∧
      σ.generations.get? key = none ∧
        Run (s.hostGeneration host) (.changed σ σ :: t₁ ++ [d]) (.ok g) := by
  obtain hsame | @⟨host, σ, hforget, rfl⟩ |
    @⟨host, σ, σ', g', t₀, t₁, rfl, hunknown, -, rfl, hrun⟩ := h
  · exact .inl (by rwa [← hd.eq_of_leaves fun e he => List.mem_singleton.1 he ▸ hsame])
  · obtain ⟨rfl, rfl⟩ := passes_singleton_iff.1 hd
    rw [Dict.get?_erase] at hknown
    exact .inl (Option.ite_none_left_eq_some.1 hknown).2
  · obtain ⟨rfl, rfl⟩ := passes_singleton_iff.1 hd
    rw [remembering, Dict.get?_insert] at hknown
    by_cases hhost : hostKey host = key
    · rw [if_pos hhost] at hknown
      obtain rfl := Option.some.inj hknown
      exact .inr ⟨host, σ, t₀, t₁, hhost, rfl, hhost ▸ hunknown, hrun⟩
    · rw [if_neg hhost] at hknown
      exact .inl hknown

/-- **A host is not remembered** before its generation is found out. -/
theorem Recorded.eq_none (h : Recorded s forgotten t d)
    (hd : Passes ServiceState.generations G₁ [d] G₂) (hunknown : G₁.get? key = none) :
    G₂.get? key = none ∨ ∃ host g c, hostKey host = key ∧ c <:+ t ++ [d] ∧
      Run (s.hostGeneration host) c (.ok g) := by
  cases hknown : G₂.get? key with
  | none => exact .inl rfl
  | some g =>
    obtain hold | ⟨host, σ, t₀, t₁, hhost, rfl, -, hrun⟩ := h.exists_of_get? hd hknown
    · cases hunknown.symm.trans hold
    · exact .inr ⟨host, g, _, hhost, ⟨t₀, by simp⟩, hrun⟩

/-- An answer is remembered. -/
theorem get?_of_run_hostGeneration (hrun : Run (s.hostGeneration host) t (.ok g))
    (ht : Passes ServiceState.generations G₀ t G₁) : G₁.get? (hostKey host) = some g := by
  rw [← andThen_ok (s.hostGeneration host)] at hrun
  obtain ⟨g', σ, t', rfl, hknown, hdone⟩ | hprobed := reused_or_probed hrun
  · obtain ⟨rfl, hg⟩ := run_done_iff.1 hdone
    obtain rfl := Except.ok.inj hg
    obtain ⟨-, rfl⟩ := ht
    exact hknown
  · cases hprobed with
    | failed _ _ _ hfailure => cases hfailure
    | answered _ _ _ hdone heq =>
      obtain ⟨rfl, hg⟩ := run_done_iff.1 hdone
      obtain rfl := Except.ok.inj hg
      subst heq
      obtain ⟨-, hlast⟩ := ht.exists_of_mem
      obtain rfl := hlast
      rw [remembering, Dict.get?_insert, if_pos rfl]

/-- **What a service does for the rest of its tasks**, and what it has remembered before. -/
theorem exists_rest {before since : List Task}
    (hreach : System.Reaches answers (s.asked σ tasks) sys) (htasks : tasks = before ++ since)
    (hpast : sys.scene.pastOf 0 = t ++ u)
    (hbefore : Run (s.perform before) t ()) :
    ∃ y G, After (s.perform since) u y ∧ Passes ServiceState.generations σ.generations t G ∧
      Passes ServiceState.generations G u sys.scene.state.generations := by
  obtain ⟨y, hafter⟩ := exists_after_of_asked hreach
  have hpasses := passes_of_asked hreach
  rw [htasks, perform_append, hpast] at hafter
  rw [hpast] at hpasses
  obtain ⟨G, ht, hu⟩ := passes_append_iff.1 hpasses
  exact ⟨y, G, (hbefore.bind _).of_append hafter, ht, hu⟩

/-! ## What is remembered, and for how long -/

/-- **What a service remembers of hosts** that was asked to do tasks, by what it has done so far. -/
structure Remembers (s : Service) (tasks : List Task) (t : List (Deed ServiceState)) : Prop where
  /-- After an answer for a host, all operations that need its generation take the same one and ask
  for nothing, as long as no task forgets the host. The host may go by another name. -/
  same : ∀ before since t₁ t₂, tasks = before ++ since → t = t₁ ++ t₂ →
    Run (s.perform before) t₁ () →
      ∀ host, (∀ task ∈ since, ¬ task.Forgets (hostKey host)) →
        ∀ u a v b w g, t₂ = u ++ a ++ v ++ b ++ w → Run (s.hostGeneration host) a (.ok g) →
          ∀ (α : Type) (use : Nat → Action ServiceState (Except ServiceError α)) host' result,
            hostKey host' = hostKey host → Run ((s.hostGeneration host').andThen use) b result →
              Reused host' g use b result
  /-- After a host was invalidated, the next operation that needs its generation has it found out
  anew. The host may go by another name. -/
  anew : ∀ before since t₁ t₂ host, tasks = before ++ .invalidate host :: since → host ≠ "" →
    t = t₁ ++ t₂ → Run (s.perform (before ++ [.invalidate host])) t₁ () →
      ∀ u b w, t₂ = u ++ b ++ w →
        (∀ host' g c, hostKey host' = host → c <:+: u →
          ¬ Run (s.hostGeneration host') c (.ok g)) →
        ∀ (α : Type) (use : Nat → Action ServiceState (Except ServiceError α)) host' result,
          hostKey host' = host → Run ((s.hostGeneration host').andThen use) b result →
            Probed s host' use b result

/-- An operation that meets a remembered generation takes it. -/
theorem reused_of_run {α : Type} {use : Nat → Action ServiceState (Except ServiceError α)}
    {result : Except ServiceError α} (hrun : Run ((s.hostGeneration host).andThen use) t result)
    (ht : Passes ServiceState.generations G₀ t G₁) (hknown : G₀.get? (hostKey host) = some g) :
    Reused host g use t result := by
  obtain ⟨g', σ, t', rfl, hknown', hrest⟩ | hprobed := reused_or_probed hrun
  · obtain ⟨rfl, -⟩ := ht
    obtain rfl := Option.some.inj (hknown'.symm.trans hknown)
    exact ⟨σ, t', rfl, hknown, hrest⟩
  · cases hprobed with
    | failed hunknown _ heq _ | answered hunknown _ _ _ heq =>
      subst heq
      obtain ⟨rfl, -⟩ := ht
      cases hunknown.symm.trans hknown

/-- An operation that meets no remembered generation has it found out. -/
theorem probed_of_run {α : Type} {use : Nat → Action ServiceState (Except ServiceError α)}
    {result : Except ServiceError α} (hrun : Run ((s.hostGeneration host).andThen use) t result)
    (ht : Passes ServiceState.generations G₀ t G₁) (hunknown : G₀.get? (hostKey host) = none) :
    Probed s host use t result := by
  obtain ⟨g, σ, t', rfl, hknown, -⟩ | hprobed := reused_or_probed hrun
  · obtain ⟨rfl, -⟩ := ht
    cases hunknown.symm.trans hknown
  · exact hprobed

/-- After a host was invalidated, its generation is not remembered. -/
theorem get?_of_run_invalidate (hrun : Run (Service.invalidate host) t ())
    (ht : Passes ServiceState.generations G₀ t G₁) : G₁.get? host = none := by
  obtain ⟨t₁, t₂, _, rfl, -, hchange⟩ := run_bind_iff.1 hrun
  obtain ⟨σ, rfl, -⟩ := run_change_iff.1 hchange
  obtain ⟨-, hlast⟩ := ht.exists_of_mem
  obtain rfl := hlast
  rw [Dict.get?_erase, if_pos rfl]

/-- After tasks that end with this one, its generation is not remembered either. -/
theorem get?_of_run_perform_invalidate {before : List Task}
    (hrun : Run (s.perform (before ++ [.invalidate host])) t ())
    (ht : Passes ServiceState.generations G₀ t G₁) : G₁.get? host = none := by
  rw [perform_append] at hrun
  obtain ⟨t₁, t₂, _, rfl, -, hlast⟩ := run_bind_iff.1 hrun
  obtain ⟨t₃, t₄, _, rfl, hinvalidate, hdone⟩ := run_bind_iff.1 hlast
  obtain ⟨rfl, -⟩ := run_done_iff.1 hdone
  rw [List.append_nil] at ht
  obtain ⟨G, -, hG⟩ := passes_append_iff.1 ht
  exact get?_of_run_invalidate hinvalidate hG

/-- **A service remembers the generation of a host until it is told to forget the host**, whatever
it is asked to do one after the other, from any state on. -/
theorem remembers (hreach : System.Reaches answers (s.asked σ tasks) sys) :
    Remembers s tasks (sys.scene.pastOf 0) where
  same := by
    intro before since t₁ t₂ htasks hpast hbefore host hsince u a v b w g heq hanswer α use host'
      result hhost' hrun
    obtain ⟨y, G₁, hrest, -, hpasses⟩ := exists_rest hreach htasks hpast hbefore
    have hbuilt : Built s (fun h => h ≠ hostKey host) (s.perform since) := by
      refine perform_built fun task htask h hforgets => ?_
      rintro rfl
      exact hsince task htask (by rwa [hostKey_hostKey] at hforgets)
    rw [heq, passes_append_iff] at hpasses
    obtain ⟨G₅, hpasses, -⟩ := hpasses
    obtain ⟨G₄, hpasses, hb⟩ := passes_append_iff.1 hpasses
    obtain ⟨G₃, hua, hv⟩ := passes_append_iff.1 hpasses
    obtain ⟨G₂, hu, ha⟩ := passes_append_iff.1 hua
    -- what the answer has left is there until the next operation
    refine reused_of_run hrun hb (hhost'.symm ▸ hua.keeps (K := fun G : Dict Nat =>
      G.get? (hostKey host) = some g) hv (get?_of_run_hostGeneration hanswer ha) ?_)
    intro v₁ d v₂ G G' hsplit hG hd hknown
    have hrecorded : Recorded s _ (u ++ a ++ v₁) d :=
      hbuilt.each_recorded.of_after (u := v₂ ++ b ++ w) (by simpa [heq, hsplit] using hrest)
    exact hrecorded.keeps (fun h hne => hne) hG hd hknown
  anew := by
    intro before since t₁ t₂ host htasks hne hpast hbefore u b w heq hnone α use host' result
      hhost' hrun
    obtain ⟨y, G₁, hrest, hG₁, hpasses⟩ :=
      exists_rest hreach (htasks.trans (List.append_cons _ _ _)) hpast hbefore
    have hbuilt : Built s (fun _ => True) (s.perform since) :=
      perform_built fun _ _ _ _ => trivial
    rw [heq, passes_append_iff] at hpasses
    obtain ⟨G₃, hpasses, -⟩ := hpasses
    obtain ⟨G₂, hu, hb⟩ := passes_append_iff.1 hpasses
    have hunknown := get?_of_run_perform_invalidate hbefore hG₁
    -- no answer has come in between
    refine probed_of_run hrun hb (hhost'.symm ▸ Passes.keeps (t := []) (K := fun G : Dict Nat =>
      G.get? host = none) rfl hu hunknown ?_)
    intro u₁ d u₂ G G' hsplit hG hd hG₀
    have hrecorded : Recorded s (fun _ => True) u₁ d :=
      hbuilt.each_recorded.of_after (u := u₂ ++ b ++ w) (by simpa [heq, hsplit] using hrest)
    refine (hrecorded.eq_none hd hG₀).resolve_right ?_
    rintro ⟨h, g, c, hh, hsuffix, hanswer⟩
    refine hnone h g c hh (hsuffix.isInfix.trans ⟨[], u₂, ?_⟩) hanswer
    rw [hsplit]
    simp

/-- This machine is asked for its version by surroundings that run systemd 255. -/
def replyOf255 : (r : Request) → r.Reply
  | .run _ _ _ => .ok { output := Text.bytesOf "systemd 255\n" }
  | r => r.usual

/-- A service with two generations of schemas. -/
def sample : Service where
  settings := default
  store := { directory := "", fallback := 257, available := [255, 257] }
  pool := default

/-- A service that remembers nothing yet. -/
def sampleState : ServiceState where
  pool := { registry := { path := "" } }

/-- What a service is asked to do, with what this machine replies, up to some step. -/
def sampleAfter (tasks : List Task) (n : Nat) : System ServiceState :=
  (sample.asked sampleState tasks).follow (List.replicate n (0, replyOf255))

theorem reaches_sampleAfter (tasks : List Task) (n : Nat) :
    System.Reaches (fun _ _ _ => True) (sample.asked sampleState tasks) (sampleAfter tasks n) :=
  System.reaches_follow fun _ _ _ => trivial

/-- This machine is asked under both of its names, forgotten, and asked again. -/
theorem remembers_here :
    ∃ sys, System.Reaches (fun _ _ _ => True) (sample.asked sampleState
        [.generation "", .generation "local", .invalidate "local", .generation ""]) sys ∧
      sys.threads = [done ()] ∧ sys.scene.state.generations.get? "local" = some 255 ∧
        Remembers sample
          [.generation "", .generation "local", .invalidate "local", .generation ""]
          (sys.scene.pastOf 0) := by
  have hreach := reaches_sampleAfter
    [.generation "", .generation "local", .invalidate "local", .generation ""] 19
  have hdone : (sampleAfter
      [.generation "", .generation "local", .invalidate "local", .generation ""] 19).threads =
        [done ()] := rfl
  have hknown : (sampleAfter
      [.generation "", .generation "local", .invalidate "local", .generation ""]
        19).scene.state.generations.get? "local" = some 255 := rfl
  exact ⟨_, hreach, hdone, hknown, remembers hreach⟩

/-- **The empty name is no name to forget this machine by**: after it was invalidated, the
generation is still remembered, and an operation that needs it has nothing found out. -/
theorem reused_after_invalidate_empty :
    ∃ sys t₁ t₂, System.Reaches (fun _ _ _ => True) (sample.asked sampleState
        [.generation "", .invalidate "", .generation ""]) sys ∧
      sys.scene.pastOf 0 = t₁ ++ t₂ ∧
        Run (sample.perform [.generation "", .invalidate ""]) t₁ () ∧
          Run (sample.hostGeneration "") t₂ (.ok 255) ∧
            ¬ Probed sample "" (fun g => done (.ok g)) t₂ (.ok 255) := by
  have hreach := reaches_sampleAfter [.generation "", .invalidate ""] 11
  have hthreads : (sampleAfter [.generation "", .invalidate ""] 11).threads = [done ()] := rfl
  have hbefore := hreach.run (i := 0) rfl (by rw [hthreads]; rfl)
  have hknown : (sampleAfter [.generation "", .invalidate ""] 11).scene.state.generations.get?
      (hostKey "") = some 255 := rfl
  obtain ⟨y, others, heq, hreach⟩ :=
    hreach.exists_bind fun _ => sample.perform [.generation ""]
  obtain ⟨rfl, rfl⟩ := List.cons.inj (hthreads.symm.trans heq)
  rw [← perform_append] at hreach
  -- the last operation looks at what is remembered
  have hlook := hreach.tail ⟨0, .atomic rfl⟩
  refine ⟨_, _, _, hlook, Scene.pastOf_after_self, hbefore, ?_, fun hprobed => ?_⟩
  · refine run_look_bind_iff.2 ⟨_, [], rfl, ?_⟩
    rw [hknown]
    exact run_done_iff.2 ⟨rfl, rfl⟩
  · cases hprobed with
    | failed _ _ _ hfailure => cases hfailure
    | answered _ _ _ _ heq => simpa using congrArg List.length heq

end NetUnits.Service
