import NetUnits.Proofs.Service.Effect

/-! # Generations after an invalidation

When a host is invalidated, its generation is remembered no longer, so whoever needs it afterwards
meets one that was remembered since. It was found out since, too, or the host was asked for it
before the generation was erased, and what it said was remembered after that.

* **`Service.FoundOut`** — a generation was found out for a host: when it was asked, and when what
  it said was remembered.
* **`Service.FoundSince`**, **`Service.FoundMeanwhile`** — it was asked after some moment, or before
  it and what it said was remembered after it.
* **`Service.Converting`** — the operations that convert for a host;
  **`Service.Converting.exists_of_run`** — with which generation they do so.
* **`Service.Renewed`** — what is got for a host after an invalidation;
  **`Service.renewed`** — it is so in all orders of steps.
* **`Service.converts_outdated`** — a generation that is remembered after an invalidation may be one
  from before it. -/

namespace NetUnits.Service

open NetUnits.Action NetUnits.Deed NetUnits.ServiceState

variable {answers : Answers} {s : Service} {σ : ServiceState} {tasks : List (List Task)}
  {sys₀ sys₁ sys : System ServiceState} {h host : String} {g : Nat} {i j k : Nat}
  {t u p q : List (Deed ServiceState)}

/-! ## When a generation was found out -/

/-- **A generation was found out for a host**: after `p` the host was asked for its version, in `q`,
and at the end of `v` the generation that fits what it said was remembered. -/
def FoundOut (s : Service) (h : String) (g : Nat) (p q v past : List (Deed ServiceState)) : Prop :=
  ∃ host output told σ r, hostKey host = h ∧ past = p ++ q ++ v ++ r ∧
    Run (s.call host Operation.version.on) q (.ok output) ∧ g = s.fitting output ∧
      v = told ++ [.changed σ (remembering σ host g)]

/-- **A generation was found out since some moment**: the host was asked after it. -/
def FoundSince (s : Service) (h : String) (g : Nat) (sys₀ sys : System ServiceState) : Prop :=
  ∃ k p q v, FoundOut s h g p q v (sys.scene.pastOf k) ∧ sys₀.scene.pastOf k <+: p

/-- **A generation was being found out at some moment**: the host was asked before it, and what it
said was remembered after it. -/
def FoundMeanwhile (s : Service) (h : String) (g : Nat) (sys₀ sys : System ServiceState) : Prop :=
  ∃ k p q v, FoundOut s h g p q v (sys.scene.pastOf k) ∧
    p.length < (sys₀.scene.pastOf k).length ∧ (sys₀.scene.pastOf k).length < (p ++ q ++ v).length

/-- An operation that finds a generation out first looks for it, and remembers it in the end. -/
theorem Probed.exists_foundOut (hprobed : Probed s host (fun g => done (.ok g)) q (.ok g))
    (past : List (Deed ServiceState)) (hpast : past = p ++ q ++ t) :
    ∃ σ q' v, FoundOut s (hostKey host) g (p ++ [.changed σ σ]) q' v past ∧
      q = .changed σ σ :: (q' ++ v) := by
  cases hprobed with
  | failed _ _ _ hfailure => cases hfailure
  | @answered σ σ' t₁ t₂ t₃ output _ hcall _ hdone heq =>
    obtain ⟨rfl, hg⟩ := run_done_iff.1 hdone
    obtain rfl := Except.ok.inj hg
    refine ⟨σ, t₁, t₂ ++ [.changed σ' (remembering σ' host (s.fitting output))],
      ⟨host, output, t₂, σ', t, rfl, ?_, hcall, rfl, rfl⟩, ?_⟩
    · rw [hpast, heq]
      simp
    · rw [heq]
      simp

/-- **A generation that is remembered after some moment** was found out since, or meanwhile. -/
theorem foundSince_or_foundMeanwhile
    (hprobed : Probed s host (fun g => done (.ok g)) q (.ok g))
    (hpast : sys.scene.pastOf k = p ++ q ++ t) (hreach : System.Reaches answers sys₀ sys)
    (hlt : (sys₀.scene.pastOf k).length < (p ++ q).length) :
    FoundSince s (hostKey host) g sys₀ sys ∨ FoundMeanwhile s (hostKey host) g sys₀ sys := by
  obtain ⟨σ, q', v, hfound, rfl⟩ := hprobed.exists_foundOut _ hpast
  by_cases hle : (sys₀.scene.pastOf k).length ≤ (p ++ [Deed.changed σ σ]).length
  · obtain ⟨w, hw⟩ := hreach.exists_pastOf k
    refine .inl ⟨k, _, q', v, hfound, List.prefix_of_prefix_length_le ⟨w, hw.symm⟩ ?_ hle⟩
    rw [hpast]
    exact ⟨q' ++ v ++ t, by simp⟩
  · refine .inr ⟨k, _, q', v, hfound, by omega, ?_⟩
    simp only [List.length_append, List.length_cons, List.length_nil] at hlt ⊢
    omega

/-! ## Operations that convert -/

/-- **The operations that convert for a host**, with the generation that fits it. -/
inductive Converting (s : Service) (host : String) :
    {α : Type} → Action ServiceState (Except ServiceError α) → Prop where
  /-- The files of a kind are listed. -/
  | list (kind : Kind) (criteria : Option MatchCriteria) :
      Converting s host (s.list host kind criteria)
  /-- A file is read as a document. -/
  | read (filename : String) : Converting s host (s.read host filename)
  /-- A document is written to a file. -/
  | write (filename : String) (document : Document) :
      Converting s host (s.write host filename document)
  /-- The global configuration is read as a document. -/
  | globalDocument : Converting s host (s.globalDocument host)

/-- **The schemas of a generation are got** first of all. -/
def GetsSchemas (s : Service) (g : Nat) (a : List (Deed ServiceState)) : Prop :=
  ∃ a₁ a₂ generation, a = a₁ ++ a₂ ∧ Run (s.schemasOf g) a₁ (.ok generation)

/-- **A generation is converted with**: it is got for the host, and then its schemas are. -/
def ConvertsWith (s : Service) (host : String) (g : Nat) (a : List (Deed ServiceState)) : Prop :=
  ∃ a₁ a₂ a₃, a = a₁ ++ a₂ ++ a₃ ∧ Run (s.hostGeneration host) a₂ (.ok g) ∧ GetsSchemas s g a₃

section Converting

variable {α β : Type} {r : α}

theorem getsSchemas_of_run {f : Generation → Action ServiceState (Except ServiceError α)}
    (hrun : Run ((s.schemasOf g).andThen f) t (.ok r)) : GetsSchemas s g t := by
  obtain ⟨e, -, he⟩ | ⟨t₁, t₂, generation, rfl, hschemas, -⟩ := run_andThen_iff.1 hrun
  · cases he
  · exact ⟨t₁, t₂, generation, rfl, hschemas⟩

/-- What is done with the result of a conversion comes after the schemas were got. -/
theorem getsSchemas_of_run_andThen {f : Generation → Action ServiceState (Except ServiceError β)}
    {f' : β → Action ServiceState (Except ServiceError α)}
    (hrun : Run (((s.schemasOf g).andThen f).andThen f') t (.ok r)) : GetsSchemas s g t := by
  obtain ⟨e, -, he⟩ | ⟨t₁, t₂, b, rfl, hfirst, -⟩ := run_andThen_iff.1 hrun
  · cases he
  · obtain ⟨u₁, u₂, generation, rfl, hschemas⟩ := getsSchemas_of_run hfirst
    exact ⟨u₁, u₂ ++ t₂, generation, List.append_assoc .., hschemas⟩

/-- What has a result after a generation was got for a host converts with it. -/
theorem exists_convertsWith_of_run {use : Nat → Action ServiceState (Except ServiceError α)}
    (huse : ∀ g t, Run (use g) t (.ok r) → GetsSchemas s g t)
    (hrun : Run ((s.hostGeneration host).andThen use) t (.ok r)) :
    ∃ g, ConvertsWith s host g t := by
  obtain ⟨e, -, he⟩ | ⟨t₁, t₂, g, rfl, hgot, hrest⟩ := run_andThen_iff.1 hrun
  · cases he
  · exact ⟨g, [], t₁, t₂, rfl, hgot, huse g t₂ hrest⟩

theorem convertsWith_of_runs {a₁ a₂ : List (Deed ServiceState)} {generation : Generation}
    (hgot : Run (s.hostGeneration host) a₁ (.ok g))
    (hschemas : Run (s.schemasOf g) a₂ (.ok generation)) (a₃ : List (Deed ServiceState)) :
    ConvertsWith s host g (a₁ ++ (a₂ ++ a₃)) :=
  ⟨[], a₁, a₂ ++ a₃, rfl, hgot, a₂, a₃, generation, rfl, hschemas⟩

theorem ConvertsWith.prepend (h : ConvertsWith s host g t) (t₀ : List (Deed ServiceState)) :
    ConvertsWith s host g (t₀ ++ t) := by
  obtain ⟨a₁, a₂, a₃, rfl, hgot, hschemas⟩ := h
  exact ⟨t₀ ++ a₁, a₂, a₃, by simp, hgot, hschemas⟩

/-- **An operation that has converted for a host** has got a generation for it, and its schemas. -/
theorem Converting.exists_of_run {x : Action ServiceState (Except ServiceError α)}
    (hx : s.Converting host x) (hrun : Run x t (.ok r)) : ∃ g, ConvertsWith s host g t := by
  cases hx with
  | list kind criteria =>
    unfold Service.list at hrun
    split at hrun
    · exact exists_convertsWith_of_run (fun _ _ => getsSchemas_of_run) hrun
    · cases (run_done_iff.1 hrun).2
  | read filename =>
    unfold Service.read at hrun
    split at hrun
    · cases (run_done_iff.1 hrun).2
    · obtain ⟨e, -, he⟩ | ⟨t₁, t₂, text, rfl, -, hrest⟩ := run_andThen_iff.1 hrun
      · cases he
      · obtain ⟨g, hg⟩ := exists_convertsWith_of_run (fun _ _ => getsSchemas_of_run_andThen) hrest
        exact ⟨g, hg.prepend t₁⟩
  | write filename document =>
    unfold Service.write at hrun
    split at hrun
    · cases (run_done_iff.1 hrun).2
    · exact exists_convertsWith_of_run (fun _ _ => getsSchemas_of_run_andThen) hrun
  | globalDocument =>
    obtain ⟨e, -, he⟩ | ⟨t₁, t₂, text, rfl, -, hrest⟩ := run_andThen_iff.1 hrun
    · cases he
    · obtain ⟨g, hg⟩ := exists_convertsWith_of_run (fun _ _ => getsSchemas_of_run) hrest
      exact ⟨g, hg.prepend t₁⟩

end Converting

/-! ## After an invalidation -/

/-- **When a host has been forgotten**, its generation is not remembered. -/
theorem exists_erased (hreach : System.Reaches answers (s.served σ tasks) sys₁)
    {b : List (Deed ServiceState)} (hpast : sys₁.scene.pastOf j = t ++ b ++ u)
    (hrun : Run (Service.invalidate h) b ()) :
    ∃ sys₀, System.Reaches answers (s.served σ tasks) sys₀ ∧ System.Reaches answers sys₀ sys₁ ∧
      sys₀.scene.pastOf j = t ++ b ∧ sys₀.scene.state.generations.get? h = none := by
  obtain ⟨σ₁, σ₂, v, σ₃, σ₄, rfl, -, hgone⟩ := exists_of_run_invalidate hrun
  have hsplit : sys₁.scene.pastOf j = (s.served σ tasks).scene.pastOf j ++
      (t ++ .asked (.acquire .connectors) () :: .changed σ₁ σ₂ :: v) ++
        .changed σ₃ σ₄ :: u := by
    rw [hpast]
    simp [served, System.start, Scene.pastOf]
  obtain ⟨sys', sys₀, hreach', hstep, hreach₀, -, hscene, hpast'⟩ := hreach.exists_moment hsplit
  refine ⟨sys₀, hreach'.trans hstep.reaches, hreach₀, ?_, ?_⟩
  · rw [hscene, Scene.pastOf_after_self, hpast']
    simp [served, System.start, Scene.pastOf]
  · rw [hscene]
    exact hgone

/-- **What is got for a host after an invalidation**, by which its generation was erased at some
moment. -/
structure Renewed (answers : Answers) (s : Service) (h : String)
    (sys₀ sys₁ : System ServiceState) : Prop where
  /-- Each generation that is got for the host from then on was found out since that moment, or
  meanwhile. -/
  got : ∀ sys, System.Reaches answers sys₁ sys → ∀ i t a u host g, hostKey host = h →
    sys.scene.pastOf i = sys₁.scene.pastOf i ++ t ++ a ++ u →
      Run (s.hostGeneration host) a (.ok g) →
        FoundSince s h g sys₀ sys ∨ FoundMeanwhile s h g sys₀ sys
  /-- Each operation that begins from then on and converts for the host does so with such a
  generation. -/
  converts : ∀ sys, System.Reaches answers sys₁ sys → ∀ i t a u host, hostKey host = h →
    sys.scene.pastOf i = sys₁.scene.pastOf i ++ t ++ a ++ u →
      (∀ g, ConvertsWith s host g a →
        FoundSince s h g sys₀ sys ∨ FoundMeanwhile s h g sys₀ sys) ∧
      ∀ {α : Type} (x : Action ServiceState (Except ServiceError α)) (r : α),
        s.Converting host x → Run x a (.ok r) → ∃ g, ConvertsWith s host g a

/-- **A generation that is got after a moment at which none was remembered.** -/
theorem foundSince_or_foundMeanwhile_of_run
    (hreach₀ : System.Reaches answers (s.served σ tasks) sys₀)
    (hnone : sys₀.scene.state.generations.get? (hostKey host) = none)
    (hreach₁ : System.Reaches answers sys₀ sys₁) (hreach : System.Reaches answers sys₁ sys)
    {a : List (Deed ServiceState)}
    (hpast : sys.scene.pastOf i = sys₁.scene.pastOf i ++ t ++ a ++ u)
    (hrun : Run (s.hostGeneration host) a (.ok g)) :
    FoundSince s (hostKey host) g sys₀ sys ∨ FoundMeanwhile s (hostKey host) g sys₀ sys := by
  obtain ⟨g', σ', t', rfl, hknown, hdone⟩ | hprobed := reused_or_probed_of_run hrun
  · -- what is met was remembered since that moment
    obtain ⟨rfl, hg⟩ := run_done_iff.1 hdone
    obtain rfl := Except.ok.inj hg
    obtain ⟨sys₂, sys₃, h₂, hstep, h₃, hmay, -⟩ := hreach.exists_step (i := i)
      (t := t ++ [.changed σ' σ'] ++ u) (by rw [hpast]; simp) (d := .changed σ' σ') (by simp)
    obtain rfl : σ' = sys₂.scene.state := hmay
    obtain ⟨k, p, q, r, host', hhost, hpast₂, hprobed, hlt⟩ :=
      exists_probed hreach₀ hnone (hreach₁.trans h₂) hknown
    obtain ⟨w, hw⟩ := System.Reaches.exists_pastOf (hstep.reaches.trans h₃) k
    rw [← hhost]
    exact foundSince_or_foundMeanwhile (t := r ++ w) hprobed
      (by rw [hw, hpast₂, List.append_assoc]) (hreach₁.trans hreach) hlt
  · -- the operation itself has found it out
    obtain ⟨w, hw⟩ := hreach₁.exists_pastOf i
    refine foundSince_or_foundMeanwhile (k := i) (p := sys₁.scene.pastOf i ++ t) (t := u) hprobed
      hpast (hreach₁.trans hreach) ?_
    have hnonempty : a ≠ [] := by
      rintro rfl
      cases hprobed with
      | failed _ _ heq => cases heq
      | answered _ _ _ _ heq => cases heq
    have hlength := List.length_pos_iff.2 hnonempty
    rw [hw]
    simp only [List.length_append]
    omega

/-- **After an invalidation only generations from since then are got for a host**, and those that
were being found out when the old one was erased, whatever else the service is asked at the same
time. -/
theorem renewed (hreach : System.Reaches answers (s.served σ tasks) sys₁)
    {b : List (Deed ServiceState)} (hpast : sys₁.scene.pastOf j = t ++ b ++ u)
    (hrun : Run (Service.invalidate h) b ()) :
    ∃ sys₀, System.Reaches answers (s.served σ tasks) sys₀ ∧ System.Reaches answers sys₀ sys₁ ∧
      sys₀.scene.pastOf j = t ++ b ∧ Renewed answers s h sys₀ sys₁ := by
  obtain ⟨sys₀, hreach₀, h₀, hpast₀, hgone⟩ := exists_erased hreach hpast hrun
  have hgot : ∀ sys, System.Reaches answers sys₁ sys → ∀ i t a u host g, hostKey host = h →
      sys.scene.pastOf i = sys₁.scene.pastOf i ++ t ++ a ++ u →
        Run (s.hostGeneration host) a (.ok g) →
          FoundSince s h g sys₀ sys ∨ FoundMeanwhile s h g sys₀ sys := by
    rintro sys hsys i t a u host g rfl hpast hrun
    exact foundSince_or_foundMeanwhile_of_run hreach₀ hgone h₀ hsys hpast hrun
  refine ⟨sys₀, hreach₀, h₀, hpast₀, hgot, fun sys hsys i t a u host hhost hpast =>
    ⟨fun g hconverts => ?_, fun x r hx hx' => hx.exists_of_run hx'⟩⟩
  obtain ⟨a₁, a₂, a₃, rfl, hrun', -⟩ := hconverts
  exact hgot sys hsys i (t ++ a₁) a₂ (a₃ ++ u) host g hhost (by rw [hpast]; simp) hrun'

/-- The generation for a host is wanted while the host is invalidated and then used. -/
def outdatedTasks : List (List Task) :=
  [[.generation "router"], [.invalidate "router", .list "router" .network none]]

/-- The host has said its version, but that is not remembered yet. -/
def routerHeard : System ServiceState :=
  (remoteSample.served routerState outdatedTasks).follow (List.replicate 22 (0, replyOfRouter))

/-- Then it is invalidated. -/
def routerInvalidated : System ServiceState :=
  routerHeard.follow (List.replicate 5 (1, replyOfRouter))

/-- Then what it has said is remembered. -/
def routerRemembered : System ServiceState :=
  routerInvalidated.follow [(0, replyOfRouter)]

theorem reaches_routerHeard :
    System.Reaches (fun _ _ _ => True) (remoteSample.served routerState outdatedTasks)
      routerHeard :=
  System.reaches_follow fun _ _ _ => trivial

theorem reaches_routerInvalidated :
    System.Reaches (fun _ _ _ => True) routerHeard routerInvalidated :=
  System.reaches_follow fun _ _ _ => trivial

theorem run_invalidate_router :
    Run (Service.invalidate "router") (routerInvalidated.scene.pastOf 1) () := by
  have hafter : After (Service.invalidate "router") (routerInvalidated.scene.pastOf 1)
      (done ()) :=
    .ask _ <| .atomic _ <| .ask _ <| .ask _ <| .atomic _ <| .start _
  exact hafter

/-- An invalidation that has returned. -/
theorem renewed_router :
    ∃ sys₀, System.Reaches (fun _ _ _ => True) (remoteSample.served routerState outdatedTasks)
        sys₀ ∧ System.Reaches (fun _ _ _ => True) sys₀ routerInvalidated ∧
      sys₀.scene.pastOf 1 = [] ++ routerInvalidated.scene.pastOf 1 ∧
        Renewed (fun _ _ _ => True) remoteSample "router" sys₀ routerInvalidated :=
  renewed (u := []) (reaches_routerHeard.trans reaches_routerInvalidated)
    (List.append_nil _).symm run_invalidate_router

/-- The call by which the host is asked for its version. -/
def routerAsked : List (Deed ServiceState) × Except ServiceError String × ServiceState :=
  (remoteSample.call "router" Operation.version.on).alone replyOfRouter routerState

/-- What is told of its answer. -/
def routerTold : List (Deed ServiceState) :=
  ((remoteSample.generationOf "router" "systemd 255\n").alone replyOfRouter routerState).1

/-- The host was asked before the invalidation, and what it said was remembered after it. -/
theorem foundOut_router :
    FoundOut remoteSample "router" 255 [.changed routerState routerState] routerAsked.1
      (routerTold ++ [.changed routerInvalidated.scene.state
        (remembering routerInvalidated.scene.state "router" 255)])
      (routerRemembered.scene.pastOf 0) := by
  have hcall : Run (remoteSample.call "router" Operation.version.on) routerAsked.1
      routerAsked.2.1 := run_alone _ _ _
  have hok : routerAsked.2.1 = .ok "systemd 255\n" := rfl
  rw [hok] at hcall
  have hpast : routerRemembered.scene.pastOf 0 = [.changed routerState routerState] ++
      routerAsked.1 ++ (routerTold ++ [.changed routerInvalidated.scene.state
        (remembering routerInvalidated.scene.state "router" 255)]) ++ [] := rfl
  exact ⟨"router", "systemd 255\n", routerTold, routerInvalidated.scene.state, [], rfl, hpast,
    hcall, rfl, rfl⟩

/-- **A generation from before an invalidation is converted with after it**: the host was asked
before the invalidation began, what it said was remembered after the invalidation had returned, and
an operation that begins later converts with it. -/
theorem converts_outdated :
    ∃ p q v sys a files,
      (System.Reaches (fun _ _ _ => True) (remoteSample.served routerState outdatedTasks)
          routerHeard ∧
        routerHeard.scene.pastOf 1 = [] ∧ p ++ q <+: routerHeard.scene.pastOf 0) ∧
      (System.Reaches (fun _ _ _ => True) routerHeard routerInvalidated ∧
        Run (Service.invalidate "router") (routerInvalidated.scene.pastOf 1) ()) ∧
      (System.Reaches (fun _ _ _ => True) routerInvalidated routerRemembered ∧
        FoundOut remoteSample "router" 255 p q v (routerRemembered.scene.pastOf 0)) ∧
      System.Reaches (fun _ _ _ => True) routerRemembered sys ∧
        sys.scene.pastOf 1 = routerInvalidated.scene.pastOf 1 ++ a ∧
        Run (remoteSample.list "router" .network none) a files ∧
          ConvertsWith remoteSample "router" 255 a := by
  -- the second thread goes on alone
  have hget : routerRemembered.threads[1]? =
      some ((Task.list "router" .network none).action remoteSample >>= fun _ => done ()) := rfl
  have hfree : ∀ lock, routerRemembered.scene.holder lock = none
    | .connectors | .registry | .schemas | .session 0 | .session (_ + 1) => rfl
  have hbuilt : Built remoteSample (fun _ => True)
      ((Task.list "router" .network none).action remoteSample) :=
    parts_built.task fun _ _ => trivial
  obtain ⟨sys, hreach, hpast⟩ : ∃ sys, System.Reaches (fun _ _ _ => True) routerRemembered sys ∧
      sys.scene.pastOf 1 = routerRemembered.scene.pastOf 1 ++
        (((Task.list "router" .network none).action remoteSample).alone replyOfRouter
          routerRemembered.scene.state).1 :=
    System.exists_reaches_alone_of_free replyOfRouter (fun _ => trivial) hget hbuilt.orderly hfree
  rw [Task.action, alone_bind_fst] at hpast
  -- it meets the generation and gets its schemas
  obtain ⟨use, hlist⟩ : ∃ use : Nat → Generation → Action ServiceState
      (Except ServiceError (List FileSummary)), remoteSample.list "router" .network none =
    (remoteSample.hostGeneration "router").andThen fun g =>
      (remoteSample.schemasOf g).andThen (use g) := ⟨_, rfl⟩
  have hgot : ((remoteSample.hostGeneration "router").alone replyOfRouter
    routerRemembered.scene.state).2.1 = .ok 255 := rfl
  have hschemas := run_alone replyOfRouter (remoteSample.schemasOf 255)
    ((remoteSample.hostGeneration "router").alone replyOfRouter routerRemembered.scene.state).2.2
  obtain ⟨generation, hloaded, -⟩ := exists_of_run_schemasOf (.inr (by decide)) hschemas
  have hrun := run_alone replyOfRouter (remoteSample.list "router" .network none)
    routerRemembered.scene.state
  have hprefix : [.changed routerState routerState] ++ routerAsked.1 <+:
    routerHeard.scene.pastOf 0 := ⟨routerTold, rfl⟩
  have hsame : routerRemembered.scene.pastOf 1 = routerInvalidated.scene.pastOf 1 :=
    System.pastOf_goOn_of_ne (by decide)
  refine ⟨_, _, _, sys, _, _, ⟨reaches_routerHeard, rfl, hprefix⟩,
    ⟨reaches_routerInvalidated, run_invalidate_router⟩,
    ⟨System.reaches_follow fun _ _ _ => trivial, foundOut_router⟩, hreach, ?_, hrun, ?_⟩
  · rw [hpast, hsame]
    exact congrArg _ (List.append_nil _)
  · rw [hlist, alone_andThen_fst hgot, alone_andThen_fst hloaded]
    exact convertsWith_of_runs (hgot ▸ run_alone _ _ _) (hloaded ▸ hschemas) _

end NetUnits.Service
