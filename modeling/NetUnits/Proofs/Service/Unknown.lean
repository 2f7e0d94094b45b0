import NetUnits.Proofs.Connector.Lookup
import NetUnits.Proofs.Schema.Loading
import NetUnits.Proofs.Service.Probe

/-! # Operations on hosts that are not found

Every operation on a host asks the pool for the connector of the host before it does anything on the
host. If none is found, the operation fails, and no session is opened for it. Only two operations
look at something else before: the generation for the host may be remembered, and a document is
rendered for it before it is written.

* **`Service.Unfound`** — no lookup finds a connector for a host.
* **`Service.Meets`** — a generation for a host is remembered.
* **`Service.OnHost`** — the operations on a host, for what they are refused before the host matters,
  and what else they may come to if a generation is remembered.
* **`Service.OnHost.denied`** — operations on a host that is not found fail and open no session. -/

namespace NetUnits

open NetUnits.Action NetUnits.Deed

/-- The log is told something, and no session is opened. -/
theorem Action.event_opens_nothing {σ : Type} {q : σ → σ → Prop} (source : EventSource)
    (level : Level) (message : String) :
    (event source level message : Action σ _).Obeys (fun r => r.opening? = none) q :=
  obeys_request rfl

namespace Service

open NetUnits.ConnectorPool

variable {s : Service} {h : String} {α β : Type} {t : List (Deed ServiceState)}

/-! ## Lookups -/

/-- **No lookup finds a connector for a host.** -/
def Unfound (s : Service) (h : String) (t : List (Deed ServiceState)) : Prop :=
  ∀ u c, u <:+: t → ¬ Run ((s.pool.lookup h).inside ServiceState.poolPart) u (.ok c)

theorem Unfound.of_infix {u : List (Deed ServiceState)} (ht : Unfound s h t) (hu : u <:+: t) :
    Unfound s h u :=
  fun v c hv => ht v c (hv.trans hu)

theorem lookup_opens_nothing (pool : ConnectorPool) (host : String) :
    (pool.lookup host).Obeys (fun r => r.opening? = none) fun _ _ => True := by
  refine Obeys.withLock rfl rfl (Obeys.bind (obeys_change fun _ => trivial) fun taken => ?_)
  cases taken with
  | some c => trivial
  | none =>
    rw [get_inside]
    refine Obeys.bind (Obeys.withLock rfl rfl (obeys_change fun _ => trivial)) fun entry => ?_
    cases entry with
    | none => trivial
    | some entry =>
      exact (event_opens_nothing _ _ _).bind fun _ =>
        Obeys.bind (obeys_change fun _ => trivial) fun _ => trivial

/-- **Where no connector is found, getting one is a lookup** that fails. -/
theorem eq_unknownHost_of_run_get {r : Except ConnectorError Connector}
    (hlocal : isLocalHost h = false) (hfound : Unfound s h t)
    (hrun : Run ((s.pool.get h).inside ServiceState.poolPart) t r) :
    r = .error (.unknownHost h) ∧
      ∃ e, Run ((s.pool.lookup h).inside ServiceState.poolPart) t (.error e) := by
  rw [get_of_not_isLocalHost s.pool hlocal, remote, inside_andThen, inside_andThen] at hrun
  have hlookup : ∀ {u v : List (Deed ServiceState)} {c : RemoteConnector}, t = u ++ v →
      ¬ Run ((s.pool.lookup h).inside ServiceState.poolPart) u (.ok c) := fun heq =>
    hfound _ _ (heq ▸ (List.prefix_append _ _).isInfix)
  obtain ⟨e, hremote, rfl⟩ | ⟨t₁, t₂, c, rfl, hremote, -⟩ := run_andThen_iff.1 hrun
  · obtain ⟨e', hfailed, he⟩ | ⟨t₁, t₂, c, rfl, hok, -⟩ := run_andThen_iff.1 hremote
    · obtain rfl := Except.error.inj he
      refine ⟨?_, e, hfailed⟩
      rw [eq_unknownHost_of_run_lookup ((run_inside_iff isLawful_poolPart).1 hfailed).1]
    · exact absurd hok (hlookup rfl)
  · obtain ⟨e, -, he⟩ | ⟨t₃, t₄, c', rfl, hok, -⟩ := run_andThen_iff.1 hremote
    · cases he
    · exact absurd hok (hlookup (List.append_assoc _ _ _))

/-! ## What fails -/

/-- **A generation for a host is remembered** where it is looked for. -/
def Meets (h : String) (g : Nat) (t : List (Deed ServiceState)) : Prop :=
  ∃ σ, .changed σ σ ∈ t ∧ σ.generations.get? (hostKey h) = some g

theorem Meets.append {g : Nat} {u : List (Deed ServiceState)} (hmeets : Meets h g t) :
    Meets h g (t ++ u) :=
  let ⟨σ, hmem, hknown⟩ := hmeets
  ⟨σ, List.mem_append_left _ hmem, hknown⟩

theorem Meets.append_left {g : Nat} (hmeets : Meets h g t) (u : List (Deed ServiceState)) :
    Meets h g (u ++ t) :=
  let ⟨σ, hmem, hknown⟩ := hmeets
  ⟨σ, List.mem_append_right u hmem, hknown⟩

/-- The schemas of a generation can be got. -/
def Usable (s : Service) (g : Nat) : Prop :=
  ∀ t result, Run (s.schemasOf g) t result → ∃ generation, result = .ok generation

/-- **An action opens no session** if no connector is found for a host. -/
def Silent (s : Service) (h : String) (x : Action ServiceState α) : Prop :=
  ∀ t r, Run x t r → Unfound s h t → Deed.collect Request.opening? t = []

/-- **An operation is denied** with an error if no connector is found for a host: it opens no
session, and it fails so. If it meets a generation that is remembered, it may come to some other
results instead. -/
structure Denied (s : Service) (h : String) (e : ServiceError) (others : Except ServiceError α → Prop)
    (x : Action ServiceState (Except ServiceError α)) : Prop where
  /-- No session is opened. -/
  silent : Silent s h x
  /-- The error is the result, or a generation was met. -/
  fails : ∀ t r, Run x t r → Unfound s h t → (∀ g, Meets h g t → s.Usable g) →
    r = .error e ∨ others r ∧ ∃ g, Meets h g t

/-- The error of operations on a host that is not found. -/
def unfound (h : String) : ServiceError :=
  .connector (.unknownHost h)

theorem silent_of_obeys {x : Action ServiceState α} {q : ServiceState → ServiceState → Prop}
    (hx : x.Obeys (fun r => r.opening? = none) q) : Silent s h x := fun t r hrun _ =>
  collect_eq_nil fun d hd => by
    have hobeys := (hx.of_after hrun).1 d hd
    cases d with
    | asked r reply => exact hobeys
    | changed | forked => trivial

theorem silent_done (a : α) : Silent s h (done a) :=
  silent_of_obeys (q := fun _ _ => True) trivial

theorem silent_event (source : EventSource) (level : Level) (message : String) :
    Silent s h (event source level message) :=
  silent_of_obeys (q := fun _ _ => True) (event_opens_nothing source level message)

theorem Silent.bind {x : Action ServiceState α} {f : α → Action ServiceState β}
    (hx : Silent s h x) (hf : ∀ a, Silent s h (f a)) : Silent s h (x >>= f) := by
  intro t r hrun hfound
  obtain ⟨t₁, t₂, a, rfl, h₁, h₂⟩ := run_bind_iff.1 hrun
  rw [Deed.collect_append,
    hx t₁ a h₁ (hfound.of_infix (List.prefix_append _ _).isInfix),
    hf a t₂ r h₂ (hfound.of_infix (List.suffix_append _ _).isInfix), List.append_nil]

theorem Silent.andThen {ε : Type} {x : Action ServiceState (Except ε α)}
    {f : α → Action ServiceState (Except ε β)} (hx : Silent s h x) (hf : ∀ a, Silent s h (f a)) :
    Silent s h (x.andThen f) :=
  hx.bind fun
    | .ok a => hf a
    | .error _ => silent_done _

/-- An operation that is refused is denied with the refusal. -/
theorem denied_refused {others : Except ServiceError α → Prop} (e : ServiceError) :
    Denied s h e others (done (.error e)) where
  silent := silent_done _
  fails := fun _ _ hrun _ _ => .inl (run_done_iff.1 hrun).2

/-- What follows an operation that is denied in any case does not matter. -/
theorem Denied.andThen {e : ServiceError} {x : Action ServiceState (Except ServiceError α)}
    {f : α → Action ServiceState (Except ServiceError β)} (hx : Denied s h e (fun _ => False) x)
    (hf : ∀ a, Silent s h (f a)) : Denied s h e (fun _ => False) (x.andThen f) where
  silent := hx.silent.andThen hf
  fails := by
    intro t r hrun hfound husable
    have hfails : ∀ t₁ t₂ r, t = t₁ ++ t₂ → Run x t₁ r → r = .error e := by
      rintro t₁ t₂ r rfl h₁
      exact (hx.fails t₁ r h₁ (hfound.of_infix (List.prefix_append _ _).isInfix)
        fun g hmeets => husable g hmeets.append).resolve_right fun hother => hother.1
    obtain ⟨e', h₁, rfl⟩ | ⟨t₁, t₂, a, rfl, h₁, -⟩ := run_andThen_iff.1 hrun
    · exact .inl (congrArg _ (Except.error.inj (hfails t [] _ (List.append_nil t).symm h₁)))
    · cases hfails t₁ t₂ _ rfl h₁

/-- **A call on a host that is not found** is a lookup that fails. -/
theorem eq_unknownHost_of_run_call (hlocal : isLocalHost h = false)
    {operation : Connector → Action PoolState (Except ConnectorError α)}
    {r : Except ServiceError α} (hrun : Run (s.call h operation) t r) (hfound : Unfound s h t) :
    r = .error (unfound h) ∧ Deed.collect Request.opening? t = [] := by
  obtain ⟨t₁, t₂, result, rfl, hcall, hresult⟩ := run_bind_iff.1 hrun
  rw [ConnectorPool.call, callWithin, inside_andThen] at hcall
  have hfirst : ∀ {u : List (Deed ServiceState)}, u <+: t₁ → Unfound s h u := fun hu =>
    hfound.of_infix (hu.isInfix.trans (List.prefix_append _ _).isInfix)
  obtain ⟨e, hget, rfl⟩ | ⟨t₃, t₄, c, rfl, hget, -⟩ := run_andThen_iff.1 hcall
  · obtain ⟨he, e', hlookup⟩ := eq_unknownHost_of_run_get hlocal (hfirst List.prefix_rfl) hget
    obtain rfl := Except.error.inj he
    obtain ⟨rfl, rfl⟩ := run_done_iff.1 hresult
    have hobeys := (lookup_opens_nothing s.pool h).inside (q := fun _ _ => True)
      ServiceState.poolPart fun _ _ _ => trivial
    refine ⟨rfl, ?_⟩
    rw [List.append_nil]
    exact silent_of_obeys hobeys t₁ _ hlookup (hfirst List.prefix_rfl)
  · obtain ⟨hok, -⟩ := eq_unknownHost_of_run_get hlocal (hfirst (List.prefix_append _ _)) hget
    cases hok

theorem call_denied (hlocal : isLocalHost h = false)
    (operation : Connector → Action PoolState (Except ConnectorError α)) :
    Denied s h (unfound h) (fun _ => False) (s.call h operation) where
  silent := fun _ _ hrun hfound => (eq_unknownHost_of_run_call hlocal hrun hfound).2
  fails := fun _ _ hrun hfound _ => .inl (eq_unknownHost_of_run_call hlocal hrun hfound).1

/-- **The generation for a host that is not found** is one that is remembered, or there is none. -/
theorem unfound_or_meets_of_run (hlocal : isLocalHost h = false) {r : Except ServiceError Nat}
    (hrun : Run (s.hostGeneration h) t r) (hfound : Unfound s h t) :
    Deed.collect Request.opening? t = [] ∧
      (r = .error (unfound h) ∨ ∃ g, r = .ok g ∧ Meets h g t) := by
  obtain ⟨g, σ, t', rfl, hknown, hdone⟩ | hprobed := reused_or_probed_of_run hrun
  · obtain ⟨rfl, hok⟩ := run_done_iff.1 hdone
    exact ⟨rfl, .inr ⟨g, hok, σ, List.mem_singleton.2 rfl, hknown⟩⟩
  -- a generation that is not remembered is not found out either
  cases hprobed with
  | failed hunknown hcall heq hfailure =>
    subst heq
    obtain ⟨he, hopens⟩ := eq_unknownHost_of_run_call hlocal hcall
      (hfound.of_infix (List.suffix_cons _ _).isInfix)
    exact ⟨hopens, .inl (hfailure.trans (congrArg _ (Except.error.inj he)))⟩
  | @answered σ σ' t₁ t₂ t₃ output hunknown hcall htold hdone heq =>
    subst heq
    have hinfix : t₁ <:+: .changed σ σ :: t₁ ++ t₂ ++
        .changed σ' (remembering σ' h (s.fitting output)) :: t₃ :=
      ⟨[.changed σ σ], t₂ ++ .changed σ' (remembering σ' h (s.fitting output)) :: t₃, by simp⟩
    obtain ⟨he, -⟩ := eq_unknownHost_of_run_call hlocal hcall (hfound.of_infix hinfix)
    cases he

theorem hostGeneration_silent (hlocal : isLocalHost h = false) : Silent s h (s.hostGeneration h) :=
  fun _ _ hrun hfound => (unfound_or_meets_of_run hlocal hrun hfound).1

theorem hostGeneration_denied (hlocal : isLocalHost h = false) :
    Denied s h (unfound h) (fun r => ∃ g, r = .ok g) (s.hostGeneration h) where
  silent := hostGeneration_silent hlocal
  fails := fun _ _ hrun hfound _ => (unfound_or_meets_of_run hlocal hrun hfound).2.imp_right
    fun ⟨g, hr, hmeets⟩ => ⟨⟨g, hr⟩, g, hmeets⟩

/-- **An operation that needs the generation for a host first** is denied if it is so once it has
one whose schemas can be got. -/
theorem denied_generation {others : Except ServiceError α → Prop}
    {use : Nat → Action ServiceState (Except ServiceError α)} (hlocal : isLocalHost h = false)
    (hsilent : ∀ g, Silent s h (use g))
    (huse : ∀ g, s.Usable g → ∀ t r, Run (use g) t r → Unfound s h t →
      (∀ g', Meets h g' t → s.Usable g') → r = .error (unfound h) ∨ others r) :
    Denied s h (unfound h) others ((s.hostGeneration h).andThen use) where
  silent := (hostGeneration_silent hlocal).andThen hsilent
  fails := by
    intro t r hrun hfound husable
    obtain ⟨e', h₁, rfl⟩ | ⟨t₁, t₂, a, rfl, h₁, h₂⟩ := run_andThen_iff.1 hrun
    · obtain he | ⟨g, hok, -⟩ := (unfound_or_meets_of_run hlocal h₁ hfound).2
      · exact .inl (congrArg _ (Except.error.inj he))
      · cases hok
    · obtain he | ⟨g, hok, hmeets⟩ := (unfound_or_meets_of_run hlocal h₁
        (hfound.of_infix (List.prefix_append _ _).isInfix)).2
      · cases he
      · obtain rfl := Except.ok.inj hok
        exact (huse a (husable a hmeets.append) t₂ r h₂
          (hfound.of_infix (List.suffix_append _ _).isInfix)
          fun g' hg' => husable g' (hg'.append_left t₁)).imp_right
            fun hother => ⟨hother, a, hmeets.append⟩

/-! ## What opens nothing -/

theorem schemasOf_silent (version : Nat) : Silent s h (s.schemasOf version) := by
  unfold schemasOf
  split
  · exact (silent_event _ _ _).bind fun _ => silent_done _
  · have hload : (s.store.generation version).Obeys (fun r => r.opening? = none) fun _ _ => True :=
      s.store.generation_obeys (p := (·.opening? = none)) (fun _ => rfl) (fun _ _ => rfl) rfl rfl
        version
    exact (silent_of_obeys (hload.inside (q := fun _ _ => True) ServiceState.schemaPart
      fun _ _ _ => trivial)).bind fun result => by cases result <;> exact silent_done _

theorem convert_silent (text : String) (kind : Kind) (version : Nat) :
    Silent s h (s.convert text kind version) :=
  (schemasOf_silent version).andThen fun _ => silent_done _

theorem render_silent (document : Document) (kind : Kind) (version : Nat) :
    Silent s h (s.render document kind version) :=
  (schemasOf_silent version).andThen fun _ => silent_done _

theorem summaries_silent (generation : Generation) (kind : Kind) (filter : Option MatchCriteria)
    (contents : List (String × Except ConnectorError ByteArray)) :
    Silent s h (s.summaries generation kind filter contents) := by
  induction contents with
  | nil => exact silent_done _
  | cons content rest ih =>
    refine Silent.bind ?_ fun _ => ih.bind fun _ => silent_done _
    cases s.summarized generation kind content.2 with
    | ok document =>
      simp only [summaryOf]
      split <;> exact silent_done _
    | error why => exact (silent_event _ _ _).bind fun _ => silent_done _

theorem told_silent {result : α} (source : EventSource) (level : Level) (message : String) :
    Silent s h (event source level message >>= fun _ => done result) :=
  (silent_event source level message).bind fun _ => silent_done _

/-! ## Operations -/

/-- Why a name is refused for a file of the configuration directory, if it is. -/
def refusalOf (filename : String) : Option ServiceError :=
  match Kind.ofSafeFilename filename with
  | .error e => some e
  | .ok _ => none

/-- **An operation on a host**, why it is refused for its arguments before the host matters, if it
is, and what else it may come to on a host that is not found, if a generation for it is
remembered. -/
inductive OnHost (s : Service) (h : String) : Option ServiceError →
    {α : Type} → (Except ServiceError α → Prop) → Action ServiceState (Except ServiceError α) →
      Prop where
  /-- What is called on the connector of the host. -/
  | call {α : Type} (operation : Connector → Action PoolState (Except ConnectorError α)) :
    OnHost s h none (fun _ => False) (s.call h operation)
  /-- The generation for the host: the one that is remembered. -/
  | generation : OnHost s h none (fun r => ∃ g, r = .ok g) (s.hostGeneration h)
  /-- The files of a kind. -/
  | list (kind : Kind) (criteria : Option MatchCriteria) :
    OnHost s h (if kind.isFileKind then none else some (.unknownKind kind.name)) (fun _ => False)
      (s.list h kind criteria)
  /-- The text of a file. -/
  | readText (filename : String) :
    OnHost s h (refusalOf filename) (fun _ => False) (s.readText h filename)
  /-- A new text for a file. -/
  | writeText (filename text : String) :
    OnHost s h (refusalOf filename) (fun _ => False) (s.writeText h filename text)
  /-- The document of a file. -/
  | read (filename : String) : OnHost s h (refusalOf filename) (fun _ => False) (s.read h filename)
  /-- A new document for a file: it may be found that the document cannot be rendered. -/
  | write (filename : String) (document : Document) :
    OnHost s h (refusalOf filename) (fun r => ∃ why, r = .error (.unitFile why))
      (s.write h filename document)
  /-- No file any more. -/
  | delete (filename : String) :
    OnHost s h (refusalOf filename) (fun _ => False) (s.delete h filename)
  /-- The global configuration as a document. -/
  | globalDocument : OnHost s h none (fun _ => False) (s.globalDocument h)
  /-- A new text for the global configuration. -/
  | setGlobal (text : String) : OnHost s h none (fun _ => False) (s.setGlobal h text)

/-- The error of an operation on a host that is not found: its refusal, if it is refused. -/
def errorOf (h : String) (refusal : Option ServiceError) : ServiceError :=
  refusal.getD (unfound h)

theorem readText_denied (hlocal : isLocalHost h = false) (filename : String) :
    Denied s h (errorOf h (refusalOf filename)) (fun _ => False) (s.readText h filename) := by
  rw [readText, refusalOf]
  cases Kind.ofSafeFilename filename with
  | error e => exact denied_refused e
  | ok kind => exact (call_denied hlocal _).andThen fun _ => silent_done _

theorem writeText_denied (hlocal : isLocalHost h = false) (filename text : String) :
    Denied s h (errorOf h (refusalOf filename)) (fun _ => False) (s.writeText h filename text) := by
  rw [writeText, refusalOf]
  cases Kind.ofSafeFilename filename with
  | error e => exact denied_refused e
  | ok kind => exact (call_denied hlocal _).andThen fun _ => told_silent _ _ _

theorem list_denied (hlocal : isLocalHost h = false) (kind : Kind)
    (criteria : Option MatchCriteria) :
    Denied s h (errorOf h (if kind.isFileKind then none else some (.unknownKind kind.name)))
      (fun _ => False) (s.list h kind criteria) := by
  rw [Service.list]
  split
  · have hlisted : ∀ generation, Denied s h (unfound h) (fun _ => False)
        ((s.call h (readAll kind)).andThen fun contents => do
          let files ← s.summaries generation kind (filterOf kind criteria) contents
          event .service .debug s!"{hostKey h}: {files.length} {kind.name} file(s)"
          return .ok files) := fun generation =>
      (call_denied hlocal _).andThen fun contents =>
        (summaries_silent generation kind _ contents).bind fun _ => told_silent _ _ _
    refine denied_generation hlocal (fun version => (schemasOf_silent version).andThen
      fun generation => (hlisted generation).silent) fun version husable t r hrun hfound hmet => ?_
    -- the schemas are got, and then the files are asked for
    obtain ⟨e, hfailed, -⟩ | ⟨t₁, t₂, generation, rfl, -, hrest⟩ := run_andThen_iff.1 hrun
    · obtain ⟨_, hok⟩ := husable t _ hfailed
      cases hok
    · exact ((hlisted generation).fails t₂ r hrest
        (hfound.of_infix (List.suffix_append _ _).isInfix)
        fun g hg => hmet g (hg.append_left t₁)).imp_right And.left
  · exact denied_refused _

theorem write_denied (hlocal : isLocalHost h = false) (filename : String) (document : Document) :
    Denied s h (errorOf h (refusalOf filename)) (fun r => ∃ why, r = .error (.unitFile why))
      (s.write h filename document) := by
  have htext : ∀ text, Denied s h (errorOf h (refusalOf filename)) (fun _ => False)
      (s.writeText h filename text) := writeText_denied hlocal filename
  rw [Service.write]
  rw [refusalOf] at htext ⊢
  cases hkind : Kind.ofSafeFilename filename with
  | error e => exact denied_refused e
  | ok kind =>
    rw [hkind] at htext
    refine denied_generation hlocal (fun version => (render_silent document kind version).andThen
      fun text => (htext text).silent) fun version husable t r hrun hfound hmet => ?_
    obtain ⟨e, hrender, rfl⟩ | ⟨t₁, t₂, text, rfl, -, hrest⟩ := run_andThen_iff.1 hrun
    · -- the schemas are got, so it is the document that cannot be rendered
      obtain ⟨e', hfailed, -⟩ | ⟨t₁, t₂, generation, rfl, -, hdone⟩ := run_andThen_iff.1 hrender
      · obtain ⟨_, hok⟩ := husable t _ hfailed
        cases hok
      · have hresult := (run_done_iff.1 hdone).2
        cases hrendered : document.toText generation.types kind with
        | ok text =>
          rw [hrendered] at hresult
          cases hresult
        | error why =>
          rw [hrendered] at hresult
          exact .inr ⟨why, congrArg _ (Except.error.inj hresult)⟩
    · exact ((htext text).fails t₂ r hrest (hfound.of_infix (List.suffix_append _ _).isInfix)
        fun g hg => hmet g (hg.append_left t₁)).imp_right fun hother => hother.1.elim

/-- **Every operation on a host is denied** if no connector is found for the host. -/
theorem OnHost.denied {refusal : Option ServiceError} {others : Except ServiceError α → Prop}
    {x : Action ServiceState (Except ServiceError α)} (hlocal : isLocalHost h = false)
    (hx : OnHost s h refusal others x) : Denied s h (errorOf h refusal) others x := by
  cases hx with
  | call operation => exact call_denied hlocal operation
  | generation => exact hostGeneration_denied hlocal
  | list kind criteria => exact list_denied hlocal kind criteria
  | readText filename => exact readText_denied hlocal filename
  | writeText filename text => exact writeText_denied hlocal filename text
  | read filename =>
    have htext : Denied s h (errorOf h (refusalOf filename)) (fun _ => False)
      (s.readText h filename) := readText_denied hlocal filename
    rw [refusalOf] at htext ⊢
    rw [Service.read]
    cases hkind : Kind.ofSafeFilename filename with
    | error e => exact denied_refused e
    | ok kind =>
      rw [hkind] at htext
      exact htext.andThen fun text =>
        (hostGeneration_silent hlocal).andThen fun version =>
          (convert_silent text _ version).andThen fun _ => silent_done _
  | write filename document => exact write_denied hlocal filename document
  | delete filename =>
    rw [Service.delete, refusalOf]
    cases Kind.ofSafeFilename filename with
    | error e => exact denied_refused e
    | ok kind => exact (call_denied hlocal _).andThen fun _ => told_silent _ _ _
  | globalDocument =>
    exact (call_denied hlocal _).andThen fun text =>
      (hostGeneration_silent hlocal).andThen fun version => convert_silent text _ version
  | setGlobal text => exact (call_denied hlocal _).andThen fun _ => told_silent _ _ _

end Service

end NetUnits
