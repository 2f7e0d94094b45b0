import NetUnits.Proofs.Action.Passing
import NetUnits.Proofs.Connector.Jobs

/-! # Calls that return

A call runs its operation on a worker that bears the name of the host, and a worker cannot have a
name that holds a NUL character. An entry for a host may have such a name all the same, so whether
calls on a host return depends on its name.

* **`Action.Returns`** — no result of an action stops the caller.
* **`ConnectorPool.Returned`** — what a call comes to that returns;
  **`ConnectorPool.returned_or_crashed_of_run`** — a call returns, or no worker could have the name.
* **`ConnectorPool.Callable`** — calls on a host return, whatever else is done;
  **`ConnectorPool.callable_iff`** — so it is exactly for names without NUL
  (`ConnectorPool.callable_of_not_mem`, `ConnectorPool.exists_crashed`). -/

namespace NetUnits

open NetUnits.Action

/-! ## Actions that return -/

/-- **The surroundings reply with an error of theirs**, if they do not reply as they are asked. -/
def Request.IsProper : (r : Request) → r.Reply → Prop
  | .connect _, .error e | .exec _ _ _, .error e => ∀ host, e ≠ .crashed host
  | _, _ => True

/-- A deed that is no request with an improper reply. -/
def Deed.IsProper {σ : Type} : Deed σ → Prop
  | asked r reply => r.IsProper reply
  | _ => True

namespace Action

variable {σ τ α β : Type}

/-- **An action returns**: no result of it stops the caller. -/
def Returns (x : Action σ (Except ConnectorError α)) : Prop :=
  ∀ t r, Run x t r → (∀ d ∈ t, d.IsProper) → ∀ host, r ≠ .error (.crashed host)

theorem returns_ok (a : α) : (done (.ok a) : Action σ (Except ConnectorError α)).Returns := by
  intro t r hrun _ host
  rw [(run_done_iff.1 hrun).2]
  exact fun h => nomatch h

theorem returns_error {e : ConnectorError} (h : ∀ host, e ≠ .crashed host) :
    (done (.error e) : Action σ (Except ConnectorError α)).Returns := by
  intro t r hrun _ host
  rw [(run_done_iff.1 hrun).2]
  exact fun he => h host (Except.error.inj he)

/-- What follows decides. -/
theorem returns_bind {x : Action σ β} {f : β → Action σ (Except ConnectorError α)}
    (hf : ∀ b, (f b).Returns) : (x >>= f).Returns := by
  intro t r hrun hproper
  obtain ⟨t₁, t₂, b, rfl, -, hrest⟩ := run_bind_iff.1 hrun
  exact hf b t₂ r hrest fun d hd => hproper d (List.mem_append_right t₁ hd)

/-- What follows an error need not return if the error is one that stops the caller. -/
theorem Returns.bind {x : Action σ (Except ConnectorError β)}
    {f : Except ConnectorError β → Action σ (Except ConnectorError α)} (hx : x.Returns)
    (hok : ∀ b, (f (.ok b)).Returns)
    (herror : ∀ e, (∀ host, e ≠ .crashed host) → (f (.error e)).Returns) : (x >>= f).Returns := by
  intro t r hrun hproper
  obtain ⟨t₁, t₂, e | b, rfl, hfirst, hrest⟩ := run_bind_iff.1 hrun
  · have he : ∀ host, e ≠ .crashed host := fun host heq =>
      hx t₁ _ hfirst (fun d hd => hproper d (List.mem_append_left t₂ hd)) host (by rw [heq])
    exact herror e he t₂ r hrest fun d hd => hproper d (List.mem_append_right t₁ hd)
  · exact hok b t₂ r hrest fun d hd => hproper d (List.mem_append_right t₁ hd)

theorem Returns.andThen {x : Action σ (Except ConnectorError β)}
    {f : β → Action σ (Except ConnectorError α)} (hx : x.Returns) (hf : ∀ b, (f b).Returns) :
    (x.andThen f).Returns :=
  hx.bind hf fun _ he => returns_error he

theorem Returns.withLock {x : Action σ (Except ConnectorError α)} (hx : x.Returns) (lock : Lock) :
    (withLock lock x).Returns := by
  refine returns_bind fun _ => hx.bind (fun a => ?_) fun e he => ?_
  · exact returns_bind fun _ => returns_ok a
  · exact returns_bind fun _ => returns_error he

theorem Returns.inside {x : Action τ (Except ConnectorError α)} (hx : x.Returns) (part : Part σ τ) :
    (x.inside part).Returns := by
  intro t r hrun hproper
  obtain ⟨t', hrun', ht⟩ := exists_run_of_inside hrun
  refine hx t' r hrun' fun d hd => ?_
  cases d with
  | changed | forked => trivial
  | asked q reply =>
    have hmem : ⟨q, reply⟩ ∈ Deed.exchanges t := ht ▸ Deed.mem_exchanges_iff.2 hd
    exact hproper (.asked q reply) (Deed.mem_exchanges_iff.1 hmem)

end Action

/-! ## Sessions -/

section Sessions

variable {σ : Type}

theorem SshSession.call_returns (s : SshSession) (args : List String) (input : Option ByteArray) :
    (s.call args input : Action σ _).Returns := by
  cases input with
  | none | some =>
    refine returns_bind fun reply => ?_
    cases reply with
    | ok result => exact returns_ok result
    | error e => exact returns_error fun _ h => nomatch h

theorem SshClient.establish_returns (s : SshSession) :
    (SshClient.establish s : Action σ _).Returns := by
  refine returns_bind fun _ => (s.call_returns _ _).bind (fun result => ?_) fun e he => ?_
  · simp only
    split
    · exact returns_ok s
    · exact returns_bind fun _ => returns_error fun _ h => nomatch h
  · exact returns_bind fun _ => returns_error he

theorem SshClient.connect_returns (client : SshClient) (host : HostEntry) :
    (client.connect host).Returns := by
  unfold SshClient.connect
  cases host.validate with
  | error e => exact returns_error fun _ h => nomatch h
  | ok =>
    refine returns_bind fun found => ?_
    cases found with
    | false => exact returns_error fun _ h => nomatch h
    | true =>
      refine returns_bind fun made => ?_
      cases made with
      | error fault => exact returns_error fun _ h => nomatch h
      | ok => exact returns_bind fun _ => returns_bind fun _ => SshClient.establish_returns _

/-- **Opening a session returns**, by whatever transport. -/
theorem Transport.connect_returns (t : Transport) (host : HostEntry) :
    (t.connect host).Returns := by
  cases t with
  | ssh client =>
    exact (client.connect_returns host).bind (fun session => returns_ok _) fun _ => returns_error
  | external =>
    have hask : (request (.connect host) : Action Nat (Except ConnectorError Nat)).Returns := by
      intro t r hrun hproper name heq
      obtain rfl := run_request_iff.1 hrun
      have hreply : Request.IsProper (.connect host) r := hproper _ (List.mem_singleton_self _)
      rw [heq] at hreply
      exact hreply name rfl
    exact hask.bind (fun number => returns_ok _) fun _ => returns_error

theorem RemoteConnector.connect_returns (c : RemoteConnector) : c.connect.Returns := by
  have hensure : c.ensureConnected.Returns := by
    refine Returns.withLock (returns_bind fun w => ?_) _
    cases w.session with
    | some session => exact returns_ok session
    | none =>
      refine ((c.transport.connect_returns c.entry).inside Wire.counter).bind (fun session => ?_)
        fun _ => returns_error
      exact returns_bind fun _ => returns_ok session
  exact hensure.bind (fun _ => returns_ok ()) fun _ => returns_error

end Sessions

namespace ConnectorPool

variable {α : Type} {pool : ConnectorPool} {host : String} {secs : Nat} {c : Connector}
  {operation : Operation α} {t : List (Deed PoolState)} {r : Except ConnectorError α}

theorem lookup_returns (pool : ConnectorPool) (host : String) : (pool.lookup host).Returns := by
  intro t r hrun _ name heq
  rw [heq] at hrun
  exact nomatch eq_unknownHost_of_run_lookup hrun

/-- **Getting a connector returns.** -/
theorem get_returns (pool : ConnectorPool) (host : String) : (pool.get host).Returns := by
  rw [get]
  split
  · exact returns_ok _
  refine Returns.andThen ((pool.lookup_returns host).andThen fun c => ?_) fun c => returns_ok _
  refine (c.connect_returns.inside _).bind (fun _ => returns_ok c) fun e he => ?_
  exact returns_bind fun _ => returns_bind fun _ => returns_error he

/-! ## What a call comes to -/

/-- **What a call comes to that returns.** -/
inductive Returned (pool : ConnectorPool) (secs : Nat) (host : String) (operation : Operation α)
    (t : List (Deed PoolState)) : Except ConnectorError α → Prop
  /-- The operation was carried out in time, and its result is that of the call. -/
  | carriedOut {c : Connector} {t₁ t₂ : List (Deed PoolState)} {r : Except ConnectorError α}
    (get : Run (pool.get host) t₁ (.ok c)) (run : Run (operation.on c) t₂ r)
    (start : t₁ ++ begun secs c .inTime ++ t₂ <+: t) : Returned pool secs host operation t r
  /-- There is no connector for the host, or it could not be connected. -/
  | unreached {e : ConnectorError} (get : Run (pool.get host) t (.error e)) :
    Returned pool secs host operation t (.error e)
  /-- No worker could be started. -/
  | unstarted {c : Connector} {t₁ : List (Deed PoolState)} {fault : Fault}
    (get : Run (pool.get host) t₁ (.ok c))
    (start : t₁ ++ [.asked (.startWorker (workerName c)) (.error fault)] <+: t) :
    Returned pool secs host operation t (.error (.io "worker thread" fault))
  /-- The operation took too long. -/
  | late {c : Connector} {t₁ : List (Deed PoolState)} (get : Run (pool.get host) t₁ (.ok c))
    (start : t₁ ++ begun secs c .late <+: t) :
    Returned pool secs host operation t (.error (.timeout host secs))
  /-- The worker has ended without a result. -/
  | gone {c : Connector} {t₁ : List (Deed PoolState)} (get : Run (pool.get host) t₁ (.ok c))
    (start : t₁ ++ begun secs c .gone <+: t) :
    Returned pool secs host operation t (.error (.connection host "operation aborted"))

/-- **A call returns, or no worker could bear the name of the host.** -/
theorem returned_or_crashed_of_run
    (hrun : Run (pool.callWithin secs host operation.on) t r) :
    Returned pool secs host operation t r ∨
      ∃ c t₁ t₂, t = t₁ ++ t₂ ∧ Run (pool.get host) t₁ (.ok c) ∧ '\x00' ∈ c.host.toList ∧
        r = .error (.crashed c.host) := by
  have hdropped {c : Connector} {e : ConnectorError} {t : List (Deed PoolState)}
      (h : Run (drop c >>= fun _ => done (.error e)) t r) : r = .error e := by
    obtain ⟨_, _, _, -, -, hdone⟩ := run_bind_iff.1 h
    exact (run_done_iff.1 hdone).2
  have habandoned {c : Connector} {e : ConnectorError} {t : List (Deed PoolState)}
      (h : Run (abandon host c e) t r) : r = .error e := by
    obtain ⟨_, _, _, -, -, hrest⟩ := run_bind_iff.1 h
    exact hdropped hrest
  obtain ⟨e, hget, rfl⟩ | ⟨t₁, t₂, c, rfl, hget, hrest⟩ := run_andThen_iff.1 hrun
  · exact .inl (.unreached hget)
  rw [runOn] at hrest
  split at hrest
  · rename_i hnul
    have hmem : '\x00' ∈ c.host.toList := by
      simpa [workerName] using hnul
    exact .inr ⟨c, t₁, t₂, rfl, hget, hmem, hdropped hrest⟩
  obtain ⟨t₃, t₄, started, rfl, hstart, hstarted⟩ := run_bind_iff.1 hrest
  obtain rfl := run_request_iff.1 hstart
  cases started with
  | error fault =>
    rw [hdropped hstarted]
    exact .inl (.unstarted hget (by simp))
  | ok _ =>
    obtain ⟨t₅, t₆, fate, rfl, hawait, hfate⟩ := run_bind_iff.1 hstarted
    obtain rfl := run_request_iff.1 hawait
    cases fate with
    | inTime =>
      obtain ⟨t₇, t₈, result, rfl, hoperation, hsettle⟩ := run_bind_iff.1 hfate
      obtain rfl := eq_of_run_settle hsettle
      exact .inl (.carriedOut hget hoperation (by simp [begun]))
    | late =>
      obtain ⟨t₇, t₈, _, rfl, -, hforked⟩ := run_bind_iff.1 hfate
      obtain ⟨t₉, rfl, hleft⟩ := run_fork_iff.1 hforked
      obtain ⟨_, _, _, rfl, -, hgivenUp⟩ := run_bind_iff.1 hleft
      rw [habandoned hgivenUp]
      exact .inl (.late hget (by simp [begun]))
    | gone =>
      rw [habandoned hfate]
      exact .inl (.gone hget (by simp [begun]))

/-- **A call that returns does not stop the caller**, if its operation does not. -/
theorem Returned.ne_crashed (h : Returned pool secs host operation t r)
    (hoperation : ∀ c, (operation.on c).Returns) (hproper : ∀ d ∈ t, d.IsProper) (name : String) :
    r ≠ .error (.crashed name) := by
  cases h with
  | carriedOut hget hrun hstart =>
    refine hoperation _ _ r hrun (fun d hd => hproper d (hstart.subset ?_)) name
    exact List.mem_append_right _ hd
  | unreached hget =>
    intro hr
    exact pool.get_returns host t _ hget hproper name (by rw [Except.error.inj hr])
  | unstarted | late | gone => exact fun hr => nomatch Except.error.inj hr

/-! ## Hosts that can be called -/

/-- **Calls on a host return**, whatever else is done with the pool and its registry meanwhile. -/
structure Callable (name : String) : Prop where
  /-- A call that has come to an end has returned, and did not stop its caller. -/
  returned : ∀ {pool : ConnectorPool} {path : String} {entries : List HostEntry} {jobs : List Job}
    {answers : Answers} {sys : System PoolState} {i secs : Nat} {α : Type}
    {operation : Operation α} {r : Except ConnectorError α},
    System.Reaches answers (pool.started path entries jobs) sys →
    (∀ i r reply, answers i r reply → r.IsProper reply) →
    jobs[i]? = some (.client (.call secs name operation)) →
    (∀ c, (operation.on c).Returns) →
    Run (pool.callWithin secs name operation.on) (sys.scene.pastOf i) r →
    Returned pool secs name operation (sys.scene.pastOf i) r ∧ ∀ host, r ≠ .error (.crashed host)
  /-- A call comes to an end: when no thread can go on any more, it has a result. -/
  ended : ∀ {pool : ConnectorPool} {path : String} {entries : List HostEntry} {jobs : List Job}
    {answers : Answers} {sys : System PoolState} {i secs : Nat} {α : Type}
    {operation : Operation α},
    System.Reaches answers (pool.started path entries jobs) sys →
    (∀ i r, ∃ reply, answers i r reply) → (∀ job ∈ jobs, job.IsOrderly) →
    jobs[i]? = some (.client (.call secs name operation)) →
    (∀ i sys', ¬ System.Step answers i sys sys') →
    ∃ r, Run (pool.callWithin secs name operation.on) (sys.scene.pastOf i) r

/-- What was asked for in a system was answered by the surroundings. -/
theorem isProper_of_reaches {σ : Type} {answers : Answers} {s : σ}
    {threads : List (Action σ Unit)} {sys : System σ} {i : Nat}
    (h : System.Reaches answers (.start s threads) sys)
    (hproper : ∀ i r reply, answers i r reply → r.IsProper reply) :
    ∀ d ∈ sys.scene.pastOf i, d.IsProper := by
  intro d hd
  have hpast : sys.scene.pastOf i = (System.start s threads).scene.pastOf i ++
      sys.scene.pastOf i := rfl
  obtain ⟨sys₁, sys₂, -, -, -, hmay, -⟩ := h.exists_step hpast hd
  cases d with
  | asked r reply => exact hproper i r reply hmay.2
  | changed | forked => trivial

/-- **A connector that is got for a host** bears its name, if hosts stand under their names. -/
theorem host_of_run_get (hlocal : isLocalHost host = false)
    (hrun : Run (pool.get host) t (.ok c)) (hmet : ∀ d ∈ t, d.Meets PoolState.Named) :
    c.host = host := by
  obtain ⟨k, t₁, t₂, rfl, rfl, hlookup, -⟩ := exists_run_of_run_get_ok hlocal hrun
  obtain ⟨s, s', hmem, hkept⟩ := exists_kept_of_run_lookup hlookup
  have hs' : s'.Named := (hmet _ (List.mem_append_left t₂ hmem)).2
  exact hs'.kept host k hkept

/-- The worker of a call bears the name of the host, or of this machine. -/
theorem host_of_reaches {path : String} {entries : List HostEntry} {jobs : List Job}
    {answers : Answers} {sys : System PoolState} {i : Nat}
    (hreach : System.Reaches answers (pool.started path entries jobs) sys)
    (hget : Run (pool.get host) t (.ok c)) (hpast : t ⊆ sys.scene.pastOf i) :
    c.host = if isLocalHost host then localName else host := by
  cases hlocal : isLocalHost host with
  | true =>
    rw [get_of_isLocalHost pool hlocal] at hget
    obtain rfl : c = .here pool.here := Except.ok.inj (run_done_iff.1 hget).2
    rfl
  | false =>
    exact host_of_run_get hlocal hget fun d hd => named_of_reaches hreach i d (hpast hd)

/-- **A call comes to an end**: when no thread can go on any more, it has a result. -/
theorem exists_result_of_stuck {path name : String} {entries : List HostEntry} {jobs : List Job}
    {answers : Answers} {sys : System PoolState} {i secs : Nat} {α : Type}
    {operation : Operation α}
    (hreach : System.Reaches answers (pool.started path entries jobs) sys)
    (hreply : ∀ i r, ∃ reply, answers i r reply) (horderly : ∀ job ∈ jobs, job.IsOrderly)
    (hjob : jobs[i]? = some (.client (.call secs name operation)))
    (hstuck : ∀ i sys', ¬ System.Step answers i sys sys') :
    ∃ r, Run (pool.callWithin secs name operation.on) (sys.scene.pastOf i) r := by
  have hthread : (jobs.map (Job.action pool))[i]? =
      some (pool.callWithin secs name operation.on >>= fun _ => done ()) := by
    rw [List.getElem?_map, hjob]
    rfl
  have horderly' : ∀ x ∈ jobs.map (Job.action pool), x.Orderly [] [] := by
    intro x hx
    obtain ⟨job, hmem, rfl⟩ := List.mem_map.1 hx
    exact job.orderly pool (horderly job hmem)
  obtain ⟨_, y, hy, -, -⟩ := System.Reaches.exists_after hreach hthread
  obtain rfl := System.eq_done_of_forall_not_step hreach horderly' hreply hstuck hy
  obtain ⟨t₁, t₂, r, hpast, hcall, hdone⟩ := run_bind_iff.1 (hreach.run hthread hy)
  obtain ⟨rfl, -⟩ := run_done_iff.1 hdone
  exact ⟨r, by rwa [hpast, List.append_nil]⟩

/-- **Calls on a host without NUL in its name return.** -/
theorem callable_of_not_mem {name : String} (h : '\x00' ∉ name.toList) : Callable name where
  returned := by
    intro pool path entries jobs answers sys i secs α operation r hreach hproper _ hoperation hrun
    have hdeeds : ∀ d ∈ sys.scene.pastOf i, d.IsProper := isProper_of_reaches hreach hproper
    obtain hreturned | ⟨c, t₁, t₂, hpast, hget, hnul, -⟩ := returned_or_crashed_of_run hrun
    · exact ⟨hreturned, hreturned.ne_crashed hoperation hdeeds⟩
    · -- neither the host nor this machine has a name that no worker could bear
      have hpast' : t₁ ⊆ sys.scene.pastOf i := hpast ▸ List.subset_append_left t₁ t₂
      rw [host_of_reaches hreach hget hpast'] at hnul
      split at hnul
      · exact absurd hnul (by simp [localName])
      · exact absurd hnul h
  ended := exists_result_of_stuck

/-! ## Hosts that cannot -/

section Alone

variable {path : String} {e : HostEntry}

theorem get?_hostsOf_singleton (h : e.validate = .ok ()) :
    (Registry.hostsOf [e]).get? e.name = some e := by
  have husable : Registry.isUsable e = true := Registry.isUsable_iff.2 h
  rw [Registry.hostsOf, List.filter_cons_of_pos husable]
  simp [Dict.get?_ofList, Dict.find?]

/-- **A lookup alone** makes a connector for the entry. -/
theorem alone_lookup {hosts : Dict HostEntry} (hget : hosts.get? e.name = some e) :
    ((pool.lookup e.name).alone Request.usual { registry := { path, hosts } }).2.1 =
      .ok (pool.connectorFor e 0) := by
  have hkept : ({ registry := { path, hosts } } : PoolState).take e.name =
      (none, { registry := { path, hosts } }) := rfl
  rw [lookup, withLock, alone_bind_snd]
  simp only [withLock, request, change, Registry.get, look, event, alone, inside,
    PoolState.registryPart, pure_eq, done_bind, ask_bind, atomic_bind, hkept, hget]
  rfl

/-- **Connecting alone** succeeds where sessions are opened by the surroundings. -/
theorem alone_connect {k : RemoteConnector} (h : k.transport = .external) (s : PoolState) :
    ((k.connect.inside (PoolState.wire k.number)).alone Request.usual s).2.1 = .ok () := by
  rw [RemoteConnector.connect, RemoteConnector.ensureConnected, h]
  simp only [alone_bind_snd, inside_bind, withLock, request, look, alone, inside, pure_eq,
    done_bind, ask_bind, atomic_bind]
  cases ((PoolState.wire k.number).get s).session with
  | some session => simp only [inside, alone]
  | none =>
    simp only [Transport.connect, RemoteConnector.keep, change, request, alone_bind_snd,
      inside_bind, ask_bind, done_bind, inside, alone, Request.usual, pure_eq]

theorem alone_get (h : e.validate = .ok ()) (htransport : pool.transport = .external) :
    ((pool.get e.name).alone Request.usual
      { registry := { path := path, hosts := Registry.hostsOf [e] } }).2.1 =
        .ok (.remote (pool.connectorFor e 0)) := by
  rw [get_of_not_isLocalHost pool (HostEntry.isLocalHost_of_validate h)]
  have hremote : ((pool.remote e.name).alone Request.usual
      { registry := { path := path, hosts := Registry.hostsOf [e] } }).2.1 =
        .ok (pool.connectorFor e 0) := by
    rw [remote, alone_andThen_snd (alone_lookup (get?_hostsOf_singleton h)), alone_bind_snd,
      alone_connect htransport]
    rfl
  rw [alone_andThen_snd hremote]
  rfl

/-- A call alone on a host whose name holds a NUL stops the caller. -/
theorem alone_call (h : e.validate = .ok ()) (hnul : '\x00' ∈ e.name.toList)
    (htransport : pool.transport = .external) :
    ((pool.callWithin secs e.name operation.on).alone Request.usual
      { registry := { path := path, hosts := Registry.hostsOf [e] } }).2.1 =
        .error (.crashed e.name) := by
  have hname : (workerName (.remote (pool.connectorFor e 0))).toList.contains '\x00' = true := by
    have hhost : (Connector.remote (pool.connectorFor e 0)).host = e.name := rfl
    simpa [workerName, hhost] using hnul
  rw [callWithin, alone_andThen_snd (alone_get h htransport), runOn, if_pos hname, alone_bind_snd]
  rfl

/-- **A call on a host whose name holds a NUL** may stop the caller, though the entry can be
used. -/
theorem exists_crashed (h : e.validate = .ok ()) (hnul : '\x00' ∈ e.name.toList)
    (htransport : pool.transport = .external) (horderly : ∀ c, Orderly [] (operation.on c) []) :
    ∃ sys, System.Reaches (fun _ r reply => reply = r.usual)
        (pool.started path [e] [.client (.call secs e.name operation)]) sys ∧
      Run (pool.callWithin secs e.name operation.on) (sys.scene.pastOf 0)
        (.error (.crashed e.name)) := by
  have hcall : Orderly [] (pool.callWithin secs e.name operation.on) [] :=
    (pool.get_orderly e.name).andThen fun c => runOn_orderly e.name secs (horderly c)
  obtain ⟨sys, hreach, hpast⟩ : ∃ sys, System.Reaches (fun _ r reply => reply = r.usual)
      (pool.started path [e] [.client (.call secs e.name operation)]) sys ∧
        sys.scene.pastOf 0 = _ :=
    System.exists_reaches_alone_of_free Request.usual (fun _ => rfl) rfl hcall fun _ => rfl
  refine ⟨sys, hreach, ?_⟩
  rw [hpast, ← alone_call h hnul htransport]
  exact run_alone _ _ _

theorem not_callable_of_mem (h : e.validate = .ok ()) (hnul : '\x00' ∈ e.name.toList) :
    ¬ Callable e.name := by
  intro hcallable
  let pool : ConnectorPool := { (default : ConnectorPool) with transport := .external }
  let nothing : Operation Unit := ⟨fun _ => done (.ok ()), fun _ => trivial⟩
  obtain ⟨sys, hreach, hrun⟩ : ∃ sys, System.Reaches (fun _ r reply => reply = r.usual)
      (pool.started "" [e] [.client (.call 1 e.name nothing)]) sys ∧
        Run (pool.callWithin 1 e.name nothing.on) (sys.scene.pastOf 0) (.error (.crashed e.name)) :=
    exists_crashed h hnul rfl fun _ => rfl
  have hproper : ∀ (i : Nat) (r : Request) (reply : r.Reply), reply = r.usual →
      r.IsProper reply := by
    rintro i r _ rfl
    cases r <;> trivial
  exact (hcallable.returned hreach hproper rfl (fun _ => returns_ok ()) hrun).2 _ rfl

end Alone

/-- **Calls on a host that can be used return** exactly if its name holds no NUL. -/
theorem callable_iff {e : HostEntry} (h : e.validate = .ok ()) :
    Callable e.name ↔ '\x00' ∉ e.name.toList :=
  ⟨fun hcallable hnul => not_callable_of_mem h hnul hcallable, callable_of_not_mem⟩

/-- Calls on a router return. -/
theorem callable_router :
    (HostEntry.mk "router" "192.0.2.1" "" 22 none).validate = .ok () ∧ Callable "router" :=
  ⟨by decide, (callable_iff (e := ⟨"router", "192.0.2.1", "", 22, none⟩) (by decide)).2 (by decide)⟩

/-- An entry that can be used for a host that cannot be called. -/
theorem not_callable_split : (HostEntry.mk "a\x00b" "192.0.2.1" "" 22 none).validate = .ok () ∧
    ¬ Callable "a\x00b" :=
  ⟨by decide, not_callable_of_mem (e := ⟨"a\x00b", "192.0.2.1", "", 22, none⟩) (by decide)
    (by decide)⟩

end ConnectorPool

end NetUnits
