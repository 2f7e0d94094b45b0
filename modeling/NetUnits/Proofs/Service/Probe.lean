import NetUnits.Proofs.Action.Part
import NetUnits.Proofs.Connector.GivingUp
import NetUnits.Proofs.Service.Remembered

/-! # Finding the generation of a remote host out

A remote host is asked for its version on a session. The connector for the host is looked up and
connected first, and each error of that is one of the operation. The version command itself does not
say why it failed: a service takes a lost connection for an answer without a version.

* **`Service.Asked`** — the version command was run for a host, with some outcome;
  **`Service.exists_asked`** — so it was where a call of it does not fail.
* **`Service.Probes`** — what becomes of the generation for a remote host; **`Service.probes`** — it
  becomes so where the version command itself does not fail.
* **`Service.remembers_unheard`** — where it does, a generation is remembered for a host that has
  not answered. -/

namespace NetUnits

open NetUnits.Action

/-- An action comes to its end once. -/
theorem Action.Run.eq_of_append {σ α : Type} {x : Action σ α} {t t' u u' : List (Deed σ)} {a b : α}
    (h : Run x t a) (h' : Run x t' b) (heq : t ++ u = t' ++ u') : t = t' ∧ u = u' ∧ a = b := by
  have hend : ∀ {t v : List (Deed σ)} {a b : α}, Run x t a → Run x (t ++ v) b → v = [] ∧ b = a :=
    fun ha hb => run_done_iff.1 (ha.of_append hb)
  obtain ⟨v, rfl, hv⟩ | ⟨v, rfl, hv⟩ := List.append_eq_append_iff.1 heq
  · obtain ⟨rfl, rfl⟩ := hend h h'
    exact ⟨(List.append_nil _).symm, hv, rfl⟩
  · obtain ⟨rfl, rfl⟩ := hend h' h
    exact ⟨List.append_nil _, hv.symm, rfl⟩

namespace Service

open NetUnits.ConnectorPool NetUnits.Deed

variable {s : Service} {host : String} {t u : List (Deed ServiceState)} {c : RemoteConnector}
  {σ : ServiceState} {result : Except ServiceError Nat}

theorem isLawful_poolPart : ServiceState.poolPart.IsLawful :=
  ⟨fun _ _ => rfl⟩

/-! ## Asking for the version -/

/-- **The version command on the session of a connector.** -/
def versionOn (c : RemoteConnector) :
    Action PoolState (Except ConnectorError CommandResult) :=
  (c.exec (commandLine Connector.versionCommand) none).inside (PoolState.wire c.number)

/-- What a host says for the version command: nothing if the command ends with a failure. -/
def said (reply : CommandResult) : String :=
  if reply.success then reply.stdout else ""

/-- What is taken for the answer of a host; a command that could not be run is taken for a silent
one. -/
def taken : Except ConnectorError CommandResult → String
  | .ok reply => said reply
  | .error _ => ""

/-- **The version command was run for a host**, after a generation was not remembered: a connector
was looked up and connected, and the command was run on its session, with an outcome. -/
def Asked (s : Service) (host : String) (c : RemoteConnector)
    (outcome : Except ConnectorError CommandResult) (t : List (Deed ServiceState)) : Prop :=
  ∃ σ t₁ t₂ t₃ t₄, t = .changed σ σ :: (t₁ ++ (t₂ ++ (t₃ ++ t₄))) ∧
    Run ((s.pool.get host).inside ServiceState.poolPart) t₁ (.ok (.remote c)) ∧
      t₂.map (Deed.on ServiceState.poolPart) =
        begun s.pool.settings.commandTimeout (.remote c) .inTime ∧
          Run ((versionOn c).inside ServiceState.poolPart) t₃ outcome

/-- The outcome of the version command is one. -/
theorem Asked.eq {c' : RemoteConnector} {outcome outcome' : Except ConnectorError CommandResult}
    (h : Asked s host c outcome t) (h' : Asked s host c' outcome' t) : outcome = outcome' := by
  obtain ⟨σ, t₁, t₂, t₃, t₄, heq, hget, hbegun, hversion⟩ := h
  obtain ⟨σ', t₁', t₂', t₃', t₄', heq', hget', hbegun', hversion'⟩ := h'
  obtain ⟨-, hsplit⟩ := List.cons.inj (heq.symm.trans heq')
  obtain ⟨-, hrest, hc⟩ := hget.eq_of_append hget' hsplit
  obtain rfl := Connector.remote.inj (Except.ok.inj hc)
  have hlength : t₂.length = t₂'.length := by
    simpa using congrArg List.length (hbegun.trans hbegun'.symm)
  obtain ⟨-, hversions⟩ := List.append_inj hrest hlength
  exact (hversion.eq_of_append hversion' hversions).2.2

theorem exists_versionOn {t : List (Deed PoolState)} {output : String}
    (hrun : Run (Operation.version.on (.remote c)) t (.ok output)) :
    ∃ t₁ t₂ outcome, t = t₁ ++ t₂ ∧ Run (versionOn c) t₁ outcome ∧ output = taken outcome := by
  have hversion : Operation.version.on (.remote c) =
      versionOn c >>= fun outcome => ((match outcome with
        | .ok result => if result.success then (return result.stdout)
          else c.versionFailed (Text.trim result.combined)
        | .error e => c.versionFailed e.message : Action Wire String).inside
          (PoolState.wire c.number)) >>= fun output => done (.ok output) := by
    simp only [Operation.version, Connector.version, Connector.either, RemoteConnector.version,
      versionOn, inside_bind, bind_assoc']
    rfl
  rw [hversion] at hrun
  obtain ⟨t₁, t₂, outcome, rfl, hexec, hrest⟩ := run_bind_iff.1 hrun
  obtain ⟨t₂, t₃, text, rfl, htext, hdone⟩ := run_bind_iff.1 hrest
  obtain ⟨rfl, hok⟩ := run_done_iff.1 hdone
  obtain rfl := Except.ok.inj hok
  refine ⟨t₁, _, outcome, rfl, hexec, ?_⟩
  -- a failure is told to the log only
  have hfailed : ∀ why, Run ((c.versionFailed why).inside (PoolState.wire c.number)) t₂ output →
      output = "" := fun why h => by
    rw [RemoteConnector.versionFailed, inside_bind] at h
    obtain ⟨_, _, _, -, -, hlast⟩ := run_bind_iff.1 h
    exact (run_done_iff.1 hlast).2
  cases outcome with
  | error e => exact hfailed _ htext
  | ok reply =>
    simp only at htext
    rw [taken, said]
    split at htext
    · rename_i hsuccess
      rw [if_pos hsuccess]
      exact (run_done_iff.1 htext).2
    · rename_i hsuccess
      rw [if_neg hsuccess]
      exact hfailed _ htext

/-- **A call that does not fail** has got the connector for the host and carried the operation out
on it, in time. -/
theorem exists_of_run_call_ok {α : Type}
    {operation : Connector → Action PoolState (Except ConnectorError α)} {a : α}
    (hrun : Run (s.call host operation) t (.ok a)) :
    ∃ c t₁ t₂ t₃ t₄, t = t₁ ++ (t₂ ++ (t₃ ++ t₄)) ∧
      Run ((s.pool.get host).inside ServiceState.poolPart) t₁ (.ok c) ∧
        t₂.map (Deed.on ServiceState.poolPart) =
          begun s.pool.settings.commandTimeout c .inTime ∧
            Run ((operation c).inside ServiceState.poolPart) t₃ (.ok a) := by
  obtain ⟨t₁, t₂, r, rfl, hcall, hresult⟩ := run_bind_iff.1 hrun
  cases r with
  | error e => cases (run_done_iff.1 hresult).2
  | ok a' =>
    obtain ⟨rfl, heq⟩ := run_done_iff.1 hresult
    obtain rfl := Except.ok.inj heq
    rw [ConnectorPool.call, callWithin, inside_andThen] at hcall
    obtain ⟨e, -, he⟩ | ⟨t₁, t₂, c, rfl, hget, hon⟩ := run_andThen_iff.1 hcall
    · cases he
    obtain ⟨hon, hstays⟩ := (run_inside_iff isLawful_poolPart).1 hon
    obtain ⟨v₁, v₂, hsplit, hoperation⟩ := exists_of_run_runOn_ok hon
    -- the stretches of the pool's history are ones of the service's
    obtain ⟨t₂, t₃, rfl, hbegun, hcarried⟩ := List.map_eq_append_iff.1 hsplit
    obtain ⟨t₃, t₄, rfl, rfl, rfl⟩ := List.map_eq_append_iff.1 hcarried
    refine ⟨c, t₁, t₂, t₃, t₄, by simp, hget, hbegun,
      (run_inside_iff isLawful_poolPart).2 ⟨hoperation, fun d hd => hstays d ?_⟩⟩
    simp [hd]

/-- **A call of the version command on a remote host** that does not fail has run it. -/
theorem exists_asked {output : String} (hlocal : isLocalHost host = false)
    (hrun : Run (s.call host Operation.version.on) t (.ok output)) :
    ∃ c outcome, Asked s host c outcome (.changed σ σ :: (t ++ u)) ∧ output = taken outcome := by
  obtain ⟨c', t₁, t₂, t₃, t₄, rfl, hget, hbegun, hcarried⟩ := exists_of_run_call_ok hrun
  obtain ⟨c, -, -, rfl, -⟩ :=
    exists_run_of_run_get_ok hlocal ((run_inside_iff isLawful_poolPart).1 hget).1
  obtain ⟨hcarried, hstays⟩ := (run_inside_iff isLawful_poolPart).1 hcarried
  obtain ⟨v₁, v₂, outcome, hsplit, hversion, rfl⟩ := exists_versionOn hcarried
  obtain ⟨t₃, t₅, rfl, rfl, rfl⟩ := List.map_eq_append_iff.1 hsplit
  refine ⟨c, outcome, ⟨σ, t₁, t₂, t₃, t₅ ++ t₄ ++ u, by simp, hget, hbegun,
    (run_inside_iff isLawful_poolPart).2 ⟨hversion, fun d hd => hstays d ?_⟩⟩, rfl⟩
  simp [hd]

/-! ## What becomes of the generation -/

/-- **What becomes of the generation for a remote host** in an operation that finds it out, if it is
not remembered. -/
structure Probes (s : Service) (host : String) (t : List (Deed ServiceState))
    (result : Except ServiceError Nat) : Prop where
  /-- An error of the call, that of a lost connection among them, is the result, and nothing is
  remembered. -/
  failed : ∀ σ t₁ t₂ e, σ.generations.get? (hostKey host) = none →
    t = .changed σ σ :: (t₁ ++ t₂) → Run (s.call host Operation.version.on) t₁ (.error e) →
      result = .error e
  /-- Nothing is remembered after an error. -/
  leaves : ∀ e, result = .error e → ∀ d ∈ t, d.Leaves ServiceState.generations
  /-- A generation is remembered only after the host has answered the version command, with success
  or not, and it is the one that fits the answer. -/
  remembered : ∀ σ σ', .changed σ σ' ∈ t → σ'.generations ≠ σ.generations →
    ∃ c reply, Asked s host c (.ok reply) t ∧ σ' = remembering σ host (s.fitting (said reply)) ∧
      result = .ok (s.fitting (said reply))
  /-- After an error the next operation finds out what the host answers then, if nothing was
  remembered meanwhile. -/
  next : ∀ e, result = .error e → ∀ u t' g G G', (∀ d ∈ u, d.Leaves ServiceState.generations) →
    Passes ServiceState.generations G (t ++ (u ++ t')) G' →
      Run (s.hostGeneration host) t' (.ok g) → (∀ c e', ¬ Asked s host c (.error e') t') →
        ∃ c reply, Asked s host c (.ok reply) t' ∧ g = s.fitting (said reply)

/-- An operation that finds a generation out for its own sake. -/
theorem reused_or_probed_of_run (hrun : Run (s.hostGeneration host) t result) :
    (∃ g, Reused host g (fun g => done (.ok g)) t result) ∨
      Probed s host (fun g => done (.ok g)) t result :=
  reused_or_probed (by rwa [andThen_ok])

/-- An operation that finds a generation out where none is remembered. -/
theorem probed_of_run_self {G G' : Dict Nat} (hrun : Run (s.hostGeneration host) t result)
    (ht : Passes ServiceState.generations G t G') (hunknown : G.get? (hostKey host) = none) :
    Probed s host (fun g => done (.ok g)) t result :=
  probed_of_run (by rwa [andThen_ok]) ht hunknown

/-- **An error of the call is one of the operation.** -/
theorem eq_error_of_run {t₁ t₂ : List (Deed ServiceState)} {e : ServiceError}
    (hunknown : σ.generations.get? (hostKey host) = none)
    (hrun : Run (s.hostGeneration host) (.changed σ σ :: (t₁ ++ t₂)) result)
    (hcall : Run (s.call host Operation.version.on) t₁ (.error e)) : result = .error e := by
  rw [hostGeneration] at hrun
  obtain ⟨σ', t', heq, hrest⟩ := run_look_bind_iff.1 hrun
  obtain ⟨hd, rfl⟩ := List.cons.inj heq
  obtain ⟨rfl, -⟩ := Deed.changed.inj hd
  rw [hunknown] at hrest
  obtain ⟨e', hcall', rfl⟩ | ⟨t₃, t₄, output, heq, hcall', -⟩ := run_andThen_iff.1 hrest
  · have hsame := hcall.eq_of_append hcall' (List.append_nil (t₁ ++ t₂)).symm
    rw [Except.error.inj hsame.2.2]
  · cases (hcall.eq_of_append hcall' heq).2.2

/-- After an error the remembered generations are as they were. -/
theorem leaves_of_run_error {e : ServiceError}
    (hrun : Run (s.hostGeneration host) t (.error e)) :
    ∀ d ∈ t, d.Leaves ServiceState.generations := by
  obtain ⟨g, σ, t', rfl, -, hdone⟩ | hprobed := reused_or_probed_of_run hrun
  · cases (run_done_iff.1 hdone).2
  · cases hprobed with
    | failed _ hcall heq _ =>
      subst heq
      exact List.forall_mem_cons.2
        ⟨rfl, leaves_of_after (call_obeys host Operation.version.on) (fun _ _ h => h) hcall⟩
    | answered _ _ _ hdone _ => cases (run_done_iff.1 hdone).2

/-- An operation fails only where no generation is remembered. -/
theorem get?_of_run_error {e : ServiceError} {G G' : Dict Nat}
    (hrun : Run (s.hostGeneration host) t (.error e))
    (ht : Passes ServiceState.generations G t G') : G.get? (hostKey host) = none := by
  obtain ⟨g, σ, t', rfl, -, hdone⟩ | hprobed := reused_or_probed_of_run hrun
  · cases (run_done_iff.1 hdone).2
  · cases hprobed with
    | failed hunknown _ heq _ =>
      subst heq
      exact ht.1 ▸ hunknown
    | answered _ _ _ hdone _ => cases (run_done_iff.1 hdone).2

/-- **A generation that has been found out for a remote host** fits what the version command came
to, and nothing else is remembered. -/
theorem Probed.exists_asked {g : Nat} (hlocal : isLocalHost host = false)
    (h : Probed s host (fun g => done (.ok g)) t (.ok g)) :
    ∃ c outcome, Asked s host c outcome t ∧ g = s.fitting (taken outcome) ∧
      ∀ d ∈ t, d.Leaves ServiceState.generations ∨
        ∃ σ, d = .changed σ (remembering σ host g) := by
  cases h with
  | failed _ _ _ hfailure => cases hfailure
  | @answered σ σ' t₁ t₂ t₃ output _ hcall htold hdone heq =>
    obtain ⟨rfl, hg⟩ := run_done_iff.1 hdone
    obtain rfl := Except.ok.inj hg
    have hsplit : t = .changed σ σ :: (t₁ ++ (t₂ ++
        [.changed σ' (remembering σ' host (s.fitting output))])) := by simp [heq]
    subst hsplit
    have hexists : ∃ c outcome, Asked s host c outcome (.changed σ σ :: (t₁ ++ (t₂ ++
        [.changed σ' (remembering σ' host (s.fitting output))]))) ∧ output = taken outcome :=
      Service.exists_asked hlocal hcall
    obtain ⟨c, outcome, hasked, rfl⟩ := hexists
    refine ⟨c, outcome, hasked, rfl, fun d hd => ?_⟩
    -- only the last deed changes what is remembered
    have hcall' : ∀ d ∈ t₁, d.Leaves ServiceState.generations :=
      leaves_of_after (call_obeys host Operation.version.on) (fun _ _ h => h) hcall
    have htold' : ∀ d ∈ t₂, d.Leaves ServiceState.generations :=
      leaves_of_after (generationOf_obeys (p := fun _ => True) (fun _ => trivial) (hostKey host)
        (taken outcome)) (fun _ _ h => (h : False).elim) htold
    simp only [List.mem_cons, List.mem_append, List.not_mem_nil, or_false] at hd
    obtain rfl | hd | hd | rfl := hd
    · exact .inl rfl
    · exact .inl (hcall' d hd)
    · exact .inl (htold' d hd)
    · exact .inr ⟨σ', rfl⟩

/-- **A host has been heard** if what was found out fits more than a silent host. -/
theorem not_asked_error {g : Nat} {G G' : Dict Nat} (hlocal : isLocalHost host = false)
    (hrun : Run (s.hostGeneration host) t (.ok g)) (ht : Passes ServiceState.generations G t G')
    (hunknown : G.get? (hostKey host) = none) (hne : g ≠ s.fitting "") (e : ConnectorError) :
    ¬ Asked s host c (.error e) t := by
  intro hfailed
  obtain ⟨c', outcome, hasked, rfl, -⟩ :=
    (probed_of_run_self hrun ht hunknown).exists_asked hlocal
  obtain rfl := hasked.eq hfailed
  exact hne rfl

/-- **The generation for a remote host is remembered after the host has answered, and not after an
error**, if the version command itself does not fail. -/
theorem probes (hlocal : isLocalHost host = false) (hrun : Run (s.hostGeneration host) t result)
    (hheard : ∀ c e, ¬ Asked s host c (.error e) t) : Probes s host t result where
  failed := by
    rintro σ t₁ t₂ e hunknown rfl hcall
    exact eq_error_of_run hunknown hrun hcall
  leaves := by
    rintro e rfl
    exact leaves_of_run_error hrun
  remembered := by
    intro σ₁ σ₂ hmem hne
    obtain ⟨g, σ, t', rfl, -, hdone⟩ | hprobed := reused_or_probed_of_run hrun
    · -- an operation that takes what is remembered changes nothing
      obtain ⟨rfl, -⟩ := run_done_iff.1 hdone
      obtain ⟨rfl, rfl⟩ := Deed.changed.inj (List.mem_singleton.1 hmem)
      exact absurd rfl hne
    cases result with
    | error e => exact absurd (leaves_of_run_error hrun _ hmem) hne
    | ok g =>
      obtain ⟨c, outcome, hasked, rfl, hdeeds⟩ := hprobed.exists_asked hlocal
      obtain ⟨σ, heq⟩ := (hdeeds _ hmem).resolve_left hne
      obtain ⟨rfl, rfl⟩ := Deed.changed.inj heq
      cases outcome with
      | error e => exact absurd hasked (hheard c e)
      | ok reply => exact ⟨c, reply, hasked, rfl, rfl⟩
  next := by
    rintro e rfl u t' g G G' hu hpasses hnext hheard'
    obtain ⟨G₁, ht, hrest⟩ := passes_append_iff.1 hpasses
    obtain ⟨G₂, hu', ht'⟩ := passes_append_iff.1 hrest
    -- nothing was remembered when the operation failed, and nothing has been since
    have hunknown := get?_of_run_error hrun ht
    obtain rfl := ht.eq_of_leaves (leaves_of_run_error hrun)
    obtain rfl := hu'.eq_of_leaves hu
    obtain ⟨c, outcome, hasked, hg, -⟩ :=
      (probed_of_run_self hnext ht' hunknown).exists_asked hlocal
    cases outcome with
    | error e => exact absurd hasked (hheard' c e)
    | ok reply => exact ⟨c, reply, hasked, hg⟩

/-- A service that reaches a host over sessions of its surroundings. -/
def remoteSample : Service :=
  { sample with pool := { (default : ConnectorPool) with transport := .external } }

/-- A service with a registered host. -/
def remoteState : ServiceState where
  pool := { registry := {
    path := ""
    hosts := (∅ : Dict HostEntry).insert "router" { name := "router", address := "192.0.2.1" } } }

/-- What becomes of a request for the generation of the host, with replies to it. -/
def remoteAfter (reply : (r : Request) → r.Reply) (n : Nat) : System ServiceState :=
  (remoteSample.asked remoteState [.generation "router"]).follow (List.replicate n (0, reply))

theorem reaches_remoteAfter (reply : (r : Request) → r.Reply) (n : Nat) :
    System.Reaches (fun _ _ _ => True) (remoteSample.asked remoteState [.generation "router"])
      (remoteAfter reply n) :=
  System.reaches_follow fun _ _ _ => trivial

/-- The host runs systemd 255 and says so. -/
def replyOfRouter : (r : Request) → r.Reply
  | .exec _ _ _ => .ok { output := Text.bytesOf "systemd 255\n" }
  | r => r.usual

/-- The host breaks off as soon as it is sent a command. -/
def replyOfBroken : (r : Request) → r.Reply
  | .exec _ _ _ => .error (.connection "router" "broken pipe")
  | .isAlive _ => false
  | r => r.usual

/-- What commands on sessions of the surroundings came to. -/
def outcomes (t : List (Deed ServiceState)) : List (Except ConnectorError CommandResult) :=
  t.filterMap fun
    | .asked (.exec _ _ _) reply => some reply
    | _ => none

/-- What is remembered in the end is what the operation has found out. -/
theorem run_of_asked {answers : Answers} {σ : ServiceState} {sys : System ServiceState} {g : Nat}
    (hreach : System.Reaches answers (s.asked σ [.generation host]) sys)
    (hdone : sys.threads = [done ()]) (hunknown : σ.generations.get? (hostKey host) = none)
    (hknown : sys.scene.state.generations.get? (hostKey host) = some g) :
    Run (s.hostGeneration host) (sys.scene.pastOf 0) (.ok g) := by
  have hpasses := passes_of_asked hreach
  have hrun := hreach.run (i := 0) rfl (by rw [hdone]; rfl)
  obtain ⟨t₁, t₂, _, heq, htask, hend⟩ := run_bind_iff.1 hrun
  obtain ⟨rfl, -⟩ := run_done_iff.1 hend
  obtain ⟨t₃, t₄, result, rfl, hgeneration, hlast⟩ := run_bind_iff.1 htask
  obtain ⟨rfl, -⟩ := run_done_iff.1 hlast
  simp only [List.append_nil] at heq
  rw [heq] at hpasses ⊢
  cases result with
  | error e =>
    have hsame := hpasses.eq_of_leaves (leaves_of_run_error hgeneration)
    rw [hsame, hunknown] at hknown
    cases hknown
  | ok g' =>
    obtain rfl := Option.some.inj
      ((get?_of_run_hostGeneration hgeneration hpasses).symm.trans hknown)
    exact hgeneration

/-- The host has been heard, and the generation for systemd 255 is remembered. -/
theorem probes_router :
    ∃ t, Run (remoteSample.hostGeneration "router") t (.ok 255) ∧
      Probes remoteSample "router" t (.ok 255) := by
  have hreach := reaches_remoteAfter replyOfRouter 30
  have hknown : (remoteAfter replyOfRouter 30).scene.state.generations.get? "router" =
      some 255 := rfl
  have hrun := run_of_asked hreach rfl rfl hknown
  exact ⟨_, hrun, probes rfl hrun fun c e =>
    not_asked_error rfl hrun (passes_of_asked hreach) rfl (by decide) e⟩

/-- **A lost connection is taken for an answer**: the version command was sent once, the connection
was lost, and yet the operation has a result, which is remembered. -/
theorem remembers_unheard :
    ∃ sys t, System.Reaches (fun _ _ _ => True)
        (remoteSample.asked remoteState [.generation "router"]) sys ∧
      sys.scene.pastOf 0 = t ∧ Run (remoteSample.hostGeneration "router") t (.ok 257) ∧
        outcomes t = [.error (.connection "router" "broken pipe")] ∧
          sys.scene.state.generations.get? "router" = some 257 := by
  have hreach := reaches_remoteAfter replyOfBroken 30
  have hknown : (remoteAfter replyOfBroken 30).scene.state.generations.get? "router" =
      some 257 := rfl
  have houtcomes : outcomes ((remoteAfter replyOfBroken 30).scene.pastOf 0) =
      [.error (.connection "router" "broken pipe")] := rfl
  exact ⟨_, _, hreach, rfl, run_of_asked hreach rfl rfl hknown, houtcomes, hknown⟩

end Service

end NetUnits
