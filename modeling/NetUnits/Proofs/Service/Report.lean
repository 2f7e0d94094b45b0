import NetUnits.Proofs.Schema.Report
import NetUnits.Proofs.Service.Probe

/-! # One generation for all spellings

There are three ways from a text to a generation: a version as it is, the output of a version probe,
and the probe that a service makes itself. They agree on all spellings of a number.

* **`Service.Heard`** — the version command was run for a host whose generation is not remembered;
  **`Service.eq_fitting_of_heard`** — its outcome decides the generation.
* **`Service.Alike`**, **`Service.alike`** — all spellings of a version get the same generation. -/

namespace NetUnits.Service

open NetUnits.Action NetUnits.ConnectorPool NetUnits.Deed

variable {s : Service} {host : String} {t u : List (Deed ServiceState)}
  {outcome : Except ConnectorError CommandResult}

/-! ## The outcome of the version command -/

/-- **The version command on a connector.** -/
def probeOn (c : Connector) : Action PoolState (Except ConnectorError CommandResult) :=
  c.either (fun _ => LocalConnector.runCommand Connector.versionCommand)
    (·.exec (commandLine Connector.versionCommand) none)

/-- **The version is what is taken for the answer** to the version command. -/
theorem exists_probeOn {c : Connector} {t : List (Deed PoolState)}
    {r : Except ConnectorError String} (hrun : Run (Operation.version.on c) t r) :
    ∃ t₁ t₂ outcome, t = t₁ ++ t₂ ∧ Run (probeOn c) t₁ outcome ∧ r = .ok (taken outcome) := by
  obtain ⟨t₁, t₂, output, rfl, hversion, hdone⟩ := run_bind_iff.1 hrun
  obtain ⟨rfl, rfl⟩ := run_done_iff.1 hdone
  cases c with
  | remote c =>
    obtain ⟨t₃, t₄, outcome, heq, hprobe, rfl⟩ := exists_versionOn hrun
    exact ⟨t₃, t₄, outcome, heq, hprobe, rfl⟩
  | here c =>
    obtain ⟨t₁, t₂, outcome, rfl, hprobe, hrest⟩ := run_bind_iff.1 hversion
    refine ⟨t₁, t₂ ++ [], outcome, List.append_assoc _ _ _, hprobe, congrArg _ ?_⟩
    -- a failure is told to the log only
    have hfailed : ∀ message, Run (event .localHost .debug message >>= fun _ => done "") t₂ output →
        output = "" := fun message h => by
      obtain ⟨_, _, _, -, -, hlast⟩ := run_bind_iff.1 h
      exact (run_done_iff.1 hlast).2
    cases outcome with
    | error e => exact hfailed _ hrest
    | ok reply =>
      rw [Program.checked, CommandResult.check] at hrest
      rw [taken, said]
      by_cases hsuccess : reply.success = true
      · rw [if_pos hsuccess] at hrest ⊢
        exact (run_done_iff.1 hrest).2
      · rw [if_neg hsuccess] at hrest ⊢
        exact hfailed _ hrest

/-- **The version command was run for a host** whose generation is not remembered: a connector was
got, and the command was run on it in time, with an outcome. -/
def Heard (s : Service) (host : String) (outcome : Except ConnectorError CommandResult)
    (t : List (Deed ServiceState)) : Prop :=
  ∃ σ c t₁ t₂ t₃, t = .changed σ σ :: (t₁ ++ .asked (.startWorker (workerName c)) (.ok ()) ::
      .asked (.awaitWorker s.pool.settings.commandTimeout) .inTime :: (t₂ ++ t₃)) ∧
    σ.generations.get? (hostKey host) = none ∧
      Run ((s.pool.get host).inside ServiceState.poolPart) t₁ (.ok c) ∧
        Run ((probeOn c).inside ServiceState.poolPart) t₂ outcome

/-- **The outcome of the version command decides the call.** -/
theorem eq_taken_of_run_call {c : Connector} {r : Except ServiceError String}
    {t₁ t₂ t₃ : List (Deed ServiceState)} (hrun : Run (s.call host Operation.version.on) t r)
    (heq : t ++ u = t₁ ++ .asked (.startWorker (workerName c)) (.ok ()) ::
      .asked (.awaitWorker s.pool.settings.commandTimeout) .inTime :: (t₂ ++ t₃))
    (hget : Run ((s.pool.get host).inside ServiceState.poolPart) t₁ (.ok c))
    (hprobe : Run ((probeOn c).inside ServiceState.poolPart) t₂ outcome) :
    r = .ok (taken outcome) := by
  obtain ⟨t, t', r', rfl, hcall, hresult⟩ := run_bind_iff.1 hrun
  -- the history of the pool is enough
  replace hcall := ((run_inside_iff isLawful_poolPart).1 hcall).1
  replace hget := ((run_inside_iff isLawful_poolPart).1 hget).1
  replace hprobe := ((run_inside_iff isLawful_poolPart).1 hprobe).1
  replace heq := congrArg (List.map (Deed.on ServiceState.poolPart)) heq
  simp only [List.map_append, List.map_cons, Deed.on, List.append_assoc] at heq
  rw [ConnectorPool.call, callWithin] at hcall
  obtain ⟨e, hfailed, -⟩ | ⟨w₁, w₂, c', hsplit, hgot, hon⟩ := run_andThen_iff.1 hcall
  · cases (hget.eq_of_append hfailed heq.symm).2.2
  · rw [hsplit, List.append_assoc] at heq
    obtain ⟨rfl, hrest, hc⟩ := hget.eq_of_append hgot heq.symm
    obtain rfl := Except.ok.inj hc
    obtain ⟨w₃, w₄, hv, hversion⟩ := exists_of_begun hon hrest.symm
    obtain ⟨w₅, w₆, outcome', rfl, hprobed, rfl⟩ := exists_probeOn hversion
    rw [List.append_assoc] at hv
    obtain ⟨-, -, rfl⟩ := hprobe.eq_of_append hprobed hv.symm
    exact (run_done_iff.1 hresult).2

/-- **The outcome of the version command decides the generation** of a host that is not
remembered. -/
theorem eq_fitting_of_heard {result : Except ServiceError Nat}
    (hrun : Run (s.hostGeneration host) t result) (h : Heard s host outcome t) :
    result = .ok (s.fitting (taken outcome)) := by
  obtain ⟨σ, c, t₁, t₂, t₃, rfl, hunknown, hget, hprobe⟩ := h
  obtain ⟨g, σ', t', heq, hknown, -⟩ | hprobed := reused_or_probed_of_run hrun
  · obtain ⟨hd, -⟩ := List.cons.inj heq
    obtain ⟨rfl, -⟩ := Deed.changed.inj hd
    cases hunknown.symm.trans hknown
  · cases hprobed with
    | failed _ hcall heq _ =>
      obtain ⟨-, rfl⟩ := List.cons.inj heq
      cases eq_taken_of_run_call hcall (List.append_nil _) hget hprobe
    | answered _ hcall _ hdone heq =>
      rw [List.append_assoc, List.cons_append] at heq
      obtain ⟨-, heq⟩ := List.cons.inj heq
      obtain rfl := Except.ok.inj (eq_taken_of_run_call hcall heq.symm hget hprobe)
      exact (run_done_iff.1 hdone).2

/-! ## All spellings -/

/-- What is printed by a version command that reports a number is taken for that number. -/
theorem fitting_of_reports {output : String} {n : Nat} (hn : n ≤ Text.maxNat32)
    (h : Version.Reports output.toList n) : s.fitting output = s.store.fitFor n := by
  rw [fitting, Version.ofProbe?_of_reports hn h]
  exact s.store.resolve_toString hn

/-- **All spellings of a version get the same generation**, on each of the three ways. -/
structure Alike (s : Service) : Prop where
  /-- A version as it is: blanks, a letter, zeros, the number, and anything on the same line that
  does not begin with a digit. -/
  plain : ∀ n ≤ Text.maxNat32, ∀ text : String, Version.Spells text.toList n →
    '\n' ∉ text.toList → s.store.resolve text = s.store.fitFor n
  /-- The output of a version probe, with such a spelling on the first line for it. -/
  probe : ∀ n ≤ Text.maxNat32, ∀ output : String, Version.Reports output.toList n →
    s.store.resolve output = s.store.fitFor n
  /-- A host that is not remembered yet, with such an output of its version command. -/
  host : ∀ n ≤ Text.maxNat32, ∀ host t result reply, Run (s.hostGeneration host) t result →
    Heard s host (.ok reply) t → reply.success = true → Version.Reports reply.stdout.toList n →
      result = .ok (s.store.fitFor n)
  /-- If no line of what is taken for the answer tells a version, the generation is the one that
  fits the fallback. -/
  silent : ∀ host t result outcome, Run (s.hostGeneration host) t result →
    Heard s host outcome t →
      (∀ line ∈ Text.linesOf (taken outcome).toList, ∀ n ≤ Text.maxNat32, ¬ Version.Tells line n) →
        result = .ok (s.store.fitFor s.store.fallback)

/-- **All spellings of a version are resolved alike.** -/
theorem alike (s : Service) : Alike s where
  plain n hn text hspells hline := s.store.resolve_of_spells hn hspells hline
  probe n hn output h := s.store.resolve_of_ofProbe? hn (Version.ofProbe?_of_reports hn h)
  host n hn host t result reply hrun hheard hsuccess h := by
    rw [eq_fitting_of_heard hrun hheard, taken, said, if_pos hsuccess, fitting_of_reports hn h]
  silent host t result outcome hrun hheard h := by
    rw [eq_fitting_of_heard hrun hheard, fitting, Version.ofProbe?_eq_none_iff.2 h]
    rfl

/-- What a host may print: a line before the version, blanks, a capital letter, a zero, a suffix and
more lines. -/
def decorated : CommandResult where
  output := Text.bytesOf "Hint: 1 unit\n systemd  V0255-rc1 \r\n+PAM -SELINUX\n"

theorem reports_decorated : Version.Reports decorated.stdout.toList 255 := by
  have hpad : ∀ c ∈ [' '], Text.isBlank c = true ∧ c ≠ '\n' :=
    List.forall_mem_singleton.2 ⟨rfl, by decide⟩
  have hpad' : ∀ c ∈ [' ', '\r'], Text.isBlank c = true ∧ c ≠ '\n' :=
    List.forall_mem_cons.2 ⟨⟨rfl, by decide⟩, List.forall_mem_singleton.2 ⟨rfl, by decide⟩⟩
  rw [CommandResult.stdout, decorated, Text.lenient_bytesOf]
  refine ⟨"Hint: 1 unit\n".toList, [' '], " V0255-rc1".toList, [' ', '\r'],
    "\n+PAM -SELINUX\n".toList, by decide +kernel, by decide, by decide +kernel, hpad, ?_,
    by decide, hpad', fun c hc => ?_⟩
  · exact ⟨[' '], ['V'], 1, "-rc1".toList, fun c hc => (hpad c hc).1, by simp,
      fun c hc => by obtain rfl := Option.some.inj hc; rfl, by decide +kernel⟩
  · exact (Option.some.inj hc).symm

/-- Surroundings in which programs print that. -/
def replyDecorated : (r : Request) → r.Reply
  | .run _ _ _ => .ok decorated
  | r => r.usual

/-- This machine prints that, and gets the generation for systemd 255. -/
theorem alike_here :
    ∃ t, Run (sample.hostGeneration "") t (.ok 255) ∧ Heard sample "" (.ok decorated) t ∧
      Version.Reports decorated.stdout.toList 255 ∧ Alike sample := by
  have hrun := run_alone replyDecorated (sample.hostGeneration "") sampleState
  have hprobe := run_alone replyDecorated
    ((probeOn (.here sample.pool.here)).inside ServiceState.poolPart) sampleState
  have hheard : Heard sample "" (.ok decorated)
      ((sample.hostGeneration "").alone replyDecorated sampleState).1 :=
    ⟨sampleState, .here sample.pool.here, [], _, _, rfl, rfl, run_done_iff.2 ⟨rfl, rfl⟩, hprobe⟩
  have hresult := (alike sample).host 255 (by decide) "" _ _ _ hrun hheard rfl reports_decorated
  rw [hresult] at hrun
  exact ⟨_, hrun, hheard, reports_decorated, alike sample⟩

end NetUnits.Service
