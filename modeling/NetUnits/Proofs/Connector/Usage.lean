import NetUnits.Proofs.Action.Part
import NetUnits.Proofs.Action.Section
import NetUnits.Proofs.Connector.Clients
import NetUnits.Proofs.Shell.Opening

/-! # How callers use a connector

A caller of a connector runs commands on its session, connects it, or asks whether it is connected;
all operations do no more. The session is looked at, opened and given up under one lock, but
commands run without it.

* **`RemoteConnector.Uses`** — an action does nothing else with a connector;
  `RemoteConnector.read_uses` and so on — no operation does.
* **`RemoteConnector.Connects`** — how a session is found or opened under the lock;
  **`RemoteConnector.Connects.session`** — it is the one that is held afterwards.
* **`RemoteConnector.Lost`** — a command lost the connection.
* **`RemoteConnector.Handles`** — what a caller does next, by what it has done before;
  **`RemoteConnector.Uses.each_handles`** — it does nothing else, and
  **`RemoteConnector.Uses.starts`** nobody does anything for it. -/

namespace NetUnits

open NetUnits.Action

/-- **Links are gathered by events and by the given way to run a command.** -/
theorem Link.gather_of {σ : Type} {U : {α : Type} → Action σ α → Prop}
    {probe : List String → Action σ (Except ConnectorError CommandResult)}
    (hdone : ∀ {α : Type} (a : α), U (done a))
    (hevent : ∀ source level message, U (event source level message))
    (hbind : ∀ {α β : Type} {x : Action σ α} {f : α → Action σ β}, U x → (∀ a, U (f a)) →
      U (x >>= f)) (hprobe : ∀ argv, U (probe argv)) : U (gather probe) := by
  have hlisting : U (gatherListing probe) := by
    refine hbind (hprobe jsonCommand) fun reply => ?_
    cases fromJson reply with
    | ok => exact hdone _
    | error e =>
      simp only
      split
      · exact hdone _
      · exact hbind (hevent _ _ _) fun _ => hbind (hprobe textCommand) fun _ => hdone _
  refine hbind hlisting fun links => ?_
  cases links with
  | error e => exact hdone _
  | ok links =>
    refine hbind (hprobe addressCommand) fun reply => ?_
    unfold addAddresses
    split
    · split
      · split
        · exact hdone _
        · exact hbind (hevent _ _ _) fun _ => hdone _
      · exact hbind (hevent _ _ _) fun _ => hdone _
    · split
      · exact hdone _
      · exact hbind (hevent _ _ _) fun _ => hdone _

namespace RemoteConnector

open NetUnits.Deed

variable {c : RemoteConnector} {α β : Type}

/-! ## Uses -/

/-- **An action uses a connector**, one thing after the other, and does nothing else but tell the
log. -/
inductive Uses (c : RemoteConnector) : {α : Type} → Action Wire α → Prop where
  /-- Nothing is done any more. -/
  | done {α : Type} (a : α) : Uses c (done a)
  /-- The log is told. -/
  | event {α : Type} (source : EventSource) (level : Level) (message : String)
      {k : Unit → Action Wire α} (rest : ∀ reply, Uses c (k reply)) :
      Uses c (event source level message >>= k)
  /-- A session is found or opened. -/
  | connect {α : Type} {k : Except ConnectorError Session → Action Wire α}
      (rest : ∀ result, Uses c (k result)) : Uses c (c.ensureConnected >>= k)
  /-- A command on the session. -/
  | exec {α : Type} (command : String) (input : Option ByteArray)
      {k : Except ConnectorError CommandResult → Action Wire α}
      (rest : ∀ result, Uses c (k result)) : Uses c (c.exec command input >>= k)
  /-- Whether a session is held. -/
  | isConnected {α : Type} {k : Bool → Action Wire α} (rest : ∀ result, Uses c (k result)) :
      Uses c (c.isConnected >>= k)

theorem Uses.bind {x : Action Wire α} {f : α → Action Wire β} (hx : c.Uses x)
    (hf : ∀ a, c.Uses (f a)) : c.Uses (x >>= f) := by
  induction hx with
  | done a => exact hf a
  | event source level message _ ih =>
    rw [bind_assoc']
    exact .event source level message fun reply => ih reply
  | connect _ ih =>
    rw [bind_assoc']
    exact .connect fun result => ih result
  | exec command input _ ih =>
    rw [bind_assoc']
    exact .exec command input fun result => ih result
  | isConnected _ ih =>
    rw [bind_assoc']
    exact .isConnected fun result => ih result

theorem event_uses (source : EventSource) (level : Level) (message : String) :
    c.Uses (Action.event source level message) :=
  bind_done (Action.event source level message) ▸ .event source level message .done

theorem exec_uses (command : String) (input : Option ByteArray) :
    c.Uses (c.exec command input) :=
  bind_done (c.exec command input) ▸ .exec command input .done

theorem run_uses (command : String) (input : Option ByteArray) : c.Uses (c.run command input) :=
  (exec_uses command input).bind fun _ => .done _

theorem runSilently_uses (command : String) (input : Option ByteArray) :
    c.Uses (c.runSilently command input) :=
  (run_uses command input).bind fun result => by cases result <;> exact .done _

theorem outputOf_uses (command : String) : c.Uses (c.outputOf command) :=
  (run_uses command none).bind fun result => by cases result <;> exact .done _

theorem entries_uses : c.Uses c.entries :=
  (run_uses _ none).bind fun result => by cases result <;> exact .done _

theorem readPath_uses (path : String) (missing : Except ConnectorError CommandResult) :
    c.Uses (c.readPath path missing) :=
  (exec_uses _ none).bind fun result => by
    cases result with
    | error e => exact .done _
    | ok result =>
      simp only
      split <;> exact .done _

theorem writePath_uses (path : String) (content : ByteArray) : c.Uses (c.writePath path content) :=
  runSilently_uses _ _

theorem read_uses (name : String) : c.Uses (c.read name) :=
  (readPath_uses _ _).bind fun result => by cases result <;> exact .done _

theorem write_uses (name : String) (content : ByteArray) : c.Uses (c.write name content) :=
  (writePath_uses _ content).bind fun result => by
    cases result with
    | error e => exact .done _
    | ok _ => exact (event_uses _ _ _).bind fun _ => .done _

theorem delete_uses (name : String) : c.Uses (c.delete name) :=
  runSilently_uses _ _

theorem readGlobal_uses : c.Uses c.readGlobal :=
  (readPath_uses _ _).bind fun result => by cases result <;> exact .done _

theorem writeGlobal_uses (text : String) : c.Uses (c.writeGlobal text) :=
  writePath_uses _ _

theorem apply_uses (devices : List String) : c.Uses (c.apply devices) :=
  runSilently_uses _ _

theorem links_uses : c.Uses c.links :=
  Link.gather_of (U := c.Uses) .done event_uses Uses.bind fun _ => exec_uses _ none

theorem version_uses : c.Uses c.version :=
  (exec_uses _ none).bind fun result => by
    have hfailed : ∀ why, c.Uses (c.versionFailed why) := fun why =>
      (event_uses _ _ _).bind fun _ => .done _
    cases result with
    | error e => exact hfailed _
    | ok result =>
      simp only
      split
      · exact .done _
      · exact hfailed _

theorem reload_uses : c.Uses c.reload :=
  outputOf_uses _

/-! ## Under the lock -/

/-- **The lock of the session.** -/
def lock (c : RemoteConnector) : Lock :=
  .session c.number

/-- What opens a session for the connector. -/
def opening (c : RemoteConnector) : Action Wire (Except ConnectorError Session) :=
  (c.transport.connect c.entry).inside Wire.counter

/-- **How a session is found or opened** under the lock, with the result. -/
inductive Connects (c : RemoteConnector) :
    List (Deed Wire) → Except ConnectorError Session → Prop where
  /-- A session is held. -/
  | held {w : Wire} {s : Session} (held : w.session = some s) : Connects c [.changed w w] (.ok s)
  /-- None is held, and none can be opened. -/
  | failed {w : Wire} {v : List (Deed Wire)} {e : ConnectorError} (unheld : w.session = none)
      (run : Run c.opening v (.error e)) : Connects c (.changed w w :: v) (.error e)
  /-- None is held, and one is opened and kept. -/
  | opened {w w' : Wire} {v : List (Deed Wire)} {s : Session} (unheld : w.session = none)
      (run : Run c.opening v (.ok s)) :
      Connects c (.changed w w :: v ++ [.changed w' { w' with session := some s }]) (.ok s)

/-- What is done under the lock to find or open a session. -/
def connecting (c : RemoteConnector) : Action Wire (Except ConnectorError Session) := do
  match (← Action.look).session with
  | some session => return .ok session
  | none =>
    match ← c.opening with
    | .error e => return .error e
    | .ok session =>
      keep session
      return .ok session

theorem ensureConnected_eq (c : RemoteConnector) :
    c.ensureConnected = withLock c.lock c.connecting :=
  rfl

theorem connects_of_run {t : List (Deed Wire)} {result : Except ConnectorError Session}
    (hrun : Run c.connecting t result) : c.Connects t result := by
  obtain ⟨w, t, rfl, hlooked⟩ := run_look_bind_iff.1 hrun
  cases hsession : w.session with
  | some s =>
    rw [hsession] at hlooked
    obtain ⟨rfl, rfl⟩ := run_done_iff.1 hlooked
    exact .held hsession
  | none =>
    rw [hsession] at hlooked
    obtain ⟨v, t, reply, rfl, hopening, hrest⟩ := run_bind_iff.1 hlooked
    cases reply with
    | error e =>
      obtain ⟨rfl, rfl⟩ := run_done_iff.1 hrest
      rw [List.append_nil]
      exact .failed hsession hopening
    | ok s =>
      obtain ⟨t, t', _, rfl, hkeep, hdone⟩ := run_bind_iff.1 hrest
      obtain ⟨w', rfl, -⟩ := run_change_iff.1 hkeep
      obtain ⟨rfl, rfl⟩ := run_done_iff.1 hdone
      rw [List.append_nil]
      exact .opened hsession hopening

theorem opening_obeys (c : RemoteConnector) :
    c.opening.Obeys Request.KeepsLocks fun w w' => w'.session = w.session :=
  (c.transport.connect_obeys c.entry (Request.allowsConnect_keepsLocks.opening _)).inside _
    fun _ _ _ => rfl

theorem leaves_of_opening {v : List (Deed Wire)} {y : Action Wire (Except ConnectorError Session)}
    (hafter : After c.opening v y) : ∀ d ∈ v, d.Leaves Wire.session :=
  leaves_of_after c.opening_obeys (fun _ _ h => h) hafter

/-- Finding or opening a session spares all locks. -/
theorem Connects.spares {t : List (Deed Wire)} {result : Except ConnectorError Session}
    (h : c.Connects t result) (l : Lock) : ∀ d ∈ t, d.Spares l := by
  have hopening : ∀ {v : List (Deed Wire)} {reply : Except ConnectorError Session},
      Run c.opening v reply → ∀ d ∈ v, d.Spares l :=
    fun hrun => spares_of_after c.opening_obeys hrun
  cases h with
  | held => exact List.forall_mem_singleton.2 trivial
  | failed _ hrun => exact List.forall_mem_cons.2 ⟨trivial, hopening hrun⟩
  | opened _ hrun =>
    exact List.forall_mem_append.2 ⟨List.forall_mem_cons.2 ⟨trivial, hopening hrun⟩,
      List.forall_mem_singleton.2 trivial⟩

/-- **The session that was found or opened is held afterwards**; after an error none is. -/
theorem Connects.session {t : List (Deed Wire)} {result : Except ConnectorError Session}
    {v v' : Option Session} (h : c.Connects t result) (ht : Passes Wire.session v t v') :
    v' = result.toOption := by
  cases h with
  | held hheld =>
    obtain ⟨-, rfl⟩ := ht
    exact hheld
  | failed hunheld hrun => exact (ht.2.eq_of_leaves (leaves_of_opening hrun)).trans hunheld
  | opened _ _ =>
    obtain ⟨w, -, -, rfl⟩ := passes_append_iff.1 ht
    rfl

/-! ## Lost connections -/

/-- **A command on a session lost the connection**, and the session said after it that it does not
stand any more. -/
def Lost (s : Session) (t : List (Deed Wire)) : Prop :=
  ∃ t₀ command input e err l, t = t₀ ++ (e ++ l) ∧ Run (s.exec command input) e (.error err) ∧
    err.isConnection = true ∧ Run s.isAlive l false

theorem Lost.append {s : Session} {t : List (Deed Wire)} (h : Lost s t) (t₀ : List (Deed Wire)) :
    Lost s (t₀ ++ t) := by
  obtain ⟨t₁, command, input, e, err, l, rfl, hrest⟩ := h
  exact ⟨t₀ ++ t₁, command, input, e, err, l, (List.append_assoc _ _ _).symm, hrest⟩

/-- A wire after a session is given up: it is held no longer. -/
def without (w : Wire) (s : Session) : Wire :=
  if w.session = some s then { w with session := none } else w

theorem giveUp_eq (c : RemoteConnector) (s : Session) : c.giveUp s =
    withLock c.lock (Action.change fun w => (decide (w.session = some s), without w s)) := by
  have hchange : (fun w : Wire => if w.session = some s then (true, { w with session := none })
      else (false, w)) = fun w => (decide (w.session = some s), without w s) := by
    funext w
    rw [without]
    split <;> simp_all
  rw [giveUp, hchange]
  rfl

/-! ## What callers do next -/

/-- **What a caller of a connector does next**, after what it has done before. -/
inductive Handles (c : RemoteConnector) (t : List (Deed Wire)) (d : Deed Wire) : Prop where
  /-- It does nothing about the session. -/
  | other (leaves : d.Leaves Wire.session) (closed : collect Request.opening? [d] = [])
      (spares : d.Spares c.lock)
  /-- It takes the lock. -/
  | takes (eq : d = .asked (.acquire c.lock) ())
  /-- It gives the lock back, and has opened no session that it does not keep. -/
  | gives {u : List (Deed Wire)} (since : since c.lock t = some u)
      (settled : (∀ e ∈ u, e.opens = false) ∨ ∃ s, c.Connects u (.ok s))
      (eq : d = .asked (.release c.lock) ())
  /-- It asks for a session, under the lock and after it found that none is held. -/
  | asks {w : Wire} {v : List (Deed Wire)} (since : since c.lock t = some (.changed w w :: v))
      (unheld : w.session = none) (between : ∀ e ∈ v, e.Leaves Wire.session)
      (first : collect Request.opening? v = []) (leaves : d.Leaves Wire.session)
      (spares : d.Spares c.lock)
  /-- It keeps the session that it has opened. -/
  | keeps {w w' : Wire} {v : List (Deed Wire)} {s : Session}
      (since : since c.lock t = some (.changed w w :: v)) (unheld : w.session = none)
      (run : Run c.opening v (.ok s)) (eq : d = .changed w' { w' with session := some s })
  /-- It gives the session up on which it has lost the connection. -/
  | givesUp {w : Wire} {s : Session} {t₀ : List (Deed Wire)} {e : Event} (lost : Lost s t₀)
      (history : t = t₀ ++ [.asked (.event e) (), .asked (.acquire c.lock) ()])
      (eq : d = .changed w (without w s))

theorem handles_looksBack : LooksBack c.Handles := by
  rintro t₀ t d (⟨hleaves, hclosed, hspares⟩ | heq | ⟨hsince, hsettled, heq⟩ |
    ⟨hsince, hunheld, hbetween, hfirst, hleaves, hspares⟩ | ⟨hsince, hunheld, hrun, heq⟩ |
    ⟨hlost, rfl, heq⟩)
  · exact .other hleaves hclosed hspares
  · exact .takes heq
  · exact .gives (since_append_of_some hsince) hsettled heq
  · exact .asks (since_append_of_some hsince) hunheld hbetween hfirst hleaves hspares
  · exact .keeps (since_append_of_some hsince) hunheld hrun heq
  · exact .givesUp (hlost.append t₀) (List.append_assoc _ _ _).symm heq

/-- What has nothing to do with the session needs no reason. -/
theorem each_handles_of_obeys {q : Wire → Wire → Prop} {x : Action Wire α}
    (h : x.Obeys (fun r => r.opening? = none ∧ r.KeepsLocks) q)
    (hq : ∀ w w', q w w' → w'.session = w.session) : x.Each c.Handles := by
  refine h.each fun t d hd => ?_
  cases d with
  | asked r reply =>
    exact .other trivial (collect_eq_nil (List.forall_mem_singleton.2 hd.1))
      (spares_of_obeys (q := q) hd.2)
  | changed w w' => exact .other (hq w w' hd) rfl trivial
  | forked => exact .other trivial rfl trivial

/-- **Under the lock a session is opened only where none is held**, and kept. -/
theorem ensureConnected_each : c.ensureConnected.Each c.Handles := by
  rw [ensureConnected_eq]
  refine each_withLock (.takes rfl) ?_ fun u result hrun => ?_
  · -- the look comes first, and what it finds decides
    refine each_bind (each_change (f := fun w => (w, w)) fun w => .other rfl rfl trivial)
      fun t w hlooked => ?_
    obtain ⟨_, _, rfl, hdone⟩ := run_atomic_iff.1 hlooked
    obtain ⟨rfl, rfl⟩ := run_done_iff.1 hdone
    cases hsession : w.session with
    | some s => exact each_done _
    | none =>
      have hsince : ∀ {v : List (Deed Wire)} {y : Action Wire (Except ConnectorError Session)},
          After c.opening v y → since c.lock
            (.asked (.acquire c.lock) () :: ([.changed w w] ++ v)) = some (.changed w w :: v) :=
        fun hafter => since_cons_acquire
          (List.forall_mem_cons.2 ⟨trivial, spares_of_after c.opening_obeys hafter⟩)
      refine each_bind (fun v d y hafter => ?_) fun v reply hrun => ?_
      · obtain ⟨z, hz, -⟩ := after_append_iff.1 hafter
        have hd := c.opening_obeys.of_after_snoc hafter
        have hleaves := leaves_of_opening hafter d (by simp)
        have hspares : d.Spares c.lock := spares_of_obeys hd
        by_cases hclosed : collect Request.opening? [d] = []
        · exact .other hleaves hclosed hspares
        · -- no transport asks for a second session
          have hle := ((c.transport.connect_opensOnce c.entry).inside Wire.counter).length_le_one
            hafter
          rw [collect_append, List.length_append] at hle
          have hpos := List.length_pos_of_ne_nil hclosed
          have hfirst : collect Request.opening? v = [] :=
            List.length_eq_zero_iff.1 (by omega)
          exact .asks (hsince hz) hsession (leaves_of_opening hz) hfirst hleaves hspares
      · cases reply with
        | error e => exact each_done _
        | ok s =>
          refine each_bind (each_change fun w' => ?_) fun _ _ _ => each_done _
          exact .keeps (by rw [List.append_nil]; exact hsince hrun) hsession hrun rfl
  · have hconnects := connects_of_run hrun
    refine .gives (since_cons_acquire (hconnects.spares _)) ?_ rfl
    cases hconnects with
    | held => exact .inl (List.forall_mem_singleton.2 rfl)
    | failed hunheld hopening =>
      refine .inl (List.forall_mem_cons.2 ⟨rfl, fun d hd => ?_⟩)
      have hreports := ((c.transport.connect_reports c.entry).inside Wire.counter) _ _ hopening
      by_contra hopens
      obtain ⟨s, hs⟩ := hreports.1 ⟨d, hd, by simpa using hopens⟩
      cases hs
    | opened hunheld hopening => exact .inr ⟨_, .opened hunheld hopening⟩

theorem isConnected_each : c.isConnected.Each c.Handles := by
  refine each_withLock (.takes rfl) ?_ fun u result hrun => ?_
  · exact Obeys.each (p := fun _ => False) (q := fun w w' => w' = w) (fun w => ⟨rfl, trivial⟩)
      fun t d hd => by
        cases d with
        | asked => exact hd.elim
        | changed w w' => exact .other (congrArg Wire.session hd) rfl trivial
        | forked => exact .other trivial rfl trivial
  · obtain ⟨w, t, rfl, hdone⟩ := run_look_bind_iff.1 hrun
    obtain ⟨rfl, -⟩ := run_done_iff.1 hdone
    exact .gives (since_cons_acquire (List.forall_mem_singleton.2 trivial))
      (.inl (List.forall_mem_singleton.2 rfl)) rfl

/-- What keeps and closes a session neither opens one nor uses locks. -/
theorem allowsUpkeep_idle :
    Request.AllowsUpkeep fun r => r.opening? = none ∧ r.KeepsLocks where
  event := fun _ => ⟨rfl, fun _ => rfl⟩
  isPresent := fun _ => ⟨rfl, fun _ => rfl⟩
  isAlive := fun _ => ⟨rfl, fun _ => rfl⟩
  control := fun s _ h => ⟨Request.allowsUpkeep_opening.control s h, fun _ => rfl⟩

theorem exec_idle (s : Session) (command : String) (input : Option ByteArray)
    {q : Wire → Wire → Prop} :
    (s.exec command input).Obeys (fun r => r.opening? = none ∧ r.KeepsLocks) q :=
  s.exec_obeys command input allowsUpkeep_idle.event (fun _ => ⟨rfl, fun _ => rfl⟩)
    fun s => ⟨by simp [Request.opening?], fun _ => rfl⟩

/-- **Only a lost session is given up.** -/
theorem afterFailure_each {s : Session} {command : String} {input : Option ByteArray}
    {e : List (Deed Wire)} {err : ConnectorError}
    (hrun : Run (s.exec command input) e (.error err)) :
    (c.afterFailure s err).Each fun t d => c.Handles (e ++ t) d := by
  have hidle : ∀ {γ : Type} {x : Action Wire γ} (t₀ : List (Deed Wire)),
      x.Obeys (fun r => r.opening? = none ∧ r.KeepsLocks) (fun _ _ => False) →
        x.Each fun t d => c.Handles (t₀ ++ t) d := fun t₀ hx =>
    (each_handles_of_obeys hx fun _ _ h => h.elim).mono fun t d h => handles_looksBack t₀ t d h
  unfold afterFailure
  split
  · rename_i hlost
    refine each_bind (hidle e (s.isAlive_obeys allowsUpkeep_idle)) fun l alive halive => ?_
    cases alive with
    | true => exact each_done _
    | false =>
      refine each_bind (each_request fun _ => .other trivial rfl trivial) fun t _ hevent => ?_
      obtain rfl := run_request_iff.1 hevent
      rw [giveUp_eq]
      refine each_bind (each_withLock (.takes rfl) (each_change fun w => ?_) fun u _ hu => ?_)
        fun t held _ => ?_
      · exact .givesUp ⟨[], command, input, e, err, l, rfl, hrun, hlost, halive⟩
          (List.append_assoc e l _).symm rfl
      · obtain ⟨w, heq, -⟩ := run_change_iff.1 hu
        have hspares : ∀ d ∈ u, d.Spares c.lock ∧ d.opens = false := by
          rw [heq]
          exact List.forall_mem_singleton.2 ⟨trivial, rfl⟩
        refine .gives ?_ (.inl fun d hd => (hspares d hd).2) rfl
        simp only [← List.append_assoc]
        exact since_append_of_some (since_cons_acquire fun d hd => (hspares d hd).1)
      · cases held with
        | true =>
          simp only [← List.append_assoc]
          exact hidle _ (s.close_obeys allowsUpkeep_idle)
        | false => exact each_done _
  · exact each_done _

theorem exec_each (command : String) (input : Option ByteArray) :
    (c.exec command input).Each c.Handles := by
  refine ensureConnected_each.andThen handles_looksBack fun s => ?_
  refine each_bind (each_handles_of_obeys (q := fun _ _ => False)
    (exec_idle s command input) fun _ _ h => h.elim) fun e reply hrun => ?_
  cases reply with
  | ok result => exact each_done _
  | error err => exact each_bind (afterFailure_each hrun) fun _ _ _ => each_done _

/-- **Callers of a connector handle its session in these ways only.** -/
theorem Uses.each_handles {x : Action Wire α} (h : c.Uses x) : x.Each c.Handles := by
  induction h with
  | done a => exact each_done a
  | event source level message _ ih =>
    exact (each_handles_of_obeys (q := fun _ _ => False) (obeys_request ⟨rfl, fun _ => rfl⟩)
      fun _ _ h => h.elim).bind handles_looksBack ih
  | connect _ ih => exact ensureConnected_each.bind handles_looksBack ih
  | exec command input _ ih => exact (exec_each command input).bind handles_looksBack ih
  | isConnected _ ih => exact isConnected_each.bind handles_looksBack ih

/-! ## Nothing beside -/

theorem ensureConnected_starts {Q : Action Wire Unit → Prop} : c.ensureConnected.Starts Q := by
  have hopening : c.opening.Starts Q :=
    (c.transport.connect_starts c.entry (Q := fun _ => False)).inside fun _ h => h.elim
  refine Starts.withLock (Starts.bind (x := look) (fun _ => trivial) fun w => ?_)
  cases w.session with
  | some s => trivial
  | none =>
    refine hopening.bind fun reply => ?_
    cases reply with
    | error e => trivial
    | ok s => exact Starts.bind (starts_change _) fun _ => trivial

theorem exec_starts {Q : Action Wire Unit → Prop} (command : String) (input : Option ByteArray) :
    (c.exec command input).Starts Q := by
  have hfailure : ∀ s err, (c.afterFailure s err).Starts Q := by
    intro s err
    unfold afterFailure
    split
    · refine s.isAlive_starts.bind fun alive => ?_
      cases alive with
      | true => trivial
      | false =>
        refine (starts_request _).bind fun _ => (Starts.withLock (starts_change _)).bind
          fun held => ?_
        cases held with
        | true => exact s.close_starts
        | false => trivial
    · trivial
  refine ensureConnected_starts.andThen fun s => (s.exec_starts command input).bind fun reply => ?_
  cases reply with
  | ok result => trivial
  | error err => exact (hfailure s err).bind fun _ => trivial

/-- **A caller starts nothing beside what it does.** -/
theorem Uses.starts {Q : Action Wire Unit → Prop} {x : Action Wire α} (h : c.Uses x) :
    x.Starts Q := by
  induction h with
  | done a => trivial
  | event source level message _ ih => exact (starts_request _).bind ih
  | connect _ ih => exact ensureConnected_starts.bind ih
  | exec command input _ ih => exact (exec_starts command input).bind ih
  | isConnected _ ih =>
    exact Starts.bind (Starts.withLock (Starts.bind (x := look) (fun _ => trivial)
      fun _ => trivial)) ih

end RemoteConnector

end NetUnits
