import NetUnits.Proofs.Action.History
import NetUnits.Shell.Session

/-! # What sessions ask for

A session is opened, looked after and closed by requests of a few kinds. Rules that allow these are
obeyed whatever the replies are.

* **`Request.AllowsUpkeep`** — rules that allow what keeps and closes a session;
  **`Request.AllowsOpening`** — and what a transport asks for to open one;
  **`Request.AllowsConnect`** — and what any transport does.
* **`Session.close_obeys`**, **`Session.isAlive_obeys`**, **`Transport.connect_obeys`** — they are
  obeyed; **`Session.exec_obeys`** — so are rules that allow a command by the command.
* **`Request.opening?`** — a request that opens a session; **`Transport.connect_opensOnce`** — a
  transport makes one when it succeeds, and never more. -/

namespace NetUnits

open NetUnits.Action

/-- **Rules that allow what keeps and closes a session.** -/
structure Request.AllowsUpkeep (p : Request → Prop) : Prop where
  /-- The log is told. -/
  event : ∀ e, p (.event e)
  /-- The socket is looked for. -/
  isPresent : ∀ path, p (.isPresent path)
  /-- The client speaks to the connection itself. -/
  control : ∀ (s : SshSession) {operation : String},
    operation = "check" ∨ operation = "exit" → p (.run s.program (s.controlArgs operation) none)
  /-- The surroundings are asked for their session. -/
  isAlive : ∀ number, p (.isAlive number)

/-- **Rules that allow what opens a session**, too. -/
structure Request.AllowsConnect (p : Request → Prop) : Prop extends Request.AllowsUpkeep p where
  /-- The client is looked for. -/
  findProgram : ∀ name, p (.findProgram name)
  /-- The directory of sockets is made. -/
  makeDirs : ∀ path, p (.makeDirs path)
  /-- The number of this process is asked for. -/
  processId : p .processId
  /-- The client opens a session. -/
  establish : ∀ s : SshSession, p (.run s.program s.connectArgs none)
  /-- The surroundings open a session. -/
  connect : ∀ host, p (.connect host)

/-- **Rules that allow what a transport asks for to open a session**, too. -/
structure Request.AllowsOpening (p : Request → Prop) (t : Transport) : Prop
    extends Request.AllowsUpkeep p where
  /-- The client of the transport is looked for. -/
  findProgram : ∀ client, t = .ssh client → p (.findProgram client.program)
  /-- Its directory of sockets is made. -/
  makeDirs : ∀ client, t = .ssh client → p (.makeDirs client.controlDir)
  /-- The number of this process is asked for. -/
  processId : p .processId
  /-- The client opens a session. -/
  establish : ∀ s : SshSession, p (.run s.program s.connectArgs none)
  /-- The surroundings open a session. -/
  connect : ∀ host, p (.connect host)

theorem Request.AllowsConnect.opening {p : Request → Prop} (hp : Request.AllowsConnect p)
    (t : Transport) : Request.AllowsOpening p t :=
  { hp with
    findProgram := fun _ _ => hp.findProgram _
    makeDirs := fun _ _ => hp.makeDirs _ }

variable {σ : Type} {p : Request → Prop} {q : σ → σ → Prop}

/-! ## Sessions of the client -/

namespace SshSession

theorem call_obeys (s : SshSession) {args : List String} (bytes : Option ByteArray)
    (hevent : ∀ e, p (.event e)) (hrun : p (.run s.program args bytes)) :
    (s.call args bytes : Action σ _).Obeys p q := by
  cases bytes with
  | none | some bytes =>
    refine Obeys.bind ((obeys_request (hevent _)).bind fun _ =>
      (obeys_request hrun).bind fun _ => trivial) fun reply => ?_
    cases reply <;> trivial

theorem exec_obeys (s : SshSession) (command : String) (bytes : Option ByteArray)
    (hevent : ∀ e, p (.event e)) (hrun : p (.run s.program (s.execArgs command) bytes)) :
    (s.exec command bytes : Action σ _).Obeys p q := by
  refine (obeys_request (hevent _)).bind fun _ =>
    (s.call_obeys bytes hevent hrun).bind fun reply => ?_
  cases reply with
  | error => trivial
  | ok result =>
    simp only
    split <;> trivial

theorem isAlive_obeys (s : SshSession) (hp : Request.AllowsUpkeep p) :
    (s.isAlive : Action σ _).Obeys p q :=
  (s.call_obeys none hp.event (hp.control s (.inl rfl))).bind fun reply => by
    cases reply <;> trivial

theorem close_obeys (s : SshSession) (hp : Request.AllowsUpkeep p) :
    (s.close : Action σ _).Obeys p q := by
  refine Obeys.bind (obeys_request (hp.isPresent s.controlPath)) fun present => ?_
  cases present with
  | false => trivial
  | true =>
    exact (obeys_request (hp.event _)).bind fun _ =>
      (s.call_obeys none hp.event (hp.control s (.inr rfl))).bind fun _ => trivial

end SshSession

theorem SshClient.establish_obeys (s : SshSession) (hp : Request.AllowsUpkeep p)
    (hestablish : p (.run s.program s.connectArgs none)) :
    (SshClient.establish s : Action σ _).Obeys p q := by
  refine (obeys_request (hp.event _)).bind fun _ =>
    (s.call_obeys none hp.event hestablish).bind fun reply => ?_
  cases reply with
  | error => exact (s.close_obeys hp).bind fun _ => trivial
  | ok result =>
    simp only
    split
    · trivial
    · exact (s.close_obeys hp).bind fun _ => trivial

theorem SshClient.connect_obeys (client : SshClient) (host : HostEntry)
    {q : Nat → Nat → Prop} (hp : Request.AllowsOpening p (.ssh client))
    (hq : ∀ n, q n (n + 1)) : (client.connect host).Obeys p q := by
  unfold SshClient.connect
  cases host.validate with
  | error => trivial
  | ok =>
    refine Obeys.bind (obeys_request (hp.findProgram client rfl)) fun found => ?_
    cases found with
    | false => trivial
    | true =>
      refine Obeys.bind (obeys_request (hp.makeDirs client rfl)) fun made => ?_
      cases made with
      | error => trivial
      | ok =>
        exact (obeys_change hq).bind fun _ => (obeys_request hp.processId).bind fun _ =>
          establish_obeys _ hp.toAllowsUpkeep (hp.establish _)

/-! ## All sessions -/

theorem Transport.connect_obeys (t : Transport) (host : HostEntry)
    (hp : Request.AllowsOpening p t) : (t.connect host).Obeys p fun _ _ => True := by
  cases t with
  | ssh client =>
    exact (client.connect_obeys host hp fun _ => trivial).bind fun reply => by
      cases reply <;> trivial
  | external =>
    exact (obeys_request (hp.connect host)).bind fun reply => by cases reply <;> trivial

namespace Session

/-- **A command on a session** is one request, beside what the log is told. -/
theorem exec_obeys (s : Session) (command : String) (bytes : Option ByteArray)
    (hevent : ∀ e, p (.event e)) (hexec : ∀ number, p (.exec number command bytes))
    (hrun : ∀ s : SshSession, p (.run s.program (s.execArgs command) bytes)) :
    (s.exec command bytes : Action σ _).Obeys p q := by
  cases s with
  | ssh session => exact session.exec_obeys command bytes hevent (hrun session)
  | external number => exact obeys_request (hexec number)

theorem isAlive_obeys (s : Session) (hp : Request.AllowsUpkeep p) :
    (s.isAlive : Action σ _).Obeys p q := by
  cases s with
  | ssh session => exact session.isAlive_obeys hp
  | external number => exact obeys_request (hp.isAlive number)

theorem close_obeys (s : Session) (hp : Request.AllowsUpkeep p) :
    (s.close : Action σ _).Obeys p q := by
  cases s with
  | ssh session => exact session.close_obeys hp
  | external number => trivial

end Session

/-- The surroundings open a session if they say so. -/
theorem Transport.external_succeeds {host : HostEntry} {answers : (r : Request) → r.Reply → Prop}
    (h : ∀ reply, answers (.connect host) reply → ∃ number, reply = .ok number) :
    (Transport.external.connect host).Succeeds answers := by
  intro t result hrun hanswers
  obtain ⟨t₁, t₂, reply, rfl, h₁, h₂⟩ := run_bind_iff.1 hrun
  obtain rfl := run_request_iff.1 h₁
  obtain ⟨number, rfl⟩ := h reply (hanswers _ _ (by simp))
  exact ⟨.external number, (run_done_iff.1 h₂).2⟩

/-! ## Requests that open sessions -/

/-- Arguments that make `ssh` only establish a connection: nothing is run over it. -/
def SshSession.establishes (args : List String) : Bool :=
  match args.reverse with
  | _ :: dashes :: mode :: _ => dashes == "--" && mode == "-N"
  | _ => false

/-- **A request that opens a session**: the surroundings are asked for one, or the client
establishes one. -/
def Request.opening? : Request → Option Request
  | connect host => some (.connect host)
  | run program args bytes =>
    if SshSession.establishes args then some (.run program args bytes) else none
  | _ => none

namespace SshSession

@[simp] theorem establishes_connectArgs (s : SshSession) : establishes s.connectArgs = true := by
  simp [establishes, connectArgs]

@[simp] theorem establishes_execArgs (s : SshSession) (command : String) :
    establishes (s.execArgs command) = false := by
  simp [establishes, execArgs]

theorem establishes_controlArgs (s : SshSession) {operation : String} (h : operation ≠ "-N") :
    establishes (s.controlArgs operation) = false := by
  simp [establishes, controlArgs, h]

end SshSession

/-- What keeps and closes a session opens none. -/
theorem Request.allowsUpkeep_opening : Request.AllowsUpkeep fun r => r.opening? = none where
  event := fun _ => rfl
  isPresent := fun _ => rfl
  isAlive := fun _ => rfl
  control := by
    intro s operation h
    have hne : operation ≠ "-N" := by
      rintro rfl
      simp at h
    simp [opening?, s.establishes_controlArgs hne]

/-- **An action opens at most one session**, and has opened one if it succeeds. -/
def Action.OpensOnce {ε α : Type} (x : Action σ (Except ε α)) : Prop :=
  ∀ t reply, Run x t reply → (Deed.collect Request.opening? t).length ≤ 1 ∧
    ∀ a, reply = .ok a → (Deed.collect Request.opening? t).length = 1

namespace Action

variable {ε α β : Type}

theorem opensOnce_error (e : ε) : (done (.error e) : Action σ (Except ε α)).OpensOnce := by
  intro t reply hrun
  obtain ⟨rfl, rfl⟩ := run_done_iff.1 hrun
  exact ⟨Nat.zero_le 1, fun a ha => nomatch ha⟩

theorem Makes.opensOnce {x : Action σ (Except ε α)} {r : Request}
    (h : x.Makes Request.opening? [r]) : x.OpensOnce := by
  intro t reply hrun
  rw [h t reply hrun]
  exact ⟨Nat.le_refl 1, fun _ _ => rfl⟩

theorem Avoids.bind_opensOnce {x : Action σ β} {f : β → Action σ (Except ε α)}
    (hx : x.Avoids Request.opening?) (hf : ∀ b, (f b).OpensOnce) : (x >>= f).OpensOnce := by
  intro t reply hrun
  obtain ⟨t₁, t₂, b, rfl, h₁, h₂⟩ := run_bind_iff.1 hrun
  rw [Deed.collect_append, hx.collect_eq_nil h₁, List.nil_append]
  exact hf b t₂ reply h₂

/-- What opens nothing after a success, and leaves an error as it is, adds nothing. -/
theorem OpensOnce.bind {x : Action σ (Except ε β)} {f : Except ε β → Action σ (Except ε α)}
    (hx : x.OpensOnce) (hok : ∀ b, (f (.ok b)).Avoids Request.opening?)
    (herror : ∀ e, f (.error e) = done (.error e)) : (x >>= f).OpensOnce := by
  intro t reply hrun
  obtain ⟨t₁, t₂, e | b, rfl, h₁, h₂⟩ := run_bind_iff.1 hrun
  · obtain ⟨rfl, rfl⟩ := run_done_iff.1 (herror e ▸ h₂)
    rw [List.append_nil]
    exact ⟨(hx t₁ _ h₁).1, fun a ha => nomatch ha⟩
  · rw [Deed.collect_append, (hok b).collect_eq_nil h₂, List.append_nil]
    exact ⟨(hx t₁ _ h₁).1, fun _ _ => (hx t₁ _ h₁).2 b rfl⟩

theorem OpensOnce.inside {τ : Type} {x : Action τ (Except ε α)} (h : x.OpensOnce)
    (part : Part σ τ) : (x.inside part).OpensOnce := by
  intro t reply hrun
  obtain ⟨t', hrun', ht⟩ := exists_run_of_inside hrun
  rw [Deed.collect_eq_filterMap, ← ht, ← Deed.collect_eq_filterMap]
  exact h t' reply hrun'

/-- Nor does such an action open more on the way. -/
theorem OpensOnce.length_le_one [Inhabited σ] {x y : Action σ (Except ε α)} (h : x.OpensOnce)
    {t : List (Deed σ)} (hafter : After x t y) :
    (Deed.collect Request.opening? t).length ≤ 1 := by
  -- a history that is not whole goes on to one that is
  obtain ⟨t', reply, hrun⟩ := exists_run y
  have hle := (h _ reply (hafter.trans hrun)).1
  rw [Deed.collect_append, List.length_append] at hle
  omega

end Action

theorem SshSession.call_connectArgs_makes (s : SshSession) :
    (s.call s.connectArgs none : Action σ _).Makes Request.opening?
      [.run s.program s.connectArgs none] := by
  have hopening : (Request.opening? (.run s.program s.connectArgs none)).toList =
      [.run s.program s.connectArgs none] := by
    simp [Request.opening?]
  have hprogram : (Program.run s.program s.connectArgs : Action σ _).Makes Request.opening?
      [.run s.program s.connectArgs none] :=
    Avoids.bind_makes (avoids_event rfl) fun _ =>
      (hopening ▸ makes_request _).bind_avoids fun _ => trivial
  exact hprogram.bind_avoids fun reply => by cases reply <;> trivial

/-- **Establishing a session opens it**, whether it can be used or not. -/
theorem SshClient.establish_makes (s : SshSession) :
    (SshClient.establish s : Action σ _).Makes Request.opening?
      [.run s.program s.connectArgs none] := by
  have hclose : (s.close : Action σ _).Avoids Request.opening? :=
    s.close_obeys Request.allowsUpkeep_opening
  refine Avoids.bind_makes (avoids_event rfl) fun _ =>
    s.call_connectArgs_makes.bind_avoids fun reply => ?_
  cases reply with
  | error => exact hclose.bind fun _ => trivial
  | ok result =>
    simp only
    split
    · trivial
    · exact hclose.bind fun _ => trivial

theorem SshClient.connect_opensOnce (client : SshClient) (host : HostEntry) :
    (client.connect host).OpensOnce := by
  unfold SshClient.connect
  cases host.validate with
  | error e => exact opensOnce_error _
  | ok =>
    refine Avoids.bind_opensOnce (avoids_request (.findProgram client.program) rfl) fun found => ?_
    cases found with
    | false => exact opensOnce_error _
    | true =>
      refine Avoids.bind_opensOnce (avoids_request (.makeDirs client.controlDir) rfl) fun made => ?_
      cases made with
      | error fault => exact opensOnce_error _
      | ok =>
        have hnumber : SshClient.nextNumber.Avoids Request.opening? :=
          obeys_change fun _ => trivial
        exact hnumber.bind_opensOnce fun _ => (avoids_request .processId rfl).bind_opensOnce
          fun _ => (SshClient.establish_makes _).opensOnce

/-- **A transport opens one session** when it succeeds, and never more. -/
theorem Transport.connect_opensOnce (t : Transport) (host : HostEntry) :
    (t.connect host).OpensOnce := by
  cases t with
  | ssh client => exact (client.connect_opensOnce host).bind (fun _ => trivial) fun _ => rfl
  | external =>
    have hconnect : (request (.connect host) : Action Nat _).Makes Request.opening?
        [.connect host] := makes_request _
    exact hconnect.opensOnce.bind (fun _ => trivial) fun _ => rfl

end NetUnits
