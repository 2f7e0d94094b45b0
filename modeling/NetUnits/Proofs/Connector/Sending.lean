import NetUnits.Connector.Basic
import NetUnits.Proofs.Action.History
import NetUnits.Proofs.Shell.Reading
import NetUnits.Proofs.Shell.Session

/-! # What connectors send

A remote host gets texts, which its shell reads; this machine runs programs with arguments as they
are.

* **`Request.heard?`** — the command that a request makes a shell read; **`Request.program?`** — the
  program that a request runs here.
* **`LocalConnector.runCommand_makes`** — this machine runs a command as it is given.
* **`Session.exec_heard`** — a session sends one text for a command, and nothing else does.
* **`RemoteConnector.exec_obeys`**, **`RemoteConnector.version_obeys`** — commands on the session
  obey rules that allow what opens one, and the command.
* **`RemoteConnector.Sends`** — an operation sends one text, and the shell reads a command in it;
  **`RemoteConnector.exec_sends`** — so does a command on the session. -/

namespace NetUnits

open NetUnits.Text

/-! ## Commands and programs in histories -/

/-- The command that arguments of `ssh` carry to a host: the last of them, behind the destination,
in calls that use a connection which stands already. -/
def SshSession.command? (args : List String) : Option String :=
  match args.reverse with
  | command :: _ :: dashes :: master :: _ =>
    if dashes = "--" ∧ master = "ControlMaster=no" then some command else none
  | _ => none

/-- **What a request makes the shell of a host read**, with the input of the command. -/
def Request.heard? : Request → Option (Option Shell.Command × Option ByteArray)
  | exec _ command bytes => some (Shell.read? command, bytes)
  | run _ args bytes => (SshSession.command? args).map fun command => (Shell.read? command, bytes)
  | _ => none

/-- **The program that a request runs on this machine**, with its arguments. -/
def Request.program? : Request → Option (List String)
  | run program args _ => some (program :: args)
  | _ => none

open NetUnits.Action

/-! ## This machine -/

namespace LocalConnector

variable {σ : Type}

theorem run_makes (program : String) (args : List String) :
    (Program.run program args : Action σ _).Makes Request.program? [program :: args] :=
  Avoids.bind_makes (avoids_event rfl) fun _ =>
    (makes_request (.run program args none)).bind_avoids fun _ => trivial

/-- **A command is run as it is given.** -/
theorem runCommand_makes {argv : List String} (h : argv ≠ []) :
    (runCommand argv : Action σ _).Makes Request.program? [argv] := by
  cases argv with
  | nil => exact absurd rfl h
  | cons program args => exact run_makes program args

theorem outputOf_makes {argv : List String} (h : argv ≠ []) :
    (outputOf argv : Action σ _).Makes Request.program? [argv] :=
  (runCommand_makes h).bind_avoids fun reply => by
    cases Program.checked (commandLine argv) reply <;> trivial

theorem apply_makes (devices : List String) :
    (apply devices : Action σ _).Makes Request.program?
      ["networkctl" :: Connector.applyArgs devices] :=
  have hchecked : (Program.runChecked "networkctl" (Connector.applyArgs devices) :
      Action σ _).Makes Request.program? ["networkctl" :: Connector.applyArgs devices] :=
    (run_makes _ _).bind_avoids fun _ => trivial
  hchecked.bind_avoids fun reply => by cases reply <;> trivial

theorem version_makes :
    (version : Action σ _).Makes Request.program? [Connector.versionCommand] :=
  (runCommand_makes (by decide)).bind_avoids fun reply => by
    cases Program.checked (commandLine Connector.versionCommand) reply with
    | ok => trivial
    | error => exact (avoids_event rfl).bind fun _ => trivial

end LocalConnector

/-! ## Sessions -/

namespace SshSession

@[simp] theorem command?_execArgs (s : SshSession) (command : String) :
    command? (s.execArgs command) = some command := by
  simp [command?, execArgs]

@[simp] theorem command?_connectArgs (s : SshSession) : command? s.connectArgs = none := by
  simp [command?, connectArgs]

theorem command?_controlArgs (s : SshSession) {operation : String} (h : operation ≠ "--") :
    command? (s.controlArgs operation) = none := by
  simp [command?, controlArgs, h]

variable {σ : Type}

/-- **A command is sent as it is.** -/
theorem exec_heard (s : SshSession) (command : String) (bytes : Option ByteArray) :
    (s.exec command bytes : Action σ _).Makes Request.heard? [(Shell.read? command, bytes)] := by
  have hrun : ∀ bytes, (Request.heard? (.run s.program (s.execArgs command) bytes)).toList =
      [(Shell.read? command, bytes)] := fun bytes => by
    simp [Request.heard?]
  have hcall : (s.call (s.execArgs command) bytes : Action σ _).Makes Request.heard?
      [(Shell.read? command, bytes)] := by
    cases bytes with
    | none =>
      exact Makes.bind_avoids (Avoids.bind_makes (avoids_event rfl) fun _ =>
        (hrun none ▸ makes_request _).bind_avoids fun _ => trivial)
          fun reply => by cases reply <;> trivial
    | some bytes =>
      exact Makes.bind_avoids (Avoids.bind_makes (avoids_event rfl) fun _ =>
        (hrun (some bytes) ▸ makes_request _).bind_avoids fun _ => trivial)
          fun reply => by cases reply <;> trivial
  refine Avoids.bind_makes (avoids_event rfl) fun _ => hcall.bind_avoids fun reply => ?_
  cases reply with
  | error => trivial
  | ok result =>
    simp only
    split <;> trivial

end SshSession

/-- What opens, keeps and closes a session carries no command. -/
theorem Request.allowsConnect_heard : Request.AllowsConnect fun r => r.heard? = none where
  event := fun _ => rfl
  isPresent := fun _ => rfl
  isAlive := fun _ => rfl
  control := by
    intro s operation h
    have hne : operation ≠ "--" := by
      rintro rfl
      simp at h
    simp [heard?, s.command?_controlArgs hne]
  findProgram := fun _ => rfl
  makeDirs := fun _ => rfl
  processId := rfl
  establish := fun s => by simp [heard?]
  connect := fun _ => rfl

namespace Session

variable {σ : Type}

/-- **A command is sent as it is**, over every kind of session. -/
theorem exec_heard (s : Session) (command : String) (bytes : Option ByteArray) :
    (s.exec command bytes : Action σ _).Makes Request.heard? [(Shell.read? command, bytes)] := by
  cases s with
  | ssh session => exact session.exec_heard command bytes
  | external number => exact makes_request (.exec number command bytes)

end Session

/-! ## A remote host -/

namespace RemoteConnector

variable {c : RemoteConnector} {α β : Type}

section Rules

variable {p : Request → Prop} (hp : Request.AllowsOpening p c.transport)
  (hacquire : p (.acquire (.session c.number))) (hrelease : p (.release (.session c.number)))

include hp hacquire hrelease

/-- **Finding or opening a session** obeys rules that allow what opens one, and the lock. -/
theorem ensureConnected_obeys : c.ensureConnected.Obeys p fun _ _ => True := by
  refine Obeys.withLock hacquire hrelease (Obeys.bind (fun _ => ⟨trivial, trivial⟩) fun w => ?_)
  cases w.session with
  | some => trivial
  | none =>
    refine ((c.transport.connect_obeys c.entry hp).inside _ fun _ _ _ => trivial).bind
      fun reply => ?_
    cases reply with
    | error => trivial
    | ok => exact (obeys_change fun _ => trivial).bind fun _ => trivial

theorem connect_obeys : c.connect.Obeys p fun _ _ => True :=
  (ensureConnected_obeys hp hacquire hrelease).bind fun reply => by cases reply <;> trivial

theorem afterFailure_obeys (session : Session) (e : ConnectorError) :
    (c.afterFailure session e).Obeys p fun _ _ => True := by
  have hgiveUp : (c.giveUp session).Obeys p fun _ _ => True :=
    Obeys.withLock hacquire hrelease (obeys_change fun _ => trivial)
  unfold afterFailure
  split
  · refine (session.isAlive_obeys hp.toAllowsUpkeep).bind fun alive => ?_
    cases alive with
    | true => trivial
    | false =>
      refine (obeys_request (hp.event _)).bind fun _ => hgiveUp.bind fun held => ?_
      cases held with
      | true => exact session.close_obeys hp.toAllowsUpkeep
      | false => trivial
  · trivial

/-- **A command on the session** obeys rules that allow what opens one, and the command. -/
theorem exec_obeys (command : String) (bytes : Option ByteArray)
    (hexec : ∀ number, p (.exec number command bytes))
    (hrun : ∀ s : SshSession, p (.run s.program (s.execArgs command) bytes)) :
    (c.exec command bytes).Obeys p fun _ _ => True := by
  refine (ensureConnected_obeys hp hacquire hrelease).andThen fun session =>
    (session.exec_obeys command bytes hp.event hexec hrun).bind fun reply => ?_
  cases reply with
  | ok => trivial
  | error e => exact (afterFailure_obeys hp hacquire hrelease session e).bind fun _ => trivial

/-- **Asking for the version** obeys rules that allow what opens a session, and the command. -/
theorem version_obeys
    (hexec : ∀ number, p (.exec number (commandLine Connector.versionCommand) none))
    (hrun : ∀ s : SshSession,
      p (.run s.program (s.execArgs (commandLine Connector.versionCommand)) none)) :
    c.version.Obeys p fun _ _ => True := by
  have hfailed : ∀ why, (c.versionFailed why).Obeys p fun _ _ => True := fun why =>
    (obeys_request (hp.event _)).bind fun _ => trivial
  refine (exec_obeys hp hacquire hrelease _ none hexec hrun).bind fun reply => ?_
  cases reply with
  | error e => exact hfailed _
  | ok result =>
    simp only
    split
    · trivial
    · exact hfailed _

end Rules

theorem ensureConnected_avoids (c : RemoteConnector) :
    c.ensureConnected.Avoids Request.heard? :=
  ensureConnected_obeys (Request.allowsConnect_heard.opening _) rfl rfl

theorem afterFailure_avoids (c : RemoteConnector) (session : Session) (e : ConnectorError) :
    (c.afterFailure session e).Avoids Request.heard? :=
  afterFailure_obeys (Request.allowsConnect_heard.opening _) rfl rfl session e

/-- Somewhere in a history no session could be had. -/
def Unreached (c : RemoteConnector) (t : List (Deed Wire)) : Prop :=
  ∃ t' e, t' <:+: t ∧ Run c.ensureConnected t' (.error e)

/-- **An operation sends one text to the host, and the shell reads a command in it**; without a
session nothing is sent. -/
def Sends (c : RemoteConnector) (x : Action Wire α) (command : Shell.Command)
    (bytes : Option ByteArray) : Prop :=
  ∀ t a, Run x t a →
    Deed.collect Request.heard? t = [(some command, bytes)] ∨
      Deed.collect Request.heard? t = [] ∧ c.Unreached t

theorem Unreached.mono {t t' : List (Deed Wire)} (h : c.Unreached t) (hsub : t <:+: t') :
    c.Unreached t' := by
  obtain ⟨t₀, e, ht₀, hrun⟩ := h
  exact ⟨t₀, e, ht₀.trans hsub, hrun⟩

/-- What sends nothing after an operation adds nothing to it. -/
theorem Sends.bind {x : Action Wire α} {k : α → Action Wire β} {command : Shell.Command}
    {bytes : Option ByteArray} (hx : c.Sends x command bytes)
    (hk : ∀ a, (k a).Avoids Request.heard?) : c.Sends (x >>= k) command bytes := by
  intro t b h
  obtain ⟨t₁, t₂, a, rfl, h₁, h₂⟩ := run_bind_iff.1 h
  rw [Deed.collect_append, (hk a).collect_eq_nil h₂, List.append_nil]
  exact (hx t₁ a h₁).imp_right fun ⟨hheard, hun⟩ =>
    ⟨hheard, hun.mono (List.prefix_append t₁ t₂).isInfix⟩

/-- **A command on the session is sent as it is.** -/
theorem exec_sends {text : String} {command : Shell.Command} (h : Shell.read? text = some command)
    (bytes : Option ByteArray) : c.Sends (c.exec text bytes) command bytes := by
  intro t a hrun
  rcases run_andThen_iff.1 hrun with ⟨e, hconnect, rfl⟩ | ⟨t₁, t₂, session, rfl, h₁, h₂⟩
  · exact .inr ⟨c.ensureConnected_avoids.collect_eq_nil hconnect, t, e, List.infix_rfl, hconnect⟩
  · left
    rw [Deed.collect_append, c.ensureConnected_avoids.collect_eq_nil h₁, List.nil_append, ← h]
    refine Makes.bind_avoids (session.exec_heard text bytes) (fun reply => ?_) t₂ a h₂
    cases reply with
    | ok => trivial
    | error e => exact (c.afterFailure_avoids session e).bind fun _ => trivial

theorem run_sends {text : String} {command : Shell.Command} (h : Shell.read? text = some command)
    (bytes : Option ByteArray) : c.Sends (c.run text bytes) command bytes :=
  (exec_sends h bytes).bind fun _ => trivial

theorem runSilently_sends {text : String} {command : Shell.Command}
    (h : Shell.read? text = some command) (bytes : Option ByteArray) :
    c.Sends (c.runSilently text bytes) command bytes :=
  (run_sends h bytes).bind fun reply => by cases reply <;> trivial

theorem outputOf_sends {text : String} {command : Shell.Command}
    (h : Shell.read? text = some command) : c.Sends (c.outputOf text) command none :=
  (run_sends h none).bind fun reply => by cases reply <;> trivial

end RemoteConnector

end NetUnits
