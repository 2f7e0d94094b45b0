import NetUnits.Proofs.Action.Course
import NetUnits.Proofs.Connector.Order
import NetUnits.Proofs.Connector.Usage
import NetUnits.Proofs.Kind

/-! # What connectors are asked

A connector is asked for one thing after the other. It changes only what it holds, and takes locks
in order. It takes names of files as they are: whoever asks must have accepted them, and what may be
named depends on what was listed before.

* **`Connector.Method`** — what a connector can be asked, as data.
* **`Connector.Serves`** — an action changes only what a connector holds, and takes locks in order;
  **`Connector.Method.serves`** — all that connectors are asked is such.
* **`Connector.Hands`** — an action does nothing but ask a connector, and hands it only some names.
* **`LocalConnector.Confines`** — a request concerns only the files with some names;
  **`Connector.Hands.confined`** — on this machine no other files are touched. -/

namespace NetUnits

open NetUnits.Action

/-! ## This machine -/

/-- **A request of the connector for this machine**: it concerns the configuration directory, the
global configuration, a file with one of some names, or a program. -/
def LocalConnector.Confines (c : LocalConnector) (ok : String → Prop) : Request → Prop
  | .entries path => path = c.configDir
  | .load path | .save path _ | .remove path =>
    path = c.globalConfig ∨ ∃ name, ok name ∧ path = c.pathOf name
  | .run _ _ _ | .event _ => True
  | _ => False

namespace LocalConnector

variable {σ : Type} {p : Request → Prop} {q : σ → σ → Prop} {c : LocalConnector}
  {ok ok' : String → Prop} {name : String}

theorem Confines.mono {r : Request} (h : c.Confines ok r) (hok : ∀ name, ok name → ok' name) :
    c.Confines ok' r := by
  cases r with
  | load | save | remove =>
    exact h.imp_right fun ⟨name, hname, hpath⟩ => ⟨name, hok name hname, hpath⟩
  | _ => exact h

theorem Confines.keepsLocks {r : Request} (h : c.Confines ok r) : r.KeepsLocks := by
  cases r <;> first | exact fun _ => rfl | exact h.elim

/-- **What was listed can be relied on.** -/
def Listed (c : LocalConnector) (rely : List DirEntry → Prop) (t : List (Deed σ)) : Prop :=
  ∀ listed, .asked (.entries c.configDir) (.ok listed) ∈ t → rely listed

theorem version_obeys (hevent : ∀ e, p (.event e))
    (hrun : ∀ program args, program :: args = Connector.versionCommand →
      p (.run program args none)) : (version : Action σ _).Obeys p q :=
  (runCommand_obeys hevent hrun).bind fun reply => by
    cases Program.checked (commandLine Connector.versionCommand) reply with
    | ok => trivial
    | error => exact (obeys_request (hevent _)).bind fun _ => trivial

end LocalConnector

/-- Links are gathered by what the way to run a command does. -/
theorem Link.gather_obeys {σ : Type} {p : Request → Prop} {q : σ → σ → Prop}
    {probe : List String → Action σ (Except ConnectorError CommandResult)}
    (hevent : ∀ event, p (.event event)) (hprobe : ∀ argv, (probe argv).Obeys p q) :
    (gather probe).Obeys p q :=
  gather_of (U := fun x => x.Obeys p q) (fun _ => trivial)
    (fun _ _ _ => obeys_request (hevent _)) Obeys.bind hprobe

namespace Connector

/-! ## Methods -/

/-- **What a connector can be asked.** -/
inductive Method : Type → Type where
  /-- The entries of the configuration directory. -/
  | entries : Method (Except ConnectorError (List DirEntry))
  /-- The content of a file. -/
  | read (name : String) : Method (Except ConnectorError ByteArray)
  /-- A new content for a file. -/
  | write (name : String) (content : ByteArray) : Method (Except ConnectorError Unit)
  /-- No file any more. -/
  | delete (name : String) : Method (Except ConnectorError Unit)
  /-- The host uses its configuration. -/
  | apply (devices : List String) : Method (Except ConnectorError Unit)
  /-- The links. -/
  | links : Method (Except ConnectorError (List Link))
  /-- What the version command prints. -/
  | version : Method String
  /-- The text of the global configuration. -/
  | readGlobal : Method (Except ConnectorError String)
  /-- A new text for the global configuration. -/
  | writeGlobal (text : String) : Method (Except ConnectorError Unit)
  /-- The host reloads its configuration. -/
  | reload : Method (Except ConnectorError String)
  /-- The output of a command. -/
  | outputOf (argv : List String) : Method (Except ConnectorError String)

variable {α β : Type} {c : Connector}

namespace Method

/-- A connector is asked. -/
def on (c : Connector) {α : Type} : Method α → Action PoolState α
  | entries => c.entries
  | read name => c.read name
  | write name content => c.write name content
  | delete name => c.delete name
  | apply devices => c.apply devices
  | links => c.links
  | version => c.version
  | readGlobal => c.readGlobal
  | writeGlobal text => c.writeGlobal text
  | reload => c.reload
  | outputOf argv => c.outputOf argv

/-- **The name of a file that a connector is given.** -/
def name? {α : Type} : Method α → Option String
  | read name | write name _ | delete name => some name
  | _ => none

/-- **What is relied on in a reply**: of the entries of the configuration directory. -/
def Relies (rely : List DirEntry → Prop) {α : Type} : Method α → α → Prop
  | entries, .ok listed => rely listed
  | _, _ => True

theorem relies_true (m : Method α) (reply : α) : m.Relies (fun _ => True) reply := by
  cases m <;> try trivial
  cases reply <;> trivial

/-- **What this machine is asked** concerns only the file that is named. -/
theorem here_obeys (m : Method α) (c : LocalConnector) :
    (m.on (.here c)).Obeys (c.Confines (· ∈ m.name?)) fun s s' => s' = s := by
  have hevent : ∀ e, c.Confines (· ∈ m.name?) (.event e) := fun _ => trivial
  have hrun : ∀ program args, c.Confines (· ∈ m.name?) (.run program args none) :=
    fun _ _ => trivial
  have hcommand : ∀ argv, (LocalConnector.runCommand argv : Action PoolState _).Obeys
      (c.Confines (· ∈ m.name?)) fun s s' => s' = s := fun _ =>
    LocalConnector.runCommand_obeys hevent fun program args _ => hrun program args
  cases m with
  | entries => exact Obeys.bind (obeys_request rfl) fun _ => trivial
  | read name => exact Obeys.bind (obeys_request (.inr ⟨name, rfl, rfl⟩)) fun _ => trivial
  | write name content =>
    refine Obeys.bind (obeys_request (.inr ⟨name, rfl, rfl⟩)) fun reply => ?_
    cases reply with
    | error => trivial
    | ok => exact Obeys.bind (obeys_request (hevent _)) fun _ => trivial
  | delete name =>
    refine Obeys.bind (obeys_request (.inr ⟨name, rfl, rfl⟩)) fun reply => ?_
    cases reply with
    | error => trivial
    | ok => exact Obeys.bind (obeys_request (hevent _)) fun _ => trivial
  | apply devices =>
    have hchecked : (Program.runChecked "networkctl" (applyArgs devices) :
        Action PoolState _).Obeys (c.Confines (· ∈ (apply devices).name?)) fun s s' => s' = s :=
      (hcommand ("networkctl" :: applyArgs devices)).bind fun _ => trivial
    exact hchecked.bind fun reply => by cases reply <;> trivial
  | links => exact Link.gather_obeys hevent hcommand
  | version => exact LocalConnector.version_obeys hevent fun program args _ => hrun program args
  | readGlobal =>
    refine Obeys.bind (x := loadText c.globalConfig) ⟨.inl rfl, fun _ => trivial⟩ fun reply => ?_
    cases reply with
    | ok => trivial
    | error fault =>
      simp only
      split <;> trivial
  | writeGlobal text =>
    exact Obeys.bind (x := saveText c.globalConfig text) (obeys_request (.inl rfl))
      fun _ => trivial
  | reload => exact LocalConnector.outputOf_obeys hevent hrun reloadCommand
  | outputOf argv => exact LocalConnector.outputOf_obeys hevent hrun argv

end Method

/-! ## What serves a connector -/

/-- **An action serves a connector**: it changes only what the connector holds, and takes locks in
order. -/
structure Serves {α : Type} (c : Connector) (x : Action PoolState α) : Prop where
  /-- Nothing else is changed. -/
  obeys : x.Obeys (fun _ => True) c.Changes
  /-- Locks are taken in order. -/
  orderly : Orderly [] x []

theorem serves_done (a : α) : c.Serves (done a) :=
  ⟨trivial, rfl⟩

theorem Serves.bind {x : Action PoolState α} {f : α → Action PoolState β} (hx : c.Serves x)
    (hf : ∀ a, c.Serves (f a)) : c.Serves (x >>= f) :=
  ⟨hx.obeys.bind fun a => (hf a).obeys, hx.orderly.bind fun a => (hf a).orderly⟩

end Connector

/-- **Who only uses a remote host serves its connector**: it takes one lock at a time. -/
theorem RemoteConnector.Uses.serves {α : Type} {c : RemoteConnector} {x : Action Wire α}
    (h : c.Uses x) : (Connector.remote c).Serves (x.inside (PoolState.wire c.number)) where
  obeys := (obeys_true x).inside _ fun s w _ => ⟨w, rfl⟩
  orderly := by
    suffices horderly : Orderly [] x [] from horderly.inside _
    induction h with
    | done a => rfl
    | event source level message _ ih => exact orderly_event.bind ih
    | connect _ ih => exact c.ensureConnected_orderly.bind ih
    | exec command input _ ih => exact (c.exec_orderly command input).bind ih
    | isConnected _ ih =>
      have hlook : Orderly [] c.isConnected [] :=
        RemoteConnector.withLock_session_orderly (q := fun _ _ => True) fun _ => ⟨trivial, trivial⟩
      exact hlook.bind ih

namespace Connector

variable {α β : Type} {c : Connector}

/-- **Whatever a connector is asked serves it.** -/
theorem Method.serves (m : Method α) (c : Connector) : c.Serves (m.on c) := by
  cases c with
  | here c =>
    refine ⟨(m.here_obeys c).mono (fun _ _ => trivial) fun _ _ h => h, ?_⟩
    exact ((m.here_obeys c).mono (fun _ hr => hr.keepsLocks) fun _ _ h => h).orderly
  | remote c =>
    cases m with
    | entries => exact RemoteConnector.entries_uses.serves
    | read name => exact (RemoteConnector.read_uses name).serves
    | write name content => exact (RemoteConnector.write_uses name content).serves
    | delete name => exact (RemoteConnector.delete_uses name).serves
    | apply devices => exact (RemoteConnector.apply_uses devices).serves
    | links => exact RemoteConnector.links_uses.serves
    | version => exact RemoteConnector.version_uses.serves
    | readGlobal => exact RemoteConnector.readGlobal_uses.serves
    | writeGlobal text => exact (RemoteConnector.writeGlobal_uses text).serves
    | reload => exact RemoteConnector.reload_uses.serves
    | outputOf argv => exact (RemoteConnector.outputOf_uses _).serves

/-! ## What hands over names -/

/-- **An action only asks a connector, and hands it only some names**, as long as what the connector
lists can be relied on. -/
inductive Hands (c : Connector) (rely : List DirEntry → Prop) (ok : String → Prop) :
    {α : Type} → Action PoolState α → Prop where
  /-- Nothing is asked any more. -/
  | done {α : Type} (a : α) : Hands c rely ok (done a)
  /-- The connector is asked, with such a name if any. -/
  | ask {α β : Type} (m : Method β) (named : ∀ name ∈ m.name?, ok name)
      {k : β → Action PoolState α}
      (rest : ∀ reply, m.Relies rely reply → Hands c rely ok (k reply)) :
      Hands c rely ok (m.on c >>= k)

section Hands

variable {rely : List DirEntry → Prop} {ok : String → Prop}

theorem Hands.bind {x : Action PoolState α} {f : α → Action PoolState β} (hx : c.Hands rely ok x)
    (hf : ∀ a, c.Hands rely ok (f a)) : c.Hands rely ok (x >>= f) := by
  induction hx with
  | done a => exact hf a
  | ask m named _ ih =>
    rw [bind_assoc']
    exact .ask m named fun reply hreply => ih reply hreply

/-- **Who only asks a connector serves it.** -/
theorem Hands.serves {x : Action PoolState α} (h : c.Hands (fun _ => True) ok x) : c.Serves x := by
  induction h with
  | done a => exact serves_done a
  | ask m _ _ ih => exact (m.serves c).bind fun reply => ih reply (m.relies_true reply)

theorem Method.hands {m : Method α} (named : ∀ name ∈ m.name?, ok name) :
    c.Hands rely ok (m.on c) :=
  bind_done (m.on c) ▸ .ask m named fun reply _ => .done reply

/-- **On this machine only files with such names are touched**, as long as what was listed can be
relied on. -/
theorem Hands.confined {c : LocalConnector} {x : Action PoolState α}
    (h : (here c).Hands rely ok x) :
    x.Each fun t d => c.Listed rely t → d.Obeys (c.Confines ok) fun s s' => s' = s := by
  have hback : LooksBack fun t (d : Deed PoolState) =>
      c.Listed rely t → d.Obeys (c.Confines ok) fun s s' => s' = s :=
    fun t₀ t d hd hlisted => hd fun listed hmem => hlisted listed (List.mem_append_right _ hmem)
  induction h with
  | done a => exact each_done a
  | ask m named _ ih =>
    refine each_bind ?_ fun t reply hrun => ?_
    · have hask := (m.here_obeys c).mono (fun r hr => hr.mono named) fun _ _ h => h
      exact hask.each fun _ _ hd _ => hd
    by_cases hreply : m.Relies rely reply
    · exact (ih reply hreply).mono fun u d hd => hback t u d hd
    · -- what follows a listing that cannot be relied on is not looked at
      refine fun u d y _ hlisted => absurd ?_ hreply
      cases m <;> try trivial
      obtain ⟨t₁, t₂, result, rfl, hask, hdone⟩ := run_bind_iff.1 hrun
      obtain rfl := run_request_iff.1 hask
      obtain ⟨rfl, rfl⟩ := run_done_iff.1 hdone
      cases result with
      | error fault => trivial
      | ok listed => exact hlisted listed (by simp)

end Hands

end Connector

/-- **The version command**, as an operation. -/
def Operation.version : Operation String where
  on := fun c => do return .ok (← c.version)
  obeys := fun c => (Connector.Method.version.serves c).obeys.bind fun _ => trivial

end NetUnits
