import NetUnits.Proofs.Connector.Commands
import NetUnits.Proofs.Connector.Making
import NetUnits.Proofs.Schema.Contents
import NetUnits.Proofs.Service.HostChanges
import NetUnits.Proofs.Shell.Arguments

/-! # Files that services touch

An operation on a configuration file is refused for its name, or it touches that file of the
configuration directory and no other one: here by requests for its path, on a remote host by
commands that name the path. Otherwise it reads schemas and asks for the version.

* **`Service.FileOperation`** — the operations on files, as data;
  **`Service.FileOperation.on_of_refused`** — they are refused for names that are not accepted.
* **`Service.Orders`** — the texts that a host is sent for a file; **`Service.CommandOn`** — the
  commands that its shell reads in them, by **`Service.Orders.exists_command`**.
* **`Service.Allows`** — what an operation on a file may ask for;
  **`Service.FileOperation.within`** — it asks for nothing else.
* **`Service.keepsOwn_of_served`** — services meet only connectors that they make.
* **`Service.Confines`** — what becomes of the name of a file; **`Service.confines`** — of every
  name. -/

namespace NetUnits.Service

open NetUnits.Action NetUnits.ConnectorPool NetUnits.ServiceState

variable {s : Service} {host filename : String} {α : Type} {σ : ServiceState}

/-! ## Operations -/

/-- **An operation on a configuration file.** -/
inductive FileOperation : Type → Type where
  /-- The document of the file, with its kind. -/
  | read : FileOperation (Kind × Document)
  /-- The text of the file. -/
  | readText : FileOperation String
  /-- A new document for the file. -/
  | write (document : Document) : FileOperation Unit
  /-- A new text for the file. -/
  | writeText (text : String) : FileOperation Unit
  /-- No file any more. -/
  | delete : FileOperation Unit

/-- The operation on a file of a host. -/
def FileOperation.on (s : Service) (host filename : String) {α : Type} :
    FileOperation α → Action ServiceState (Except ServiceError α)
  | read => s.read host filename
  | readText => s.readText host filename
  | write document => s.write host filename document
  | writeText text => s.writeText host filename text
  | delete => s.delete host filename

/-- The operation as a task. -/
def FileOperation.task (host filename : String) {α : Type} : FileOperation α → Task
  | read => .read host filename
  | readText => .readText host filename
  | write document => .write host filename document
  | writeText text => .writeText host filename text
  | delete => .delete host filename

/-- **An operation is refused at once** for a name that is not accepted. -/
theorem FileOperation.on_of_refused (operation : FileOperation α)
    (h : Kind.ofSafeFilename? filename = none) :
    operation.on s host filename = done (.error (.invalidFilename filename)) := by
  have hrefused := Kind.ofSafeFilename_of_eq_none h
  cases operation with
  | read =>
    rw [on, Service.read, hrefused]
    rfl
  | readText =>
    rw [on, Service.readText, hrefused]
    rfl
  | write document =>
    rw [on, Service.write, hrefused]
    rfl
  | writeText text =>
    rw [on, Service.writeText, hrefused]
    rfl
  | delete =>
    rw [on, Service.delete, hrefused]
    rfl

/-! ## What is asked for -/

/-- **A text that a host is sent** for a file, with the input of its command. -/
inductive Orders (s : Service) (filename : String) : String → Option ByteArray → Prop where
  /-- The version is asked for. -/
  | version : Orders s filename (commandLine Connector.versionCommand) none
  /-- The file is read. -/
  | read {k : RemoteConnector} (made : s.pool.Makes k) :
    Orders s filename (k.privileged (RemoteConnector.readCommand (k.pathOf filename))) none
  /-- The file is written. -/
  | write {k : RemoteConnector} (made : s.pool.Makes k) (content : ByteArray) :
    Orders s filename (k.privileged (RemoteConnector.writeCommand (k.pathOf filename)))
      (some content)
  /-- The file is removed. -/
  | delete {k : RemoteConnector} (made : s.pool.Makes k) :
    Orders s filename (k.privileged (RemoteConnector.deleteCommand (k.pathOf filename))) none

/-- **A command on a file**, as a shell reads it, with its input. Words may stand in front of it. -/
inductive CommandOn (lead : List String) (path : String) :
    Shell.Command → Option ByteArray → Prop where
  /-- The file is printed. -/
  | read : CommandOn lead path ⟨lead ++ ["cat", "--", path], none⟩ none
  /-- The input goes to the file, and nothing is printed. -/
  | write (content : ByteArray) :
    CommandOn lead path ⟨lead ++ ["tee", "--", path], some "/dev/null"⟩ (some content)
  /-- The file is removed. -/
  | delete : CommandOn lead path ⟨lead ++ ["rm", "--", path], none⟩ none

/-- The words that the connectors of a service put before commands with privileges. -/
def lead (s : Service) : List String :=
  Shell.wordsIn (Text.trim s.pool.settings.privilege)

theorem lead_of_makes {k : RemoteConnector} (made : s.pool.Makes k) : k.lead = s.lead := by
  obtain ⟨entry, number, rfl⟩ := made
  rfl

theorem configDir_of_makes {k : RemoteConnector} (made : s.pool.Makes k) :
    k.configDir = s.pool.settings.configDir := by
  obtain ⟨entry, number, rfl⟩ := made
  rfl

/-- A command on the path of the file is read behind the words that are put before it. -/
theorem exists_command_of_makes {k : RemoteConnector} {text : String}
    {input : Option ByteArray} {command : Shell.Command} (made : s.pool.Makes k)
    (hprivilege : Shell.IsPlain (Text.trim s.pool.settings.privilege).toList)
    (hread : Shell.read? text = some command)
    (h : CommandOn s.lead (Path.join s.pool.settings.configDir filename)
      { command with words := s.lead ++ command.words } input) :
    ∃ heard, Shell.read? (k.privileged text) = some heard ∧
      CommandOn s.lead (Path.join s.pool.settings.configDir filename) heard input := by
  have hplain : Shell.IsPlain k.privilege.toList := by
    obtain ⟨entry, number, rfl⟩ := made
    exact hprivilege
  have hheard := RemoteConnector.read?_privileged hplain hread
  rw [lead_of_makes made] at hheard
  exact ⟨_, hheard, h⟩

/-- **The shell of a host reads a command on the file** in what it is sent, or the one for the
version. -/
theorem Orders.exists_command {text : String} {input : Option ByteArray}
    (h : s.Orders filename text input)
    (hprivilege : Shell.IsPlain (Text.trim s.pool.settings.privilege).toList)
    (hpath : '\x00' ∉ (Path.join s.pool.settings.configDir filename).toList) :
    ∃ heard, Shell.read? text = some heard ∧
      (heard = ⟨Connector.versionCommand, none⟩ ∧ input = none ∨
        CommandOn s.lead (Path.join s.pool.settings.configDir filename) heard input) := by
  have hfile : ∀ {k : RemoteConnector}, s.pool.Makes k →
      k.pathOf filename = Path.join s.pool.settings.configDir filename := fun made => by
    rw [RemoteConnector.pathOf, configDir_of_makes made]
  cases h with
  | version =>
    have hread : Shell.read? (commandLine Connector.versionCommand) = some ⟨_, none⟩ :=
      RemoteConnector.read?_commandLine (RemoteConnector.isOrdinary_of_all (by decide)) (by decide)
    exact ⟨_, hread, .inl ⟨rfl, rfl⟩⟩
  | read made =>
    rw [hfile made]
    obtain ⟨heard, hheard, hcommand⟩ := exists_command_of_makes made hprivilege
      (RemoteConnector.read?_readCommand hpath) .read
    exact ⟨heard, hheard, .inr hcommand⟩
  | write made content =>
    rw [hfile made]
    obtain ⟨heard, hheard, hcommand⟩ := exists_command_of_makes made hprivilege
      (RemoteConnector.read?_writeCommand hpath) (.write content)
    exact ⟨heard, hheard, .inr hcommand⟩
  | delete made =>
    rw [hfile made]
    obtain ⟨heard, hheard, hcommand⟩ := exists_command_of_makes made hprivilege
      (RemoteConnector.read?_deleteCommand hpath) .delete
    exact ⟨heard, hheard, .inr hcommand⟩

/-- **What an operation on a file may ask for.** Of the files of this machine, it touches that one,
and reads schemas; a remote host is only sent texts for the file, over sessions that are opened and
looked after for that. -/
def Allows (s : Service) (host filename : String) : Request → Prop
  | .load path =>
    isLocalHost host = true ∧ path = s.pool.here.pathOf filename ∨
      ∃ version kind, path = s.store.fileOf version kind
  | .save path _ | .remove path => isLocalHost host = true ∧ path = s.pool.here.pathOf filename
  | .run program args input =>
    isLocalHost host = true ∧ program :: args = Connector.versionCommand ∧ input = none ∨
      isLocalHost host = false ∧ ∃ (session : SshSession) (uses : List SshSession.Use),
        program = session.program ∧ session.Calls uses args input ∧
          ∀ text bytes, .exec text bytes ∈ uses → s.Orders filename text bytes
  | .exec _ text input => isLocalHost host = false ∧ s.Orders filename text input
  | .makeDirs path =>
    isLocalHost host = false ∧ ∃ client, s.pool.transport = .ssh client ∧ path = client.controlDir
  | .isPresent _ | .findProgram _ | .processId | .connect _ | .isAlive _ => isLocalHost host = false
  | .event _ | .startWorker _ | .awaitWorker _ | .acquire _ | .release _ => True
  | .entries _ | .append _ _ | .environment _ | .clock | .input | .output _ | .report _ => False

theorem allowsWorkers : Request.AllowsWorkers (s.Allows host filename) :=
  ⟨fun _ => trivial, fun _ => trivial, fun _ => trivial⟩

theorem allowsCalls (hremote : isLocalHost host = false) :
    Request.AllowsCalls (s.Allows host filename) s.pool.transport where
  event := fun _ => trivial
  isPresent := fun _ => hremote
  isAlive := fun _ => hremote
  findProgram := fun _ _ => hremote
  makeDirs := fun client ht => ⟨hremote, client, ht, rfl⟩
  processId := hremote
  connect := fun _ => hremote
  acquire := fun _ => trivial
  release := fun _ => trivial
  establish := fun session => .inr ⟨hremote, session, [], rfl, .establish, by simp⟩
  control := by
    rintro session _ (rfl | rfl)
    · exact .inr ⟨hremote, session, [], rfl, .check, by simp⟩
    · exact .inr ⟨hremote, session, [], rfl, .exit, by simp⟩

/-! ## Connectors -/

/-- A call of the client with a text that is allowed is allowed. -/
theorem allows_execArgs (hremote : isLocalHost host = false) {text : String}
    {input : Option ByteArray} (h : s.Orders filename text input) (session : SshSession) :
    s.Allows host filename (.run session.program (session.execArgs text) input) := by
  refine .inr ⟨hremote, session, [.exec text input], rfl, .exec (by simp), ?_⟩
  intro text' bytes hmem
  cases List.mem_singleton.1 hmem
  exact h

/-- **A command that a remote host is sent** is allowed if its text is. -/
theorem exec_obeys {k : RemoteConnector} (hremote : isLocalHost host = false)
    (made : s.pool.Makes k) {text : String} {input : Option ByteArray}
    (h : s.Orders filename text input) :
    (k.exec text input).Obeys (s.Allows host filename) fun _ _ => True := by
  obtain ⟨entry, number, rfl⟩ := made
  have hp : Request.AllowsCalls (s.Allows host filename) s.pool.transport := allowsCalls hremote
  exact RemoteConnector.exec_obeys hp.toAllowsOpening (hp.acquire _) (hp.release _) text input
    (fun _ => ⟨hremote, h⟩) (allows_execArgs hremote h)

theorem runSilently_obeys {k : RemoteConnector} (hremote : isLocalHost host = false)
    (made : s.pool.Makes k) {text : String} {input : Option ByteArray}
    (h : s.Orders filename text input) :
    (k.runSilently text input).Obeys (s.Allows host filename) fun _ _ => True := by
  have hrun : (k.run text input).Obeys (s.Allows host filename) fun _ _ => True :=
    (exec_obeys hremote made h).bind fun _ => trivial
  exact hrun.bind fun result => by cases result <;> trivial

/-- An action on what a connector holds changes nothing else. -/
theorem inside_obeys {k : RemoteConnector} {p : Request → Prop} {x : Action Wire α}
    (h : x.Obeys p fun _ _ => True) :
    (x.inside (PoolState.wire k.number)).Obeys p (Connector.remote k).Changes :=
  h.inside _ fun _ w _ => ⟨w, rfl⟩

/-- **Asking a connector for the version** is allowed. -/
theorem version_obeys {c : Connector} (hc : s.pool.HandsOut host c) :
    c.version.Obeys (s.Allows host filename) c.Changes := by
  cases c with
  | here c =>
    obtain ⟨hlocal, rfl⟩ := hc
    exact LocalConnector.version_obeys (fun _ => trivial) fun _ _ hargv => .inl ⟨hlocal, hargv, rfl⟩
  | remote k =>
    obtain ⟨hremote, entry, number, rfl⟩ := hc
    have hp : Request.AllowsCalls (s.Allows host filename) s.pool.transport := allowsCalls hremote
    exact inside_obeys (RemoteConnector.version_obeys hp.toAllowsOpening (hp.acquire _)
      (hp.release _) (fun _ => ⟨hremote, .version⟩) (allows_execArgs hremote .version))

/-- **Reading the file** is allowed. -/
theorem read_obeys {c : Connector} (hc : s.pool.HandsOut host c) :
    (c.read filename).Obeys (s.Allows host filename) c.Changes := by
  cases c with
  | here c =>
    obtain ⟨hlocal, rfl⟩ := hc
    exact Obeys.bind (obeys_request (.inl ⟨hlocal, rfl⟩)) fun _ => trivial
  | remote k =>
    obtain ⟨hremote, made⟩ := hc
    have hpath : (k.readPath (k.pathOf filename) (.error (.io (k.pathOf filename) .missing))).Obeys
        (s.Allows host filename) fun _ _ => True := by
      refine (exec_obeys hremote made (.read made)).bind fun reply => ?_
      cases reply with
      | error e => trivial
      | ok result =>
        simp only
        split <;> trivial
    exact inside_obeys (hpath.bind fun reply => by cases reply <;> trivial)

/-- **Writing the file** is allowed. -/
theorem write_obeys {c : Connector} (hc : s.pool.HandsOut host c) (content : ByteArray) :
    (c.write filename content).Obeys (s.Allows host filename) c.Changes := by
  cases c with
  | here c =>
    obtain ⟨hlocal, rfl⟩ := hc
    refine Obeys.bind (obeys_request ⟨hlocal, rfl⟩) fun reply => ?_
    cases reply with
    | error => trivial
    | ok => exact Obeys.bind (obeys_request trivial) fun _ => trivial
  | remote k =>
    obtain ⟨hremote, made⟩ := hc
    have horders : s.Orders filename _ _ := .write made content
    have hsent := runSilently_obeys hremote made horders
    refine inside_obeys (hsent.bind fun reply => ?_)
    cases reply with
    | error => trivial
    | ok => exact (obeys_request trivial).bind fun _ => trivial

/-- **Removing the file** is allowed. -/
theorem delete_obeys {c : Connector} (hc : s.pool.HandsOut host c) :
    (c.delete filename).Obeys (s.Allows host filename) c.Changes := by
  cases c with
  | here c =>
    obtain ⟨hlocal, rfl⟩ := hc
    refine Obeys.bind (obeys_request ⟨hlocal, rfl⟩) fun reply => ?_
    cases reply with
    | error => trivial
    | ok => exact Obeys.bind (obeys_request trivial) fun _ => trivial
  | remote k =>
    obtain ⟨hremote, made⟩ := hc
    exact inside_obeys (runSilently_obeys hremote made (.delete made))

/-! ## Services -/

/-- **A service keeps only connectors that its pool makes.** -/
def KeepsOwn (s : Service) (σ : ServiceState) : Prop :=
  s.pool.KeepsOwn σ.pool

/-- **A call stays within what is allowed** if its operation does. -/
theorem call_within {operation : Connector → Action PoolState (Except ConnectorError α)}
    (h : ∀ c, s.pool.HandsOut host c → (operation c).Obeys (s.Allows host filename) c.Changes) :
    (s.call host operation).Within s.KeepsOwn (s.Allows host filename) fun _ => True := by
  have hcall := callWithin_within allowsWorkers allowsCalls h s.pool.settings.commandTimeout
  have hinside : ((s.pool.call host operation).inside poolPart).Within s.KeepsOwn
      (s.Allows host filename) fun _ => True := hcall.inside (fun _ hs => hs) fun _ _ _ hu => hu
  exact hinside.bind fun result _ => by cases result <;> trivial

theorem hostGeneration_within :
    (s.hostGeneration host).Within s.KeepsOwn (s.Allows host filename) fun _ => True := by
  refine within_look.bind fun σ _ => ?_
  cases σ.generations.get? (hostKey host) with
  | some generation => trivial
  | none =>
    have hasked : (s.call host fun c => return .ok (← c.version)).Within s.KeepsOwn
        (s.Allows host filename) fun _ => True :=
      call_within fun c hc => (version_obeys hc).bind fun _ => trivial
    refine hasked.andThen_true fun output => ?_
    have htold : (s.generationOf (hostKey host) output).Obeys (s.Allows host filename)
        fun σ σ' => σ' = σ := generationOf_obeys (fun _ => trivial) (hostKey host) output
    refine (htold.within fun _ _ h hs => h ▸ hs).bind fun generation _ => ?_
    have hremembered : (remember (hostKey host) generation).Within s.KeepsOwn
        (s.Allows host filename) fun _ => True := within_change fun _ hs => ⟨hs, trivial⟩
    exact hremembered.bind fun _ _ => trivial

theorem schemasOf_within (version : Nat) :
    (s.schemasOf version).Within s.KeepsOwn (s.Allows host filename) fun _ => True := by
  unfold schemasOf
  split
  · exact (within_request trivial).bind fun _ _ => trivial
  · have hloaded := s.store.generation_obeys (p := s.Allows host filename) (fun _ => trivial)
      (fun version kind => .inr ⟨version, kind, rfl⟩) trivial trivial version
    have hinside : ((s.store.generation version).inside schemaPart).Obeys (s.Allows host filename)
        fun σ σ' => σ'.pool = σ.pool := hloaded.inside _ fun _ _ _ => rfl
    refine (hinside.within fun σ σ' h hs => ?_).bind fun result _ => by cases result <;> trivial
    rw [KeepsOwn, h]
    exact hs

theorem convert_within (text : String) (kind : Kind) (version : Nat) :
    (s.convert text kind version).Within s.KeepsOwn (s.Allows host filename) fun _ => True :=
  (schemasOf_within version).andThen_true fun _ => trivial

theorem render_within (document : Document) (kind : Kind) (version : Nat) :
    (s.render document kind version).Within s.KeepsOwn (s.Allows host filename) fun _ => True :=
  (schemasOf_within version).andThen_true fun _ => trivial

theorem readText_within :
    (s.readText host filename).Within s.KeepsOwn (s.Allows host filename) fun _ => True := by
  unfold readText
  split
  · trivial
  · exact (call_within fun _ => read_obeys).andThen_true fun _ => trivial

theorem writeText_within (text : String) :
    (s.writeText host filename text).Within s.KeepsOwn (s.Allows host filename)
      fun _ => True := by
  unfold writeText
  split
  · trivial
  · exact (call_within fun _ hc => write_obeys hc _).andThen_true fun _ =>
      (within_request trivial).bind fun _ _ => trivial

/-- **An operation on a file asks for nothing but what is allowed**, whatever others do
meanwhile. -/
theorem FileOperation.within (operation : FileOperation α) :
    (operation.on s host filename).Within s.KeepsOwn (s.Allows host filename) fun _ => True := by
  cases operation with
  | readText => exact readText_within
  | writeText text => exact writeText_within text
  | read =>
    unfold on Service.read
    split
    · trivial
    · exact readText_within.andThen_true fun text =>
        hostGeneration_within.andThen_true fun version =>
          (convert_within text _ version).andThen_true fun _ => trivial
  | write document =>
    unfold on Service.write
    split
    · trivial
    · exact hostGeneration_within.andThen_true fun version =>
        (render_within document _ version).andThen_true writeText_within
  | delete =>
    unfold on Service.delete
    split
    · trivial
    · exact (call_within fun _ => delete_obeys).andThen_true fun _ =>
        (within_request trivial).bind fun _ _ => trivial

/-! ## Services that are asked many things -/

/-- A deed of a service keeps no connectors but those that the service makes. -/
theorem keeps_of_arisesIn {t : List (Deed ServiceState)} {d : Deed ServiceState}
    (h : ArisesIn s t d) : d.Keeps s.KeepsOwn t := by
  cases d with
  | asked | forked => trivial
  | changed σ σ' =>
    intro _ hσ
    cases h with
    | fewer hfewer => exact hσ.of_fewer hfewer
    | @created host entry p u _ _ heq =>
      obtain ⟨hbefore, hafter⟩ := Deed.changed.inj heq
      have hσ : s.pool.KeepsOwn p := hbefore ▸ hσ
      exact (hafter ▸ hσ.create host entry : s.pool.KeepsOwn (poolPart.get σ'))

/-- **Services meet only connectors that they make.** -/
theorem keepsOwn_of_served {answers : Answers} {tasks : List (List Task)}
    {sys : System ServiceState} (hreach : System.Reaches answers (s.served σ tasks) sys)
    (hσ : s.KeepsOwn σ) :
    s.KeepsOwn sys.scene.state ∧ ∀ i, ∀ d ∈ sys.scene.pastOf i, d.Meets s.KeepsOwn := by
  refine hreach.meets (p := fun _ => True) (q := Stays) hσ (fun x hx => ?_) fun σ σ' h hσ => ?_
  · exact ⟨(built_of_mem hx).1.each_arises.mono fun _ _ => keeps_of_arisesIn, (built_of_mem hx).2⟩
  · exact hσ.of_fewer fun _ _ hc => h.kept ▸ hc

/-- The first state of a service keeps no connectors at all. -/
theorem keepsOwn_firstState (registry : Registry) (before : ServiceState) :
    s.KeepsOwn (firstState registry before) :=
  keepsOwn_of_kept_empty rfl

/-- A task that is an operation on the file. -/
def IsOnFile (host filename : String) (task : Task) : Prop :=
  ∃ (α : Type) (operation : FileOperation α), task = operation.task host filename

theorem IsOnFile.within {task : Task} (h : IsOnFile host filename task) :
    (task.action s).Within s.KeepsOwn (s.Allows host filename) fun _ => True := by
  obtain ⟨α, operation, rfl⟩ := h
  have hdone : (operation.on s host filename >>= fun _ => done ()).Within s.KeepsOwn
      (s.Allows host filename) fun _ => True := operation.within.bind fun _ _ => trivial
  cases operation <;> exact hdone

theorem perform_within {list : List Task} (h : ∀ task ∈ list, IsOnFile host filename task) :
    (s.perform list).Within s.KeepsOwn (s.Allows host filename) fun _ => True := by
  induction list with
  | nil => trivial
  | cons task rest ih =>
    obtain ⟨htask, hrest⟩ := List.forall_mem_cons.1 h
    exact htask.within.bind fun _ _ => ih hrest

/-! ## Names -/

/-- **What becomes of the name of a file** that a service is asked for. -/
structure Confines (s : Service) (host filename : String) : Prop where
  /-- It is accepted if it is a name for a file of a kind in a directory. -/
  accepts : ∀ kind, Kind.ofSafeFilename? filename = some kind ↔ Kind.IsNameFor kind filename
  /-- There is only one such kind. -/
  oneKind : ∀ kind kind', Kind.IsNameFor kind filename → Kind.IsNameFor kind' filename →
    kind = kind'
  /-- Otherwise all operations are refused, and nothing is asked for. -/
  refuses : (∀ kind, ¬ Kind.IsNameFor kind filename) → ∀ (α : Type) (operation : FileOperation α),
    operation.on s host filename = done (.error (.invalidFilename filename))
  /-- All operations ask for what is allowed only, in all states whose connectors are made by the
  service. -/
  asks : ∀ (α : Type) (operation : FileOperation α),
    (operation.on s host filename).Within s.KeepsOwn (s.Allows host filename) fun _ => True
  /-- The first state of the service is such a state. -/
  begins : ∀ registry before, s.KeepsOwn (firstState registry before)
  /-- Whatever else the service is asked for at the same time: what a thread does for a task on the
  file is allowed. -/
  acts : ∀ answers σ tasks sys, s.KeepsOwn σ → System.Reaches answers (s.served σ tasks) sys →
    ∀ task y i t u v, IsOnFile host filename task → sys.scene.pastOf i = t ++ u ++ v →
      After (task.action s) u y → ∀ d ∈ u, d.Obeys (s.Allows host filename) fun _ _ => True
  /-- If it is only asked for the file, all that it does is allowed, also what goes on behind calls
  that took too long. -/
  actsAlone : ∀ answers σ tasks sys, s.KeepsOwn σ → System.Reaches answers (s.served σ tasks) sys →
    (∀ list ∈ tasks, ∀ task ∈ list, IsOnFile host filename task) →
      ∀ i, ∀ d ∈ sys.scene.pastOf i, d.Obeys (s.Allows host filename) fun _ _ => True
  /-- The path on this machine leads to the name in the configuration directory. -/
  here : ∀ kind, Kind.IsNameFor kind filename →
    Path.LeadsTo s.pool.here.configDir filename (s.pool.here.pathOf filename)
  /-- So does the path on a remote host. -/
  there : ∀ kind k, Kind.IsNameFor kind filename → s.pool.Makes k →
    Path.LeadsTo s.pool.settings.configDir filename (k.pathOf filename)
  /-- The shell of a remote host reads one command in each text that it is sent, which asks for the
  version, or names the path of the file as one word. -/
  hears : ∀ kind text input, Kind.IsNameFor kind filename → s.Orders filename text input →
    Shell.IsPlain (Text.trim s.pool.settings.privilege).toList →
      '\x00' ∉ s.pool.settings.configDir.toList →
        ∃ heard, Shell.read? text = some heard ∧
          (heard = ⟨Connector.versionCommand, none⟩ ∧ input = none ∨
            CommandOn s.lead (Path.join s.pool.settings.configDir filename) heard input)

/-- **Operations touch the file that is named, in the configuration directory, and no other one**,
whatever the name is. -/
theorem confines (s : Service) (host filename : String) : s.Confines host filename where
  accepts _ := Kind.ofSafeFilename?_eq_some_iff_isNameFor
  oneKind kind kind' h h' := by
    rw [← Kind.ofSafeFilename?_eq_some_iff_isNameFor] at h h'
    exact Option.some.inj (h.symm.trans h')
  refuses h α operation := by
    refine operation.on_of_refused (Option.eq_none_iff_forall_ne_some.2 fun kind hkind => ?_)
    exact h kind (Kind.ofSafeFilename?_eq_some_iff_isNameFor.1 hkind)
  asks α operation := operation.within
  begins := keepsOwn_firstState
  acts answers σ tasks sys hσ hreach task y i t u v htask hpast hafter := by
    have hmet := (keepsOwn_of_served hreach hσ).2 i
    refine htask.within.of_after hafter fun d hd => hmet d ?_
    rw [hpast]
    exact List.mem_append_left _ (List.mem_append_right _ hd)
  actsAlone answers σ tasks sys hσ hreach htasks := by
    refine (hreach.obeys_of_within hσ fun x hx => ?_).2
    obtain ⟨list, hlist, rfl⟩ := List.mem_map.1 hx
    exact perform_within (htasks list hlist)
  here kind h :=
    Path.leadsTo_join _ (Kind.isStep_of_ofSafeFilename?
      (Kind.ofSafeFilename?_eq_some_iff_isNameFor.2 h))
  there kind k h made := by
    rw [RemoteConnector.pathOf, configDir_of_makes made]
    exact Path.leadsTo_join _ (Kind.isStep_of_ofSafeFilename?
      (Kind.ofSafeFilename?_eq_some_iff_isNameFor.2 h))
  hears kind text input h horders hprivilege hdir :=
    horders.exists_command hprivilege (RemoteConnector.nul_notMem_join hdir h.nul)

end NetUnits.Service
