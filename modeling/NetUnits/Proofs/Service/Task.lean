import NetUnits.CommandLine.Execution
import NetUnits.Proofs.Connector.Methods

/-! # What services are asked to do

All operations of a service, and the commands on its registry of hosts, do only a few things in
turn: they call an operation on a connector, find out the generation for a host, load schemas,
change the registry, or forget a host.

* **`Service.Call`** — what services call on connectors, as data; **`Service.Call.hands`** — which
  names of files are handed over.
* **`Service.Task`** — what a service is asked to do; **`Service.perform`** — one task after the
  other.
* **`Service.Parts`** — a property of what tasks are made of; **`Service.Parts.task`** — it is one
  of all tasks.
* **`Service.Built`** — what tasks are made of; **`Service.perform_built`** — all of them. -/

namespace NetUnits

open NetUnits.Action

namespace Service

/-! ## Calls -/

/-- **What a service calls on connectors.** The names of single files are accepted. -/
inductive Call : Type → Type where
  /-- What the version command prints. -/
  | version : Call String
  /-- The files of a kind, with their contents. -/
  | files (kind : Kind) : Call (List (String × Except ConnectorError ByteArray))
  /-- The content of a file. -/
  | read (name : String) (accepted : (Kind.ofSafeFilename? name).isSome) : Call ByteArray
  /-- A new content for a file. -/
  | write (name : String) (accepted : (Kind.ofSafeFilename? name).isSome) (content : ByteArray) :
      Call Unit
  /-- No file any more. -/
  | delete (name : String) (accepted : (Kind.ofSafeFilename? name).isSome) : Call Unit
  /-- The host uses its configuration. -/
  | apply (devices : List String) : Call Unit
  /-- The links. -/
  | links : Call (List Link)
  /-- The text of the global configuration. -/
  | readGlobal : Call String
  /-- A new text for the global configuration. -/
  | writeGlobal (text : String) : Call Unit
  /-- The host reloads its configuration. -/
  | reload : Call String
  /-- The output of a command. -/
  | outputOf (argv : List String) : Call String

/-- A call as an operation on a connector. -/
def Call.on {α : Type} : Call α → Connector → Action PoolState (Except ConnectorError α)
  | version, c => do return .ok (← c.version)
  | files kind, c => readAll kind c
  | read name _, c => c.read name
  | write name _ content, c => c.write name content
  | delete name _, c => c.delete name
  | apply devices, c => c.apply devices
  | links, c => c.links
  | readGlobal, c => c.readGlobal
  | writeGlobal text, c => c.writeGlobal text
  | reload, c => c.reload
  | outputOf argv, c => c.outputOf argv

section Calls

variable {α : Type} {c : Connector} {rely : List DirEntry → Prop} {ok : String → Prop}

theorem readEach_hands {names : List String} (h : ∀ name ∈ names, ok name) :
    c.Hands rely ok (readEach c names) := by
  induction names with
  | nil => exact .done _
  | cons name rest ih =>
    obtain ⟨hname, hrest⟩ := List.forall_mem_cons.1 h
    refine .ask (.read name) (fun _ hmem => ?_) fun _ _ => (ih hrest).bind fun _ => .done _
    obtain rfl := Option.some.inj hmem
    exact hname

/-- **Calls only ask the connector**, and hand it names that are accepted or listed. -/
theorem Call.hands (hlisted : ∀ listed, rely listed → ∀ kind, ∀ name ∈ namesOf kind listed, ok name)
    (haccepted : ∀ name, (Kind.ofSafeFilename? name).isSome → ok name) (call : Call α) :
    c.Hands rely ok (call.on c) := by
  have hnamed : ∀ {name : String}, (Kind.ofSafeFilename? name).isSome →
      ∀ name' ∈ some name, ok name' := fun h name' hmem =>
    Option.some.inj hmem ▸ haccepted _ h
  cases call with
  | version => exact .ask .version nofun fun _ _ => .done _
  | files kind =>
    refine .ask .entries nofun fun reply hreply => ?_
    cases reply with
    | error e => exact .done _
    | ok listed =>
      exact (readEach_hands (hlisted listed hreply kind)).bind fun _ => .done _
  | read name accepted => exact Connector.Method.hands (m := .read name) (hnamed accepted)
  | write name accepted content =>
    exact Connector.Method.hands (m := .write name content) (hnamed accepted)
  | delete name accepted => exact Connector.Method.hands (m := .delete name) (hnamed accepted)
  | apply devices => exact Connector.Method.hands (m := .apply devices) nofun
  | links => exact Connector.Method.hands (m := .links) nofun
  | readGlobal => exact Connector.Method.hands (m := .readGlobal) nofun
  | writeGlobal text => exact Connector.Method.hands (m := .writeGlobal text) nofun
  | reload => exact Connector.Method.hands (m := .reload) nofun
  | outputOf argv => exact Connector.Method.hands (m := .outputOf argv) nofun

theorem Call.serves (call : Call α) (c : Connector) : c.Serves (call.on c) := by
  have hands : c.Hands (fun _ => True) (fun _ => True) (call.on c) :=
    call.hands (fun _ _ _ _ _ => trivial) fun _ _ => trivial
  exact hands.serves

end Calls

/-! ## Tasks -/

/-- **What a service is asked to do.** -/
inductive Task where
  /-- The generation for a host. -/
  | generation (host : String)
  /-- The files of a kind on a host. -/
  | list (host : String) (kind : Kind) (criteria : Option MatchCriteria)
  /-- The text of a file. -/
  | readText (host filename : String)
  /-- A new text for a file. -/
  | writeText (host filename text : String)
  /-- The document of a file. -/
  | read (host filename : String)
  /-- A new document for a file. -/
  | write (host filename : String) (document : Document)
  /-- No file any more. -/
  | delete (host filename : String)
  /-- A host uses its configuration. -/
  | apply (host : String) (devices : List String)
  /-- The links of a host. -/
  | links (host : String)
  /-- The text of the global configuration. -/
  | global (host : String)
  /-- The global configuration as a document. -/
  | globalDocument (host : String)
  /-- A new text for the global configuration. -/
  | setGlobal (host text : String)
  /-- A host reloads its configuration. -/
  | reload (host : String)
  /-- The routing tables. -/
  | routes (host : String)
  /-- The routing rules. -/
  | rules (host : String)
  /-- The newest lines of the journal. -/
  | logs (host : String)
  /-- The document of a text. -/
  | convert (text : String) (kind : Kind) (version : Nat)
  /-- The text of a document. -/
  | render (document : Document) (kind : Kind) (version : Nat)
  /-- A host is forgotten. -/
  | invalidate (host : String)
  /-- A command on the registered hosts. -/
  | hosts (command : CommandLine.HostsCommand)

/-- **The thread of a task.** -/
def Task.action (s : Service) : Task → Action ServiceState Unit
  | generation host => s.hostGeneration host >>= fun _ => done ()
  | list host kind criteria => s.list host kind criteria >>= fun _ => done ()
  | readText host filename => s.readText host filename >>= fun _ => done ()
  | writeText host filename text => s.writeText host filename text >>= fun _ => done ()
  | read host filename => s.read host filename >>= fun _ => done ()
  | write host filename document => s.write host filename document >>= fun _ => done ()
  | delete host filename => s.delete host filename >>= fun _ => done ()
  | apply host devices => s.apply host devices >>= fun _ => done ()
  | links host => s.links host >>= fun _ => done ()
  | global host => s.global host >>= fun _ => done ()
  | globalDocument host => s.globalDocument host >>= fun _ => done ()
  | setGlobal host text => s.setGlobal host text >>= fun _ => done ()
  | reload host => s.reload host >>= fun _ => done ()
  | routes host => s.routes host >>= fun _ => done ()
  | rules host => s.rules host >>= fun _ => done ()
  | logs host => s.logs host >>= fun _ => done ()
  | convert text kind version => s.convert text kind version >>= fun _ => done ()
  | render document kind version => s.render document kind version >>= fun _ => done ()
  | invalidate host => Service.invalidate host
  | hosts command => command.execute >>= fun _ => done ()

/-- **One task after the other.** -/
def perform (s : Service) : List Task → Action ServiceState Unit
  | [] => done ()
  | task :: rest => task.action s >>= fun _ => perform s rest

theorem perform_append (s : Service) (before since : List Task) :
    s.perform (before ++ since) = s.perform before >>= fun _ => s.perform since := by
  induction before with
  | nil => rfl
  | cons task rest ih =>
    rw [List.cons_append, perform, perform, ih, bind_assoc']

/-- The hosts that a task makes the service forget, under the names by which they are
remembered. -/
def Task.Forgets (key : String) : Task → Prop
  | invalidate host => hostKey host = key
  | hosts (.add entry) => hostKey entry.name = key
  | hosts (.remove name) => hostKey name = key
  | _ => False

/-! ## What tasks are made of -/

/-- **An action is made of what services do**, and forgets only some hosts. -/
inductive Built (s : Service) (forgotten : String → Prop) :
    {α : Type} → Action ServiceState α → Prop where
  /-- Nothing is done any more. -/
  | done {α : Type} (a : α) : Built s forgotten (done a)
  /-- A request that has nothing to do with locks. -/
  | ask {α : Type} {r : Request} {k : r.Reply → Action ServiceState α} (request : r.KeepsLocks)
      (rest : ∀ reply, Built s forgotten (k reply)) : Built s forgotten (ask r k)
  /-- An operation on a host. -/
  | call {α β : Type} (host : String) (operation : Operation α)
      (orderly : ∀ c, Orderly [] (operation.on c) [])
      {k : Except ServiceError α → Action ServiceState β}
      (rest : ∀ result, Built s forgotten (k result)) :
      Built s forgotten (s.call host operation.on >>= k)
  /-- The generation for a host. -/
  | generation {α : Type} (host : String) {k : Except ServiceError Nat → Action ServiceState α}
      (rest : ∀ result, Built s forgotten (k result)) :
      Built s forgotten (s.hostGeneration host >>= k)
  /-- The schemas of a generation. -/
  | schemas {α : Type} (version : Nat)
      {k : Except ServiceError Generation → Action ServiceState α}
      (rest : ∀ result, Built s forgotten (k result)) :
      Built s forgotten (s.schemasOf version >>= k)
  /-- The registered hosts. -/
  | registered {α : Type} {k : List HostEntry → Action ServiceState α}
      (rest : ∀ result, Built s forgotten (k result)) :
      Built s forgotten (onRegistry Registry.list >>= k)
  /-- A new entry for a host. -/
  | add {α : Type} (entry : HostEntry) {k : Except HostError Unit → Action ServiceState α}
      (rest : ∀ result, Built s forgotten (k result)) :
      Built s forgotten (onRegistry (Registry.add entry) >>= k)
  /-- No entry for a host any more. -/
  | remove {α : Type} (name : String) {k : Except HostError Bool → Action ServiceState α}
      (rest : ∀ result, Built s forgotten (k result)) :
      Built s forgotten (onRegistry (Registry.remove name) >>= k)
  /-- A host is forgotten. -/
  | invalidate {α : Type} (host : String) (forget : forgotten host)
      {k : Unit → Action ServiceState α} (rest : ∀ result, Built s forgotten (k result)) :
      Built s forgotten (Service.invalidate host >>= k)

namespace Built

variable {s : Service} {forgotten : String → Prop} {α β ε : Type}

theorem bind {x : Action ServiceState α} {f : α → Action ServiceState β}
    (hx : Built s forgotten x) (hf : ∀ a, Built s forgotten (f a)) :
    Built s forgotten (x >>= f) := by
  induction hx with
  | done a => exact hf a
  | ask request _ ih => exact .ask request fun reply => ih reply hf
  | call host operation orderly _ ih =>
    rw [bind_assoc']
    exact .call host operation orderly fun result => ih result hf
  | generation host _ ih =>
    rw [bind_assoc']
    exact .generation host fun result => ih result hf
  | schemas version _ ih =>
    rw [bind_assoc']
    exact .schemas version fun result => ih result hf
  | registered _ ih =>
    rw [bind_assoc']
    exact .registered fun result => ih result hf
  | add entry _ ih =>
    rw [bind_assoc']
    exact .add entry fun result => ih result hf
  | remove name _ ih =>
    rw [bind_assoc']
    exact .remove name fun result => ih result hf
  | invalidate host forget _ ih =>
    rw [bind_assoc']
    exact .invalidate host forget fun result => ih result hf

theorem andThen {x : Action ServiceState (Except ε α)}
    {f : α → Action ServiceState (Except ε β)} (hx : Built s forgotten x)
    (hf : ∀ a, Built s forgotten (f a)) : Built s forgotten (x.andThen f) :=
  hx.bind fun
    | .ok a => hf a
    | .error _ => .done _

/-- What an action that is made of what services do starts, they start. -/
theorem starts {Q : Action ServiceState Unit → Prop} {x : Action ServiceState α}
    (hx : Built s forgotten x)
    (hcall : ∀ {β : Type} host (operation : Operation β), (s.call host operation.on).Starts Q)
    (hschemas : ∀ version, (s.schemasOf version).Starts Q)
    (hregistered : (onRegistry Registry.list).Starts Q)
    (hadd : ∀ entry, (onRegistry (Registry.add entry)).Starts Q)
    (hremove : ∀ name, (onRegistry (Registry.remove name)).Starts Q)
    (hinvalidate : ∀ host,
      ((ConnectorPool.invalidate host).inside ServiceState.poolPart).Starts Q) : x.Starts Q := by
  induction hx with
  | done a => trivial
  | ask _ _ ih => exact ih
  | call host operation _ _ ih => exact (hcall host operation).bind ih
  | schemas version _ ih => exact (hschemas version).bind ih
  | registered _ ih => exact hregistered.bind ih
  | add entry _ ih => exact (hadd entry).bind ih
  | remove name _ ih => exact (hremove name).bind ih
  | invalidate host _ _ ih =>
    exact Starts.bind ((hinvalidate host).bind fun _ => starts_change _) ih
  | generation host _ ih =>
    refine Starts.bind (Starts.bind (x := look) (fun _ => trivial) fun σ => ?_) ih
    split
    · trivial
    · refine (hcall host Operation.version).andThen fun output => ?_
      have htold : (s.generationOf (hostKey host) output).Starts Q := by
        unfold generationOf
        simp only
        split
        · exact (starts_request _).bind fun _ => (starts_request _).bind fun _ => trivial
        · exact (starts_request _).bind fun _ => trivial
      exact htold.bind fun _ => Starts.bind (starts_change _) fun _ => trivial

end Built

/-! ## Parts of tasks -/

/-- **A property of what tasks are made of**, and of all that is made of it. -/
structure Parts (s : Service) (forgotten : String → Prop)
    (U : {α : Type} → Action ServiceState α → Prop) : Prop where
  /-- Nothing is done any more. -/
  done : ∀ {α : Type} (a : α), U (done a)
  /-- One after the other. -/
  bind : ∀ {α β : Type} {x : Action ServiceState α} {f : α → Action ServiceState β},
    U x → (∀ a, U (f a)) → U (x >>= f)
  /-- The log is told something. -/
  event : ∀ source level message, U (Action.event source level message)
  /-- Something is printed. -/
  output : ∀ text, U (Action.request (.output text))
  /-- A call on a host. -/
  call : ∀ {α : Type} host (call : Call α), U (s.call host call.on)
  /-- The generation for a host. -/
  generation : ∀ host, U (s.hostGeneration host)
  /-- The schemas of a generation. -/
  schemas : ∀ version, U (s.schemasOf version)
  /-- The registered hosts. -/
  registered : U (onRegistry Registry.list)
  /-- A new entry for a host. -/
  add : ∀ entry, U (onRegistry (Registry.add entry))
  /-- No entry for a host any more. -/
  remove : ∀ name, U (onRegistry (Registry.remove name))
  /-- A host is forgotten. -/
  invalidate : ∀ host, forgotten host → U (Service.invalidate host)

namespace Parts

variable {s : Service} {forgotten : String → Prop}
  {U : {α : Type} → Action ServiceState α → Prop} {α β ε : Type}

theorem andThen (h : Parts s forgotten U) {x : Action ServiceState (Except ε α)}
    {f : α → Action ServiceState (Except ε β)} (hx : U x) (hf : ∀ a, U (f a)) :
    U (x.andThen f) :=
  h.bind hx fun
    | .ok a => hf a
    | .error _ => h.done _

/-- What is told in the end changes no result. -/
theorem told (h : Parts s forgotten U) (source : EventSource) (level : Level) (message : String)
    (result : α) : U (Action.event source level message >>= fun _ => Action.done result) :=
  h.bind (h.event source level message) fun _ => h.done result

theorem convert (h : Parts s forgotten U) (text : String) (kind : Kind) (version : Nat) :
    U (s.convert text kind version) :=
  h.andThen (h.schemas version) fun _ => h.done _

theorem render (h : Parts s forgotten U) (document : Document) (kind : Kind) (version : Nat) :
    U (s.render document kind version) :=
  h.andThen (h.schemas version) fun _ => h.done _

theorem summaries (h : Parts s forgotten U) (generation : Generation) (kind : Kind)
    (filter : Option MatchCriteria) (contents : List (String × Except ConnectorError ByteArray)) :
    U (s.summaries generation kind filter contents) := by
  induction contents with
  | nil => exact h.done _
  | cons content rest ih =>
    refine h.bind ?_ fun _ => h.bind ih fun _ => h.done _
    cases s.summarized generation kind content.2 with
    | ok document =>
      simp only [summaryOf]
      split <;> exact h.done _
    | error why => exact h.told _ _ _ _

theorem list (h : Parts s forgotten U) (host : String) (kind : Kind)
    (criteria : Option MatchCriteria) : U (s.list host kind criteria) := by
  unfold Service.list
  split
  · refine h.andThen (h.generation host) fun version => h.andThen (h.schemas version)
      fun generation => h.andThen (h.call host (.files kind)) fun contents => ?_
    exact h.bind (h.summaries generation kind _ contents) fun _ => h.told _ _ _ _
  · exact h.done _

/-- An operation on a file is refused for its name, or goes on with a name that is accepted. -/
theorem named (h : Parts s forgotten U) {filename : String}
    {f : Kind → Action ServiceState (Except ServiceError α)}
    (hf : ∀ kind, Kind.ofSafeFilename? filename = some kind → U (f kind)) :
    U (match Kind.ofSafeFilename filename with
      | .error e => Action.done (.error e)
      | .ok kind => f kind) := by
  cases hkind : Kind.ofSafeFilename? filename with
  | none =>
    rw [Kind.ofSafeFilename_of_eq_none hkind]
    exact h.done _
  | some kind =>
    rw [Kind.ofSafeFilename_of_eq_some hkind]
    exact hf kind hkind

theorem readText (h : Parts s forgotten U) (host filename : String) :
    U (s.readText host filename) :=
  h.named fun _ hkind =>
    h.andThen (h.call host (.read filename (Option.isSome_of_mem hkind))) fun _ => h.done _

theorem writeText (h : Parts s forgotten U) (host filename text : String) :
    U (s.writeText host filename text) :=
  h.named fun _ hkind =>
    h.andThen (h.call host (.write filename (Option.isSome_of_mem hkind) (Text.bytesOf text)))
      fun _ => h.told _ _ _ _

theorem read (h : Parts s forgotten U) (host filename : String) : U (s.read host filename) :=
  h.named fun kind _ => h.andThen (h.readText host filename) fun text =>
    h.andThen (h.generation host) fun version =>
      h.andThen (h.convert text kind version) fun _ => h.done _

theorem write (h : Parts s forgotten U) (host filename : String) (document : Document) :
    U (s.write host filename document) :=
  h.named fun kind _ => h.andThen (h.generation host) fun version =>
    h.andThen (h.render document kind version) fun text => h.writeText host filename text

theorem delete (h : Parts s forgotten U) (host filename : String) : U (s.delete host filename) :=
  h.named fun _ hkind =>
    h.andThen (h.call host (.delete filename (Option.isSome_of_mem hkind))) fun _ => h.told _ _ _ _

theorem globalDocument (h : Parts s forgotten U) (host : String) : U (s.globalDocument host) :=
  h.andThen (h.call host .readGlobal) fun text => h.andThen (h.generation host) fun version =>
    h.convert text _ version

theorem setGlobal (h : Parts s forgotten U) (host text : String) : U (s.setGlobal host text) :=
  h.andThen (h.call host (.writeGlobal text)) fun _ => h.told _ _ _ _

theorem ofRegistry (h : Parts s forgotten U) {x : Action Registry (Except HostError α)}
    (hx : U (onRegistry x)) : U (CommandLine.ofRegistry x) :=
  h.bind hx fun reply => by cases reply <;> exact h.done _

/-- **Commands on the registered hosts** forget the hosts that they change. -/
theorem hosts (h : Parts s forgotten U) {command : CommandLine.HostsCommand}
    (hforget : ∀ host, (Task.hosts command).Forgets (hostKey host) → forgotten host) :
    U command.execute := by
  cases command with
  | list => exact h.bind h.registered fun _ => h.bind (h.output _) fun _ => h.done _
  | add entry =>
    exact h.andThen (h.ofRegistry (h.add entry)) fun _ =>
      h.bind (h.invalidate _ (hforget entry.name rfl)) fun _ => h.done _
  | remove name =>
    refine h.andThen (h.ofRegistry (h.remove name)) fun wasThere => ?_
    cases wasThere with
    | true => exact h.bind (h.invalidate _ (hforget name rfl)) fun _ => h.done _
    | false => exact h.done _

/-- **A property of what tasks are made of is one of all tasks** that forget only such hosts. -/
theorem task (h : Parts s forgotten U) {task : Task}
    (hforget : ∀ host, task.Forgets (hostKey host) → forgotten host) : U (task.action s) := by
  cases task with
  | generation host => exact h.bind (h.generation host) fun _ => h.done _
  | list host kind criteria => exact h.bind (h.list host kind criteria) fun _ => h.done _
  | readText host filename => exact h.bind (h.readText host filename) fun _ => h.done _
  | writeText host filename text =>
    exact h.bind (h.writeText host filename text) fun _ => h.done _
  | read host filename => exact h.bind (h.read host filename) fun _ => h.done _
  | write host filename document =>
    exact h.bind (h.write host filename document) fun _ => h.done _
  | delete host filename => exact h.bind (h.delete host filename) fun _ => h.done _
  | apply host devices => exact h.bind (h.call host (.apply devices)) fun _ => h.done _
  | links host => exact h.bind (h.call host .links) fun _ => h.done _
  | global host => exact h.bind (h.call host .readGlobal) fun _ => h.done _
  | globalDocument host => exact h.bind (h.globalDocument host) fun _ => h.done _
  | setGlobal host text => exact h.bind (h.setGlobal host text) fun _ => h.done _
  | reload host => exact h.bind (h.call host .reload) fun _ => h.done _
  | routes host =>
    exact h.bind (h.call host (.outputOf Connector.routesCommand)) fun _ => h.done _
  | rules host => exact h.bind (h.call host (.outputOf Connector.rulesCommand)) fun _ => h.done _
  | logs host => exact h.bind (h.call host (.outputOf Connector.logsCommand)) fun _ => h.done _
  | convert text kind version => exact h.bind (h.convert text kind version) fun _ => h.done _
  | render document kind version =>
    exact h.bind (h.render document kind version) fun _ => h.done _
  | invalidate host => exact h.invalidate host (hforget host rfl)
  | hosts command => exact h.bind (h.hosts hforget) fun _ => h.done _

end Parts

section Built

variable {s : Service} {forgotten : String → Prop}

theorem parts_built : Parts s forgotten (Built s forgotten) where
  done := .done
  bind := Built.bind
  event := fun _ _ _ => .ask (fun _ => rfl) .done
  output := fun _ => .ask (fun _ => rfl) .done
  call := fun host call => bind_done (s.call host call.on) ▸
    .call host ⟨call.on, fun c => (call.serves c).obeys⟩ (fun c => (call.serves c).orderly) .done
  generation := fun host => bind_done (s.hostGeneration host) ▸ .generation host .done
  schemas := fun version => bind_done (s.schemasOf version) ▸ .schemas version .done
  registered := bind_done (onRegistry Registry.list) ▸ .registered .done
  add := fun entry => bind_done (onRegistry (Registry.add entry)) ▸ .add entry .done
  remove := fun name => bind_done (onRegistry (Registry.remove name)) ▸ .remove name .done
  invalidate := fun host hforget =>
    bind_done (Service.invalidate host) ▸ .invalidate host hforget .done

theorem perform_built {tasks : List Task}
    (h : ∀ task ∈ tasks, ∀ host, task.Forgets (hostKey host) → forgotten host) :
    Built s forgotten (s.perform tasks) := by
  induction tasks with
  | nil => exact .done _
  | cons task rest ih =>
    obtain ⟨htask, hrest⟩ := List.forall_mem_cons.1 h
    exact (parts_built.task htask).bind fun _ => ih hrest

end Built

end Service

end NetUnits
