import NetUnits.Proofs.Connector.Undisturbed
import NetUnits.Proofs.Connector.Methods

/-! # Connectors that store files

A connector stores files if a write puts its content into one file and changes no other, a read
gives what is there, and nothing else changes a file. What surroundings reply is all that this
depends on.

* **`Connector.Stores`** — a connector stores files in the worlds of its surroundings;
  **`LocalConnector.stores`** — that of this machine does if the surroundings do;
  **`RemoteConnector.KeepsFiles.stores`** — that of a remote host does if commands on its sessions
  do.
* **`ConnectorPool.of_undisturbed_write`** — a call that writes changes one file and leaves the
  connector ready; **`ConnectorPool.of_undisturbed_read`** — a call that reads then succeeds;
  **`ConnectorPool.of_undisturbed_version`** — one for the version changes no file. -/

namespace NetUnits

open NetUnits.Action

variable {ω : Type} {may : Surroundings ω} {files : ω → String → Option ByteArray}
  {stands : ω → Session → Prop} {w w' : ω}

/-- **The content of a configuration file**, as an operation. -/
def Operation.read (name : String) : Operation ByteArray where
  on := (·.read name)
  obeys := fun c => ((Connector.Method.read name).serves c).obeys

/-- **A new content for a configuration file**, as an operation. -/
def Operation.write (name : String) (content : ByteArray) : Operation Unit where
  on := (·.write name content)
  obeys := fun c => ((Connector.Method.write name content).serves c).obeys

/-- **A request leaves files alone**, whatever the reply is. -/
def Surroundings.Leaves (may : Surroundings ω) (files : ω → String → Option ByteArray)
    (r : Request) : Prop :=
  ∀ w reply w', may r w reply w' → files w' = files w

theorem Action.Undisturbed.files_eq {σ α : Type} {x : Action σ α} {q : σ → σ → Prop} {s s' : σ}
    {t : List (Deed σ)} {a : α} (h : x.Undisturbed may s w t a s' w')
    (hx : x.Obeys (may.Leaves files) q) : files w' = files w :=
  h.keeps (K := fun _ w₁ => files w₁ = files w) hx
    (fun _ _ w₁ reply w₂ hr hreply hw => (hr w₁ reply w₂ hreply).trans hw)
    (fun _ _ _ _ hw => hw) rfl

namespace Connector

/-- The path of a configuration file on the host of a connector. -/
def pathOf : Connector → String → String
  | here c, name => c.pathOf name
  | remote c, name => c.pathOf name

/-- The number of a connector was given out. -/
def HasSlot (s : PoolState) : Connector → Prop
  | here _ => True
  | remote k => k.number < s.slots.length

theorem HasSlot.of_holds {pool : ConnectorPool} {host : String} {s : PoolState} {c : Connector}
    (h : pool.Holds host s c) : c.HasSlot s := by
  cases c with
  | here c => trivial
  | remote k => exact h.2.2

/-- **A connector stores files**, in surroundings that have some files and some sessions that stand
in each of their worlds. -/
structure Stores (may : Surroundings ω) (files : ω → String → Option ByteArray)
    (stands : ω → Session → Prop) (c : Connector) : Prop where
  /-- What is asked for aside changes no file. -/
  aside : ∀ F, may.Spares (files · = F)
  /-- Nor does it end a session. -/
  standing : ∀ session, may.Spares (stands · session)
  /-- Opening a session changes no file. -/
  opening : ∀ s w t r s' w', (ConnectorPool.opening c).Undisturbed may s w t r s' w' →
    files w' = files w
  /-- Nor does asking for the version. -/
  version : ∀ s w t r s' w', c.version.Undisturbed may s w t r s' w' → files w' = files w
  /-- A write that succeeds puts the content into the file and changes no other. A session over
  which it was written stands. -/
  write : ∀ name content, Kind.staysInside name = true →
    ∀ s w t s' w', c.HasSlot s → (c.write name content).Undisturbed may s w t (.ok ()) s' w' →
      files w' = Function.update (files w) (c.pathOf name) (some content) ∧
        ∀ session, ConnectorPool.sessionOf s' c = some session → stands w' session
  /-- A read gives the content of the file, as long as the session stands, and changes none. -/
  read : ∀ name content, Kind.staysInside name = true →
    ∀ s w t r s' w', ConnectorPool.Ready stands s w c → files w (c.pathOf name) = some content →
      (c.read name).Undisturbed may s w t r s' w' → r = .ok content ∧ files w' = files w

/-- What comes before an operation changes no file. -/
theorem Stores.files_eq_of_approached {c : Connector} (hc : c.Stores may files stands)
    (h : ConnectorPool.Approached may c w w') : files w' = files w :=
  h (files · = files w) (hc.aside _)
    (fun s w₁ t r s' w₂ hopening hw => (hc.opening s w₁ t r s' w₂ hopening).trans hw) rfl

end Connector

/-! ## Remote hosts -/

namespace RemoteConnector

variable {k : RemoteConnector} {v v' : Wire} {t : List (Deed Wire)}

/-- A session that is found or opened is held. -/
theorem session_of_undisturbed_ensureConnected {session : Session}
    (h : k.ensureConnected.Undisturbed may v w t (.ok session) v' w') :
    v'.session = some session := by
  obtain ⟨_, _, _, rfl, -, hbody, -⟩ := undisturbed_withLock_iff.1 h
  obtain ⟨_, rfl, hlooked⟩ := undisturbed_look_bind_iff.1 hbody
  cases hsession : v.session with
  | some session' =>
    rw [hsession] at hlooked
    obtain ⟨-, heq, rfl, -⟩ := undisturbed_done_iff.1 hlooked
    rw [hsession, Except.ok.inj heq]
  | none =>
    rw [hsession] at hlooked
    obtain ⟨_, _, reply, _, _, rfl, -, hopened⟩ := undisturbed_bind_iff.1 hlooked
    cases reply with
    | error e => exact nomatch (undisturbed_done_iff.1 hopened).2.1
    | ok session' =>
      obtain ⟨_, _, _, _, _, rfl, hkeep, hdone⟩ := undisturbed_bind_iff.1 hopened
      obtain ⟨rfl, -, rfl, rfl⟩ := undisturbed_change_iff.1 hkeep
      obtain ⟨-, heq, rfl, -⟩ := undisturbed_done_iff.1 hdone
      rw [Except.ok.inj heq]

/-- **A command that was carried out** went over the session that is held then. -/
theorem of_undisturbed_exec {command : String} {bytes : Option ByteArray} {result : CommandResult}
    (h : (k.exec command bytes).Undisturbed may v w t (.ok result) v' w') :
    ∃ session t₁ t₂ w₁, k.ensureConnected.Undisturbed may v w t₁ (.ok session) v' w₁ ∧
      (session.exec command bytes).Undisturbed may v' w₁ t₂ (.ok result) v' w' ∧
        v'.session = some session := by
  obtain ⟨_, -, he⟩ | ⟨_, _, session, v₁, w₁, rfl, hconnect, hrest⟩ := undisturbed_andThen_iff.1 h
  · cases he
  obtain ⟨_, _, reply, _, _, rfl, hexec, hdone⟩ := undisturbed_bind_iff.1 hrest
  obtain rfl := hexec.state_eq (session.exec_obeys (p := fun _ => True) command bytes
    (fun _ => trivial) (fun _ => trivial) fun _ => trivial)
  cases reply with
  | error e =>
    obtain ⟨_, _, _, _, _, rfl, -, hdone⟩ := undisturbed_bind_iff.1 hdone
    exact nomatch (undisturbed_done_iff.1 hdone).2.1
  | ok reply =>
    obtain ⟨rfl, hresult, rfl, rfl⟩ := undisturbed_done_iff.1 hdone
    obtain rfl := Except.ok.inj hresult
    exact ⟨session, _, _, w₁, hconnect, hexec, session_of_undisturbed_ensureConnected hconnect⟩

/-- **A file that was written** went over the session that is held then, by a command that
succeeded; after it only the log is told. -/
theorem of_undisturbed_write {name : String} {content : ByteArray}
    (h : (k.write name content).Undisturbed may v w t (.ok ()) v' w') :
    ∃ session result t₁ t₂ w₁ w₂ e, k.ensureConnected.Undisturbed may v w t₁ (.ok session) v' w₁ ∧
      (session.exec (k.privileged (writeCommand (k.pathOf name))) (some content)).Undisturbed may v'
        w₁ t₂ (.ok result) v' w₂ ∧ result.success = true ∧ v'.session = some session ∧
          may (.event e) w₂ () w' := by
  obtain ⟨_, _, written, _, _, rfl, hwrite, hrest⟩ := undisturbed_bind_iff.1 h
  cases written with
  | error e => exact nomatch (undisturbed_done_iff.1 hrest).2.1
  | ok _ =>
    obtain ⟨_, _, _, _, _, rfl, hevent, hdone⟩ := undisturbed_bind_iff.1 hrest
    obtain ⟨-, rfl, htold⟩ := undisturbed_request_iff.1 hevent
    obtain ⟨-, -, rfl, rfl⟩ := undisturbed_done_iff.1 hdone
    obtain ⟨_, _, ran, _, _, rfl, hrun, hdone⟩ := undisturbed_bind_iff.1 hwrite
    cases ran with
    | error e => exact nomatch (undisturbed_done_iff.1 hdone).2.1
    | ok result =>
      obtain ⟨-, -, rfl, rfl⟩ := undisturbed_done_iff.1 hdone
      obtain ⟨_, _, reply, _, _, rfl, hexec, hdone⟩ := undisturbed_bind_iff.1 hrun
      obtain ⟨-, hchecked, rfl, rfl⟩ := undisturbed_done_iff.1 hdone
      cases reply with
      | error e => cases hchecked
      | ok reply =>
        obtain ⟨session, t₁, t₂, w₁, hconnect, hsent, hsession⟩ := of_undisturbed_exec hexec
        have hsuccess : reply.success = true := by
          by_contra hfailed
          rw [Program.checked, CommandResult.check, if_neg hfailed] at hchecked
          cases hchecked
        exact ⟨session, reply, t₁, t₂, w₁, _, _, hconnect, hsent, hsuccess, hsession, htold⟩

/-- **The host of a connector keeps files**, as commands on sessions see it: what `tee` was given
for a file is what `cat` prints of it. -/
structure KeepsFiles (may : Surroundings ω) (files : ω → String → Option ByteArray)
    (stands : ω → Session → Prop) (k : RemoteConnector) : Prop where
  /-- What is asked for aside changes no file. -/
  aside : ∀ r, r.IsAside → may.Leaves files r
  /-- Nor does it end a session. -/
  standing : ∀ session, may.Spares (stands · session)
  /-- What opens and keeps sessions changes no file. -/
  connect : Request.AllowsConnect (may.Leaves files)
  /-- Nor do commands that print the version or a file. -/
  prints : ∀ command, command = commandLine Connector.versionCommand ∨
    (∃ path, command = k.privileged (readCommand path)) →
      (∀ number, may.Leaves files (.exec number command none)) ∧
        ∀ s : SshSession, may.Leaves files (.run s.program (s.execArgs command) none)
  /-- What `tee` was given is in the file, and no other file is changed. The session stands. -/
  tee : ∀ (session : Session) path content (v : Wire) w t result v' w',
    (session.exec (k.privileged (writeCommand path)) (some content)).Undisturbed may v w t
      (.ok result) v' w' → result.success = true →
        files w' = Function.update (files w) path (some content) ∧ stands w' session
  /-- What is in a file is printed by `cat`, over a session that stands. -/
  cat : ∀ (session : Session) path content (v : Wire) w t reply v' w', stands w session →
    files w path = some content →
      (session.exec (k.privileged (readCommand path)) none).Undisturbed may v w t reply v' w' →
        ∃ result, reply = .ok result ∧ result.success = true ∧ result.output = content

namespace KeepsFiles

section

variable (hk : k.KeepsFiles may files stands)

include hk

theorem ensureConnected_leaves : k.ensureConnected.Obeys (may.Leaves files) fun _ _ => True :=
  ensureConnected_obeys (hk.connect.opening _) (hk.aside (.acquire _) trivial)
    (hk.aside (.release _) trivial)

theorem version_leaves : k.version.Obeys (may.Leaves files) fun _ _ => True := by
  obtain ⟨hexec, hrun⟩ := hk.prints _ (.inl rfl)
  exact version_obeys (hk.connect.opening _) (hk.aside (.acquire _) trivial)
    (hk.aside (.release _) trivial)
    hexec hrun

/-- A file that is there is read over a session that stands. -/
theorem of_undisturbed_read {name : String} {content : ByteArray} {session : Session}
    {result : Except ConnectorError ByteArray} (hsession : v.session = some session)
    (hstands : stands w session) (hstored : files w (k.pathOf name) = some content)
    (h : (k.read name).Undisturbed may v w t result v' w') :
    result = .ok content ∧ files w' = files w := by
  obtain ⟨_, _, output, _, _, rfl, hpath, hdone⟩ := undisturbed_bind_iff.1 h
  obtain ⟨_, _, reply, _, _, rfl, hexec, hchecked⟩ := undisturbed_bind_iff.1 hpath
  obtain ⟨_, hconnect, -⟩ | ⟨_, _, session', _, w₁, rfl, hconnect, hrest⟩ :=
    undisturbed_andThen_iff.1 hexec
  · cases (of_undisturbed_ensureConnected_held hsession hconnect).1
  obtain ⟨hfound, rfl, hspares⟩ := of_undisturbed_ensureConnected_held hsession hconnect
  obtain rfl := Except.ok.inj hfound
  have hfiles : files w₁ = files w := hconnect.files_eq hk.ensureConnected_leaves
  obtain ⟨_, _, printed, _, w₂, rfl, hprinted, hrest⟩ := undisturbed_bind_iff.1 hrest
  obtain ⟨output', rfl, hsuccess, rfl⟩ := hk.cat session' _ content _ _ _ _ _ _
    (hspares _ (hk.standing session') hstands) (hfiles ▸ hstored) hprinted
  obtain ⟨hexec, hrun⟩ := hk.prints _ (.inr ⟨k.pathOf name, rfl⟩)
  have hfiles' : files w₂ = files w₁ := hprinted.files_eq (q := fun _ _ => True) <|
    session'.exec_obeys _ none (fun e => hk.aside (.event e) trivial) hexec hrun
  obtain ⟨rfl, rfl, rfl, rfl⟩ := undisturbed_done_iff.1 hrest
  have hfound : saysMissing output' = false := by rw [saysMissing, hsuccess]; rfl
  simp only [hfound, Bool.false_eq_true, if_false, CommandResult.check, hsuccess, if_true]
    at hchecked
  obtain ⟨rfl, rfl, rfl, rfl⟩ := undisturbed_done_iff.1 hchecked
  obtain ⟨-, rfl, -, rfl⟩ := undisturbed_done_iff.1 hdone
  exact ⟨rfl, hfiles'.trans hfiles⟩

/-- **A connector stores files** if its host keeps them. -/
theorem stores : (Connector.remote k).Stores may files stands where
  aside := fun F r w reply w' hr hreply hw => (hk.aside r hr w reply w' hreply).trans hw
  standing := hk.standing
  opening := by
    intro s w t r s' w' h
    have hconnect := connect_obeys (hk.connect.opening _) (hk.aside (.acquire _) trivial)
      (hk.aside (.release (.session k.number)) trivial)
    exact h.files_eq (q := fun _ _ => True) (hconnect.inside _ fun _ _ _ => trivial)
  version := by
    intro s w t r s' w' h
    exact h.files_eq (q := fun _ _ => True) (hk.version_leaves.inside _ fun _ _ _ => trivial)
  write := by
    intro name content _ s w t s' w' hslot h
    obtain ⟨_, hwire⟩ := ConnectorPool.exists_of_undisturbed_wire hslot h
    obtain ⟨session, result, _, _, w₁, w₂, e, hconnect, hsent, hsuccess, hsession, htold⟩ :=
      of_undisturbed_write hwire
    obtain ⟨hfiles, hstands⟩ := hk.tee _ _ _ _ _ _ _ _ _ hsent hsuccess
    refine ⟨?_, fun session' hsession' => ?_⟩
    · rw [hk.aside (.event e) trivial _ _ _ htold, hfiles,
        hconnect.files_eq hk.ensureConnected_leaves]
      rfl
    · obtain rfl := Option.some.inj (hsession.symm.trans hsession')
      exact hk.standing session (.event e) _ _ _ trivial htold hstands
  read := by
    intro name content _ s w t r s' w' ⟨session, hsession, hstands⟩ hstored h
    have hslot : k.number < s.slots.length := by
      obtain ⟨slot, hslot, -⟩ := Option.bind_eq_some_iff.1 hsession
      exact (List.getElem?_eq_some_iff.1 hslot).1
    obtain ⟨_, hwire⟩ := ConnectorPool.exists_of_undisturbed_wire hslot h
    exact hk.of_undisturbed_read hsession hstands hstored hwire

end

end KeepsFiles

end RemoteConnector

/-! ## This machine -/

/-- **This machine stores files** if its surroundings do: what is saved is there, and what is there
is loaded. -/
theorem LocalConnector.stores (c : LocalConnector)
    (haside : ∀ r, r.IsAside → may.Leaves files r)
    (hstanding : ∀ session, may.Spares (stands · session))
    (hrun : ∀ program args, may.Leaves files (.run program args none))
    (hsave : ∀ path content w w', may (.save path content) w (.ok ()) w' →
      files w' = Function.update (files w) path (some content))
    (hload : ∀ path content w reply w', may (.load path) w reply w' → files w path = some content →
      reply = .ok content) : (Connector.here c).Stores may files stands where
  aside := fun F r w reply w' hr hreply hw => (haside r hr w reply w' hreply).trans hw
  standing := hstanding
  opening := by
    intro s w t r s' w' h
    obtain ⟨-, -, -, rfl⟩ := undisturbed_done_iff.1 h
    rfl
  version := by
    intro s w t r s' w' h
    have hversion : (version : Action PoolState String).Obeys (may.Leaves files) fun _ _ => True :=
      version_obeys (fun e => haside (.event e) trivial) fun program args _ => hrun program args
    exact h.files_eq hversion
  write := by
    intro name content _ s w t s' w' _ h
    refine ⟨?_, nofun⟩
    obtain ⟨_, _, reply, _, w₁, rfl, hrequest, hrest⟩ := undisturbed_bind_iff.1 h
    obtain ⟨rfl, rfl, hsaved⟩ := undisturbed_request_iff.1 hrequest
    cases reply with
    | error fault => exact nomatch (undisturbed_done_iff.1 hrest).2.1
    | ok _ =>
      obtain ⟨_, _, _, _, _, rfl, hevent, hdone⟩ := undisturbed_bind_iff.1 hrest
      obtain ⟨rfl, rfl, htold⟩ := undisturbed_request_iff.1 hevent
      obtain ⟨rfl, -, rfl, rfl⟩ := undisturbed_done_iff.1 hdone
      rw [haside (.event _) trivial _ _ _ htold]
      exact hsave _ content w w₁ hsaved
  read := by
    intro name content _ s w t r s' w' _ hstored h
    obtain ⟨_, _, reply, _, w₁, rfl, hrequest, hdone⟩ := undisturbed_bind_iff.1 h
    obtain ⟨rfl, rfl, hloaded⟩ := undisturbed_request_iff.1 hrequest
    obtain ⟨rfl, rfl, rfl, rfl⟩ := undisturbed_done_iff.1 hdone
    rw [hload _ content w reply w₁ hloaded hstored]
    exact ⟨rfl, haside (.load _) trivial _ _ _ hloaded⟩

/-! ## Calls -/

namespace ConnectorPool

variable {pool : ConnectorPool} {host name : String} {content : ByteArray} {c : Connector}
  {s s' : PoolState} {t : List (Deed PoolState)}

/-- **A call that writes a file** on a host that stores files changes that file only, and leaves the
connector at hand and ready. -/
theorem of_undisturbed_write (hs : s.Numbered)
    (hhanded : pool.handed host s = some c) (hc : c.Stores may files stands)
    (hname : Kind.staysInside name = true)
    (h : (pool.call host (Operation.write name content).on).Undisturbed may s w t (.ok ()) s' w') :
    files w' = Function.update (files w) (c.pathOf name) (some content) ∧
      pool.Holds host s' c ∧ Ready stands s' w' c ∧
        (workerName c).toList.contains '\x00' = false := by
  obtain ⟨_, s₁, w₁, u, s₂, hcarries⟩ := exists_carries hs h
  obtain rfl := Option.some.inj (hhanded.symm.trans hcarries.handed)
  have hbefore := hc.files_eq_of_approached hcarries.approached
  obtain ⟨hwritten, hstands⟩ := hc.write name content hname _ _ _ _ _ (.of_holds hcarries.held)
    hcarries.carried
  refine ⟨hbefore ▸ hwritten, hcarries.holds, ?_, hcarries.named⟩
  cases c with
  | here c => trivial
  | remote k =>
    -- the session over which the file was written is the one that is held
    obtain ⟨_, hwire⟩ := exists_of_undisturbed_wire hcarries.held.2.2 hcarries.carried
    obtain ⟨session, _, _, _, _, _, _, -, -, -, hsession, -⟩ :=
      RemoteConnector.of_undisturbed_write hwire
    have hheld := hcarries.dropped.session? k.number not_false
    exact ⟨session, hheld.trans hsession, hstands session hsession⟩

/-- **A call that reads a file** that is there gives its content, if the connector is at hand and
ready and workers do their work. -/
theorem of_undisturbed_read {result : Except ConnectorError ByteArray}
    (hc : c.Stores may files stands) (hname : Kind.staysInside name = true)
    (hholds : pool.Holds host s c) (hready : Ready stands s w c)
    (hnamed : (workerName c).toList.contains '\x00' = false)
    (hstored : files w (c.pathOf name) = some content)
    (hprompt : ∀ r reply, .asked r reply ∈ t → r.IsPrompt reply)
    (h : (pool.call host (Operation.read name).on).Undisturbed may s w t result s' w') :
    result = .ok content ∧ files w' = files w := by
  obtain ⟨s₁, w₁, u, r, s₂, w₂, hready₁, hspares, hread, hsettled⟩ :=
    of_undisturbed_call_ready hc.standing hholds hready hnamed hprompt h
  have hbefore : files w₁ = files w := hspares (files · = files w) (hc.aside _) rfl
  obtain ⟨hr, hafter⟩ := hc.read name content hname _ _ _ _ _ _ hready₁ (hbefore ▸ hstored) hread
  obtain ⟨hresult, rfl⟩ := hsettled content hr
  exact ⟨hresult, hafter.trans hbefore⟩

/-- Asking for the version hands nothing over. -/
theorem version_avoids (c : Connector) : (Operation.version.on c).Avoids Request.content? := by
  refine Obeys.bind (x := c.version) ?_ fun _ => trivial
  cases c with
  | here c => exact LocalConnector.version_obeys (fun _ => rfl) fun _ _ _ => rfl
  | remote k =>
    have hversion : k.version.Obeys (fun r => r.content? = none) fun _ _ => True :=
      RemoteConnector.version_obeys (Request.allowsConnect_content.opening _) rfl rfl (fun _ => rfl)
        fun _ => rfl
    exact hversion.inside _ fun _ _ _ => trivial

/-- **A call for the version** changes no file and hands nothing over, and the same connector is
handed out afterwards. -/
theorem of_undisturbed_version {output : String} (hs : s.Numbered)
    (hhanded : pool.handed host s = some c) (hc : c.Stores may files stands)
    (h : (pool.call host Operation.version.on).Undisturbed may s w t (.ok output) s' w') :
    files w' = files w ∧ pool.handed host s' = pool.handed host s ∧
      Deed.collect Request.content? t = [] := by
  obtain ⟨_, s₁, w₁, u, s₂, hcarries⟩ := exists_carries hs h
  obtain rfl := Option.some.inj (hhanded.symm.trans hcarries.handed)
  have hbefore := hc.files_eq_of_approached hcarries.approached
  refine ⟨?_, hcarries.holds.handed_eq.trans hcarries.handed.symm, ?_⟩
  · obtain ⟨_, _, _, _, _, rfl, hversion, hdone⟩ := undisturbed_bind_iff.1 hcarries.carried
    obtain ⟨-, -, rfl, rfl⟩ := undisturbed_done_iff.1 hdone
    exact (hc.version _ _ _ _ _ _ hversion).trans hbefore
  · rw [hcarries.content]
    exact (version_avoids c).collect_eq_nil hcarries.carried.run

end ConnectorPool

end NetUnits
