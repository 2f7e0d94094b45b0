import NetUnits.Proofs.Action.Outcome
import NetUnits.Proofs.Host.Entry

/-! # The registry and its file

Nobody but the registry writes its file; a request to write it may fail, and then the file is as it
was.

* **`Registry.answerAt`** — the replies of such surroundings.
* **`Registry.ofFile`** — what the file says; **`Registry.ofFile_textOf`** — hosts that are written.
* **`Registry.outcome_load_iff`** — what loading comes to; **`Registry.outcome_add_iff`**,
  **`Registry.outcome_remove_iff`** — what changes come to: what cannot be written is undone.
* **`Registry.Reached`** — what a registry and its file come to, from loading on, by any calls that
  succeed or fail; **`Registry.agrees_of_reached`** — they stay in step. -/

namespace NetUnits.Registry

open NetUnits.Action

/-! ## The file -/

/-- **The replies of surroundings in which nobody else writes a file.** Their state is the content
of the file, if there is one. What a request reads is what is there, and a request that fails to
write it leaves it alone; other requests may have any reply. -/
def answerAt (path : String) : (r : Request) → StateT (Option ByteArray) SetM r.Reply
  | .isPresent p => fun file => {x | x.2 = file ∧ (p = path → x.1 = file.isSome)}
  | .load p => fun file =>
    {x | x.2 = file ∧ (p = path → x.1 = match file with
      | some content => .ok content
      | none => .error .missing)}
  | .save p content => fun file =>
    {x | p = path ∧ x = (.ok (), some content) ∨
      (p = path → ∃ fault, x.1 = .error fault) ∧ x.2 = file}
  | .append p _ | .remove p => fun file => {x | p = path ∨ x.2 = file}
  | _ => fun file => {x | x.2 = file}

section Requests

variable {file file' : Option ByteArray} {path : String}

theorem mem_answerAt_isPresent {reply : Bool} :
    (reply, file') ∈ ((answerAt path (.isPresent path)).run file).run ↔
      file' = file ∧ reply = file.isSome :=
  ⟨fun h => ⟨h.1, h.2 rfl⟩, fun h => ⟨h.1, fun _ => h.2⟩⟩

theorem mem_answerAt_load {reply : Except Fault ByteArray} :
    (reply, file') ∈ ((answerAt path (.load path)).run file).run ↔
      file' = file ∧ reply = match file with
        | some content => .ok content
        | none => .error .missing :=
  ⟨fun h => ⟨h.1, h.2 rfl⟩, fun h => ⟨h.1, fun _ => h.2⟩⟩

theorem mem_answerAt_save {content : ByteArray} {reply : Except Fault Unit} :
    (reply, file') ∈ ((answerAt path (.save path content)).run file).run ↔
      reply = .ok () ∧ file' = some content ∨ (∃ fault, reply = .error fault) ∧ file' = file := by
  constructor
  · rintro (⟨-, heq⟩ | ⟨hfault, hfile⟩)
    · exact .inl (Prod.mk.inj heq)
    · exact .inr ⟨hfault rfl, hfile⟩
  · rintro (⟨rfl, rfl⟩ | ⟨hfault, rfl⟩)
    · exact .inl ⟨rfl, rfl⟩
    · exact .inr ⟨fun _ => hfault, rfl⟩

theorem mem_answerAt_makeDirs {dir : String} {reply : Except Fault Unit} :
    (reply, file') ∈ ((answerAt path (.makeDirs dir)).run file).run ↔ file' = file :=
  Iff.rfl

variable {σ α : Type} {s s' : σ} {a : α}

/-- A request that does not touch the file leaves it, whatever the reply is. -/
theorem outcome_request_iff {r : Request}
    (hr : ∀ reply file', (reply, file') ∈ ((answerAt path r).run file).run ↔ file' = file)
    {f : r.Reply → Action σ α} :
    Outcome (answerAt path) (request r >>= f) s file a s' file' ↔
      ∃ reply, Outcome (answerAt path) (f reply) s file a s' file' := by
  rw [request, ask_bind, outcome_ask_iff]
  constructor
  · rintro ⟨reply, file₁, hreply, h⟩
    obtain rfl := (hr reply file₁).1 hreply
    exact ⟨reply, h⟩
  · rintro ⟨reply, h⟩
    exact ⟨reply, file, (hr reply file).2 rfl, h⟩

/-- What is said in the log changes nothing. -/
theorem outcome_event_iff {source : EventSource} {level : Level} {message : String}
    {f : Unit → Action σ α} :
    Outcome (answerAt path) (event source level message >>= f) s file a s' file' ↔
      Outcome (answerAt path) (f ()) s file a s' file' :=
  (outcome_request_iff fun _ _ => Iff.rfl).trans ⟨fun ⟨_, h⟩ => h, fun h => ⟨(), h⟩⟩

/-- Taking and giving back a lock changes nothing. -/
theorem outcome_withLock_iff {lock : Lock} {body : Action σ α} :
    Outcome (answerAt path) (withLock lock body) s file a s' file' ↔
      Outcome (answerAt path) body s file a s' file' := by
  have hacquire : ∀ f : Unit → Action σ α,
      Outcome (answerAt path) (request (.acquire lock) >>= f) s file a s' file' ↔
        Outcome (answerAt path) (f ()) s file a s' file' := fun f =>
    (outcome_request_iff fun _ _ => Iff.rfl).trans ⟨fun ⟨_, h⟩ => h, fun h => ⟨(), h⟩⟩
  rw [withLock, hacquire, outcome_bind_iff]
  constructor
  · rintro ⟨b, s₁, file₁, hbody, hrelease⟩
    obtain ⟨_, hdone⟩ := (outcome_request_iff fun _ _ => Iff.rfl).1 hrelease
    obtain ⟨rfl, rfl, rfl⟩ := outcome_done_iff.1 hdone
    exact hbody
  · intro hbody
    exact ⟨a, s', file', hbody, (outcome_request_iff fun _ _ => Iff.rfl).2
      ⟨(), outcome_done_iff.2 ⟨rfl, rfl, rfl⟩⟩⟩

end Requests

/-! ## Loading -/

/-- **What loading gives** for the content of a file. -/
def ofFile (path : String) : Option ByteArray → Except HostError Registry
  | none => .ok { path := path }
  | some content =>
    match Action.textOf (.ok content) with
    | .error fault => .error (.io path fault)
    | .ok text =>
      match entriesOf? text with
      | none => .error (.invalidJson path)
      | some entries => .ok { path := path, hosts := hostsOf entries }

variable {σ : Type} {s s' : σ} {r r' : Registry} {file file' : Option ByteArray}
  {hosts : Dict HostEntry} {path dir : String}

theorem outcome_reportUnusable_iff (entries : List HostEntry) {u : Unit} :
    Outcome (answerAt path) (reportUnusable path entries) s file u s' file' ↔
      s' = s ∧ file' = file := by
  induction entries with
  | nil => simp [reportUnusable]
  | cons e entries ih =>
    rw [reportUnusable]
    cases e.validate with
    | ok => exact ih
    | error => exact outcome_event_iff.trans ih

theorem outcome_ofContent_iff {content : ByteArray} {x : Except HostError Registry} :
    Outcome (answerAt path) (ofContent path (Action.textOf (.ok content))) s file x s' file' ↔
      x = ofFile path (some content) ∧ s' = s ∧ file' = file := by
  rw [ofFile]
  cases Action.textOf (.ok content) with
  | error fault => exact outcome_done_iff
  | ok text =>
    simp only [ofContent]
    cases entriesOf? text with
    | none => exact outcome_done_iff
    | some entries =>
      rw [outcome_bind_iff]
      constructor
      · rintro ⟨_, s₁, file₁, hreport, hdone⟩
        obtain ⟨rfl, rfl⟩ := (outcome_reportUnusable_iff entries).1 hreport
        exact outcome_done_iff.1 hdone
      · rintro ⟨rfl, rfl, rfl⟩
        exact ⟨(), _, _, (outcome_reportUnusable_iff entries).2 ⟨rfl, rfl⟩,
          outcome_done_iff.2 ⟨rfl, rfl, rfl⟩⟩

/-- **Loading reads the file** and changes nothing. -/
theorem outcome_load_iff {x : Except HostError Registry} :
    Outcome (answerAt (Path.join dir filename)) (load dir) s file x s' file' ↔
      x = ofFile (Path.join dir filename) file ∧ s' = s ∧ file' = file := by
  generalize hpath : Path.join dir filename = path
  rw [load, hpath, request, ask_bind, outcome_ask_iff]
  cases file with
  | none =>
    constructor
    · rintro ⟨_, _, hpresent, h⟩
      obtain ⟨rfl, rfl⟩ := mem_answerAt_isPresent.1 hpresent
      exact outcome_done_iff.1 (outcome_event_iff.1 h)
    · intro h
      exact ⟨false, none, mem_answerAt_isPresent.2 ⟨rfl, rfl⟩,
        outcome_event_iff.2 (outcome_done_iff.2 h)⟩
  | some content =>
    constructor
    · rintro ⟨_, _, hpresent, h⟩
      obtain ⟨rfl, rfl⟩ := mem_answerAt_isPresent.1 hpresent
      obtain ⟨_, _, hload, h⟩ := outcome_ask_iff.1 h
      obtain ⟨rfl, rfl⟩ := mem_answerAt_load.1 hload
      exact outcome_ofContent_iff.1 h
    · intro h
      exact ⟨true, some content, mem_answerAt_isPresent.2 ⟨rfl, rfl⟩, outcome_ask_iff.2
        ⟨.ok content, some content, mem_answerAt_load.2 ⟨rfl, rfl⟩, outcome_ofContent_iff.2 h⟩⟩

/-- What is loaded is sound, whatever the file says. -/
theorem sound_of_ofFile (h : ofFile path file = .ok r) : r.path = path ∧ Sound r.hosts := by
  unfold ofFile at h
  split at h
  · obtain rfl := Except.ok.inj h
    exact ⟨rfl, sound_empty⟩
  · split at h
    · exact nomatch h
    · split at h
      · exact nomatch h
      · rename_i entries hentries
        obtain rfl := Except.ok.inj h
        exact ⟨rfl, sound_hostsOf (port_le_of_entriesOf? hentries)⟩

/-- **Sound hosts that are written are loaded again.** -/
theorem ofFile_textOf (h : Sound hosts) :
    ofFile path (some (Text.bytesOf (textOf hosts))) = .ok { path := path, hosts := hosts } := by
  have hports : ∀ e ∈ hosts.values, e.port ≤ Text.maxNat16 := by
    intro e he
    obtain ⟨name, hname⟩ := Dict.mem_values_iff.1 he
    exact h.port name e hname
  rw [ofFile, textOf_bytesOf]
  simp only [entriesOf?_textOf hports, hostsOf_values h]

/-! ## Changes -/

section Changes

variable {α : Type} {a : α}

/-- Hosts are written to the file, or nothing is. -/
theorem outcome_persist_iff {x : Except HostError Unit} :
    Outcome (answerAt r.path) persist r file x r' file' ↔
      r' = r ∧ (x = .ok () ∧ file' = some (Text.bytesOf (textOf r.hosts)) ∨
        (∃ fault, x = .error (.io r.path fault)) ∧ file' = file) := by
  rw [persist, outcome_look_bind_iff, outcome_request_iff fun _ _ => mem_answerAt_makeDirs]
  constructor
  · rintro ⟨made, hmade⟩
    cases made with
    | error fault =>
      obtain ⟨rfl, rfl, rfl⟩ := outcome_done_iff.1 hmade
      exact ⟨rfl, .inr ⟨⟨fault, rfl⟩, rfl⟩⟩
    | ok =>
      obtain ⟨saved, file₁, hsave, hrest⟩ := outcome_ask_iff.1 hmade
      rcases mem_answerAt_save.1 hsave with ⟨rfl, rfl⟩ | ⟨⟨fault, rfl⟩, rfl⟩
      · obtain ⟨rfl, rfl, rfl⟩ := outcome_done_iff.1 hrest
        exact ⟨rfl, .inl ⟨rfl, rfl⟩⟩
      · obtain ⟨rfl, rfl, rfl⟩ := outcome_done_iff.1 hrest
        exact ⟨rfl, .inr ⟨⟨fault, rfl⟩, rfl⟩⟩
  · rintro ⟨rfl, ⟨rfl, rfl⟩ | ⟨⟨fault, rfl⟩, rfl⟩⟩
    · exact ⟨.ok (), outcome_ask_iff.2 ⟨.ok (), _, mem_answerAt_save.2 (.inl ⟨rfl, rfl⟩),
        outcome_done_iff.2 ⟨rfl, rfl, rfl⟩⟩⟩
    · exact ⟨.error fault, outcome_done_iff.2 ⟨rfl, rfl, rfl⟩⟩

/-- What follows goes on from the hosts that were written, or from a fault. -/
theorem outcome_persist_bind_iff {f : Except HostError Unit → Action Registry α}
    (hpath : r.path = path) :
    Outcome (answerAt path) (persist >>= f) r file a r' file' ↔
      Outcome (answerAt path) (f (.ok ())) r (some (Text.bytesOf (textOf r.hosts))) a r' file' ∨
        ∃ fault, Outcome (answerAt path) (f (.error (.io path fault))) r file a r' file' := by
  subst hpath
  rw [outcome_bind_iff]
  constructor
  · rintro ⟨written, _, _, hpersist, hrest⟩
    obtain ⟨rfl, ⟨rfl, rfl⟩ | ⟨⟨fault, rfl⟩, rfl⟩⟩ := outcome_persist_iff.1 hpersist
    · exact .inl hrest
    · exact .inr ⟨fault, hrest⟩
  · rintro (hrest | ⟨fault, hrest⟩)
    · exact ⟨.ok (), r, _, outcome_persist_iff.2 ⟨rfl, .inl ⟨rfl, rfl⟩⟩, hrest⟩
    · exact ⟨_, r, file, outcome_persist_iff.2 ⟨rfl, .inr ⟨⟨fault, rfl⟩, rfl⟩⟩, hrest⟩

/-- **Undoing an addition** brings back the hosts of before: the entry that was replaced is held
again, and where none was replaced the new one is taken away. -/
theorem outcome_putBack_bind_iff {e : HostEntry} {f : Option HostEntry → Action Registry α} :
    Outcome (answerAt path) (putBack e.name (r.hosts.get? e.name) >>= f)
        { r with hosts := r.hosts.insert e.name e } file a r' file' ↔
      Outcome (answerAt path) (f (some e)) r file a r' file' := by
  have hheld : (r.hosts.insert e.name e).get? e.name = some e := by simp
  cases hprevious : r.hosts.get? e.name with
  | some old =>
    rw [putBack, put, outcome_change_bind_iff]
    simp only [hheld, Dict.insert_insert_of_get? hprevious]
  | none =>
    rw [putBack, take, outcome_change_bind_iff]
    simp only [hheld, Dict.erase_insert_of_get?_none hprevious]

/-- **A host is added and written**, or nothing changes. -/
theorem outcome_add_iff {e : HostEntry} {x : Except HostError Unit} :
    Outcome (answerAt r.path) (add e) r file x r' file' ↔
      match e.validate with
      | .error why => x = .error why ∧ r' = r ∧ file' = file
      | .ok _ =>
        x = .ok () ∧ r' = { r with hosts := r.hosts.insert e.name e } ∧
            file' = some (Text.bytesOf (textOf (r.hosts.insert e.name e))) ∨
          (∃ fault, x = .error (.io r.path fault)) ∧ r' = r ∧ file' = file := by
  unfold add
  cases e.validate with
  | error why => exact outcome_done_iff
  | ok =>
    simp only
    rw [outcome_withLock_iff, addition, put, outcome_change_bind_iff,
      outcome_persist_bind_iff (r := { r with hosts := r.hosts.insert e.name e }) rfl,
      ← exists_and_right]
    exact or_congr (outcome_event_iff.trans outcome_done_iff)
      (exists_congr fun _ => outcome_putBack_bind_iff.trans outcome_done_iff)

/-- **A host is removed and the others are written**, or nothing changes. -/
theorem outcome_remove_iff {name : String} {x : Except HostError Bool} :
    Outcome (answerAt r.path) (remove name) r file x r' file' ↔
      match r.hosts.get? name with
      | none => x = .ok false ∧ r' = r ∧ file' = file
      | some _ =>
        x = .ok true ∧ r' = { r with hosts := r.hosts.erase name } ∧
            file' = some (Text.bytesOf (textOf (r.hosts.erase name))) ∨
          (∃ fault, x = .error (.io r.path fault)) ∧ r' = r ∧ file' = file := by
  rw [remove, outcome_withLock_iff, removal, take, outcome_change_bind_iff]
  cases hremoved : r.hosts.get? name with
  | none =>
    simp only [Dict.erase_of_get?_none hremoved]
    exact outcome_done_iff
  | some removed =>
    have hundo : ∀ f : Option HostEntry → Action Registry (Except HostError Bool),
        Outcome (answerAt r.path) (put name removed >>= f)
            { r with hosts := r.hosts.erase name } file x r' file' ↔
          Outcome (answerAt r.path) (f none) r file x r' file' := fun f => by
      rw [put, outcome_change_bind_iff]
      simp only [Dict.get?_erase, if_pos, Dict.insert_erase_of_get? hremoved]
    simp only
    rw [outcome_persist_bind_iff (r := { r with hosts := r.hosts.erase name }) rfl,
      ← exists_and_right]
    exact or_congr (outcome_event_iff.trans outcome_done_iff)
      (exists_congr fun _ => (hundo _).trans outcome_done_iff)

end Changes

/-! ## Look-ups -/

theorem outcome_get {name : String} {x : Option HostEntry}
    (h : Outcome (answerAt path) (get name) r file x r' file') :
    x = r.hosts.get? name ∧ r' = r ∧ file' = file := by
  rw [get, outcome_withLock_iff, outcome_look_bind_iff] at h
  exact outcome_done_iff.1 h

theorem outcome_list {x : List HostEntry}
    (h : Outcome (answerAt path) list r file x r' file') :
    x = r.hosts.values ∧ r' = r ∧ file' = file := by
  rw [list, outcome_withLock_iff, outcome_look_bind_iff] at h
  exact outcome_done_iff.1 h

/-! ## Calls in any order -/

/-- **A call of the registry.** -/
inductive Call where
  /-- A host is added, or replaced. The port of a host is a number of 16 bits. -/
  | add (e : HostEntry) (port : e.port ≤ Text.maxNat16)
  /-- A host is removed. -/
  | remove (name : String)
  /-- A host is looked up. -/
  | get (name : String)
  /-- All hosts are listed. -/
  | list

namespace Call

/-- What a call gives. -/
def Result : Call → Type
  | add _ _ => Except HostError Unit
  | remove _ => Except HostError Bool
  | get _ => Option HostEntry
  | list => List HostEntry

/-- What a call does. -/
def action : (call : Call) → Action Registry call.Result
  | add e _ => Registry.add e
  | remove name => Registry.remove name
  | get name => Registry.get name
  | list => Registry.list

/-- Whether a call has ended with an error. -/
def Failed : (call : Call) → call.Result → Prop
  | add _ _, result => ∃ why, result = .error why
  | remove _, result => ∃ why, result = .error why
  | get _, _ | list, _ => False

end Call

/-- **What a registry and its file come to**: it is loaded from its directory, and then any calls
succeed or fail. -/
inductive Reached (dir : String) : Registry → Option ByteArray → Prop where
  /-- The registry is loaded, from whatever the file says. -/
  | loaded {file file' : Option ByteArray} {r : Registry}
      (outcome : Outcome (answerAt (Path.join dir filename)) (load dir) () file (.ok r) () file') :
      Reached dir r file'
  /-- A call comes to an end. -/
  | called {file file' : Option ByteArray} {r r' : Registry} (before : Reached dir r file)
      (call : Call) {result : call.Result}
      (outcome : Outcome (answerAt (Path.join dir filename)) call.action r file result r' file') :
      Reached dir r' file'

/-- A call leaves all as it was, or it writes sound hosts. -/
theorem outcome_call {call : Call} {result : call.Result} (hsound : Sound r.hosts)
    (h : Outcome (answerAt r.path) call.action r file result r' file') :
    r' = r ∧ file' = file ∨
      ¬ call.Failed result ∧ ∃ hosts, Sound hosts ∧ r' = { r with hosts } ∧
        file' = some (Text.bytesOf (textOf hosts)) := by
  cases call with
  | add e port =>
    have h := outcome_add_iff.1 h
    split at h
    · exact .inl h.2
    · rename_i hvalid
      obtain ⟨rfl, hr, hfile⟩ | ⟨-, hr, hfile⟩ := h
      · exact .inr ⟨nofun, _, hsound.insert hvalid port, hr, hfile⟩
      · exact .inl ⟨hr, hfile⟩
  | remove name =>
    have h := outcome_remove_iff.1 h
    split at h
    · exact .inl h.2
    · obtain ⟨rfl, hr, hfile⟩ | ⟨-, hr, hfile⟩ := h
      · exact .inr ⟨nofun, _, hsound.erase name, hr, hfile⟩
      · exact .inl ⟨hr, hfile⟩
  | get name => exact .inl (outcome_get h).2
  | list => exact .inl (outcome_list h).2

/-- **Registry and file stay in step**: what is held is sound, and it is what would be loaded. -/
theorem Reached.inStep (h : Reached dir r file) :
    ofFile (Path.join dir filename) file = .ok r ∧ r.path = Path.join dir filename ∧
      Sound r.hosts := by
  induction h with
  | loaded outcome =>
    obtain ⟨hloaded, -, rfl⟩ := outcome_load_iff.1 outcome
    exact ⟨hloaded.symm, sound_of_ofFile hloaded.symm⟩
  | called before call outcome ih =>
    obtain ⟨hloaded, hpath, hsound⟩ := ih
    rw [← hpath] at outcome
    rcases outcome_call hsound outcome with ⟨rfl, rfl⟩ | ⟨-, hosts, hhosts, rfl, rfl⟩
    · exact ⟨hloaded, hpath, hsound⟩
    · refine ⟨?_, hpath, hhosts⟩
      rw [ofFile_textOf hhosts, ← hpath]

/-- **A registry agrees with the file in its directory.** -/
structure Agrees (dir : String) (r : Registry) (file : Option ByteArray) : Prop where
  /-- Loading gives what is held. -/
  loads : ∀ x file',
    Outcome (answerAt (Path.join dir filename)) (load dir) () file x () file' ↔
      x = .ok r ∧ file' = file
  /-- Every host can be used, stands under its own name, and is none that means this machine. -/
  hosts : ∀ name e, r.hosts.get? name = some e →
    e.name = name ∧ e.validate = .ok () ∧ isLocalHost e.name = false
  /-- Hosts are listed with strictly ascending names. -/
  lists : ∀ es r' file',
    Outcome (answerAt (Path.join dir filename)) list r file es r' file' →
      es = r.hosts.values ∧ es.Pairwise (·.name < ·.name)
  /-- A call that fails leaves what is held and the file as they were. -/
  fails : ∀ (call : Call) (result : call.Result) r' file',
    Outcome (answerAt (Path.join dir filename)) call.action r file result r' file' →
      call.Failed result → r' = r ∧ file' = file

/-- **Registry and file agree after every call**, from loading on. -/
theorem agrees_of_reached (h : Reached dir r file) : Agrees dir r file := by
  obtain ⟨hfile, hpath, hsound⟩ := h.inStep
  constructor
  case loads =>
    intro x file'
    rw [outcome_load_iff, hfile]
    simp
  case hosts =>
    intro name e hget
    have hvalid := hsound.valid name e hget
    exact ⟨hsound.named name e hget, hvalid, HostEntry.isLocalHost_of_validate hvalid⟩
  case lists =>
    intro es r' file' hlist
    obtain ⟨rfl, -, -⟩ := outcome_list hlist
    exact ⟨rfl, hsound.pairwise_values⟩
  case fails =>
    intro call result r' file' hcall hfailed
    rw [← hpath] at hcall
    rcases outcome_call hsound hcall with hsame | ⟨hok, -⟩
    · exact hsame
    · exact absurd hfailed hok

/-- A registry without a file: a host is added and written. Then its new entry, another host and
its removal are not written, and each time the registry is as the file says. In the end the host is
removed, and removing it once more finds none. -/
theorem agrees_of_reached_undone :
    let dir := "/etc/units"
    let router : HostEntry := { name := "router", address := "192.0.2.1", user := "admin" }
    let moved : HostEntry := { router with address := "192.0.2.2" }
    let lab : HostEntry := { router with name := "lab" }
    let empty : Registry := { path := Path.join dir filename }
    let held : Registry := { empty with hosts := Dict.insert ∅ router.name router }
    let file (r : Registry) := some (Text.bytesOf (textOf r.hosts))
    let Ends (call : Call) := Outcome (answerAt empty.path) call.action
    (Ends (.add router (by decide)) empty none (.ok ()) held (file held) ∧
        Ends (.add moved (by decide)) held (file held) (.error (.io empty.path .denied)) held
          (file held) ∧
        Ends (.add lab (by decide)) held (file held) (.error (.io empty.path .denied)) held
          (file held) ∧
        Ends (.remove router.name) held (file held) (.error (.io empty.path .denied)) held
          (file held) ∧
        Ends (.remove router.name) held (file held) (.ok true) empty (file empty) ∧
        Ends (.remove router.name) empty (file empty) (.ok false) empty (file empty)) ∧
      Agrees dir held (file held) ∧ Agrees dir empty (file empty) := by
  intro dir router moved lab empty held file Ends
  have hrouter : router.validate = .ok () := by decide
  have hmoved : moved.validate = .ok () := by decide
  have hlab : lab.validate = .ok () := by decide
  have hheld : held.hosts.get? router.name = some router := by simp [held]
  have herased : held.hosts.erase router.name = ∅ := Dict.erase_insert_of_get?_none rfl
  have hadd : Ends (.add router (by decide)) empty none (.ok ()) held (file held) := by
    refine (outcome_add_iff (r := empty)).2 ?_
    rw [hrouter]
    exact .inl ⟨rfl, rfl, rfl⟩
  have hreplace : Ends (.add moved (by decide)) held (file held)
      (.error (.io empty.path .denied)) held (file held) := by
    refine (outcome_add_iff (r := held)).2 ?_
    rw [hmoved]
    exact .inr ⟨⟨_, rfl⟩, rfl, rfl⟩
  have hsecond : Ends (.add lab (by decide)) held (file held)
      (.error (.io empty.path .denied)) held (file held) := by
    refine (outcome_add_iff (r := held)).2 ?_
    rw [hlab]
    exact .inr ⟨⟨_, rfl⟩, rfl, rfl⟩
  have hremoval : Ends (.remove router.name) held (file held)
      (.error (.io empty.path .denied)) held (file held) := by
    refine (outcome_remove_iff (r := held)).2 ?_
    rw [hheld]
    exact .inr ⟨⟨_, rfl⟩, rfl, rfl⟩
  have hremove : Ends (.remove router.name) held (file held) (.ok true) empty (file empty) := by
    refine (outcome_remove_iff (r := held)).2 ?_
    rw [hheld, herased]
    exact .inl ⟨rfl, rfl, rfl⟩
  have habsent : Ends (.remove router.name) empty (file empty) (.ok false) empty (file empty) :=
    (outcome_remove_iff (r := empty)).2 ⟨rfl, rfl, rfl⟩
  have hloaded : Reached dir empty none := .loaded (outcome_load_iff.2 ⟨rfl, rfl, rfl⟩)
  have hreached : Reached dir held (file held) :=
    (((hloaded.called _ hadd).called _ hreplace).called _ hsecond).called _ hremoval
  exact ⟨⟨hadd, hreplace, hsecond, hremoval, hremove, habsent⟩, agrees_of_reached hreached,
    agrees_of_reached ((hreached.called _ hremove).called _ habsent)⟩

end NetUnits.Registry
