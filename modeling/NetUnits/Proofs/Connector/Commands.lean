import NetUnits.Kind
import NetUnits.Proofs.Connector.Sending

/-! # The commands of connectors

What a remote host is sent and what this machine runs come to the same.

* **`RemoteConnector.read?_privileged`**, **`RemoteConnector.read?_onPath`** and so on — what the
  shell reads in the texts of a connector.
* **`RemoteConnector.Mirrors`** — an operation sends what another one runs on this machine;
  **`RemoteConnector.links_mirrors`** — the gathering of links does.
* **`RemoteConnector.SameCommands`** — what all operations send;
  **`RemoteConnector.sameCommands`** — it holds for every directory, name and device. -/

namespace NetUnits

open NetUnits.Action

namespace RemoteConnector

variable {c : RemoteConnector} {α β : Type}

/-! ## What the shell reads -/

/-- Words that a shell takes as they are are read as they are. -/
theorem read?_commandLine {argv : List String}
    (h : ∀ word ∈ argv, word ≠ "" ∧ ∀ c ∈ word.toList, Shell.isOrdinary c = true)
    (hnamed : argv.head?.any Shell.isCommandName = true) :
    Shell.read? (commandLine argv) = some ⟨argv, none⟩ :=
  Shell.read?_words (List.forall₂_same.2 fun word hword =>
    Shell.yields_of_isOrdinary (h word hword).1 (h word hword).2) hnamed

/-- The words that are put before commands with privileges. -/
def lead (c : RemoteConnector) : List String :=
  Shell.wordsIn c.privilege

theorem read?_privileged (hprivilege : Shell.IsPlain c.privilege.toList) {text : String}
    {command : Shell.Command} (h : Shell.read? text = some command) :
    Shell.read? (c.privileged text) =
      some { command with words := c.lead ++ command.words } := by
  unfold privileged lead
  split
  · rename_i hempty
    have : c.privilege = "" := by simpa using hempty
    rw [this]
    exact h
  · exact Shell.read?_append_of_isPlain hprivilege h

/-- Whether words need no quotes is told by looking at their characters. -/
theorem isOrdinary_of_all {argv : List String}
    (h : (argv.all fun word => word != "" && word.toList.all Shell.isOrdinary) = true) :
    ∀ word ∈ argv, word ≠ "" ∧ ∀ c ∈ word.toList, Shell.isOrdinary c = true := by
  intro word hword
  have hthis := List.all_eq_true.1 h word hword
  rw [Bool.and_eq_true, bne_iff_ne, List.all_eq_true] at hthis
  exact hthis

/-- The words of all commands that need no quotes are read as they are. -/
theorem yields_of_mem {word : String}
    (h : word ∈ ["cat", "--", "tee", "/dev/null", "rm", "find", "-mindepth", "1", "-maxdepth",
      "-printf", "networkctl", "reload", "reconfigure"]) :
    Shell.Yields word.toList (.word word) := by
  have hordinary := isOrdinary_of_all (by decide) word h
  exact Shell.yields_of_isOrdinary hordinary.1 hordinary.2

/-- A command on a path gets the path as one word. -/
theorem read?_onPath {name path : String} (hname : name ∈ ["cat", "rm"])
    (h : '\x00' ∉ path.toList) :
    Shell.read? (name ++ " -- " ++ Shell.quote path) = some ⟨[name, "--", path], none⟩ := by
  have hparts : name ++ " -- " ++ Shell.quote path =
      " ".intercalate [name, "--", Shell.quote path] := by
    have hdashes : " -- " = " " ++ "--" ++ " " := by decide
    simp only [hdashes, String.intercalate_cons_cons, String.intercalate_singleton,
      ← String.append_assoc]
  have hplain : Shell.Yields name.toList (.word name) ∧ Shell.isCommandName name = true := by
    rcases List.mem_pair.1 hname with rfl | rfl <;> exact ⟨yields_of_mem (by decide), by decide⟩
  rw [hparts]
  exact Shell.read?_words (.cons hplain.1 <| .cons (yields_of_mem (by decide)) <|
    .cons (Shell.yields_quote h) .nil) (by simpa using hplain.2)

theorem read?_readCommand {path : String} (h : '\x00' ∉ path.toList) :
    Shell.read? (readCommand path) = some ⟨["cat", "--", path], none⟩ := by
  rw [readCommand, show "cat -- " = "cat" ++ " -- " by decide]
  exact read?_onPath (by decide) h

theorem read?_deleteCommand {path : String} (h : '\x00' ∉ path.toList) :
    Shell.read? (deleteCommand path) = some ⟨["rm", "--", path], none⟩ := by
  rw [deleteCommand, show "rm -- " = "rm" ++ " -- " by decide]
  exact read?_onPath (by decide) h

theorem read?_writeCommand {path : String} (h : '\x00' ∉ path.toList) :
    Shell.read? (writeCommand path) = some ⟨["tee", "--", path], some "/dev/null"⟩ := by
  have hparts : writeCommand path =
      " ".intercalate ["tee", "--", Shell.quote path, ">", "/dev/null"] := by
    have hend : " > /dev/null" = " " ++ "> /dev/null" := by decide
    rw [writeCommand, hend, ← String.append_assoc]
    simp [String.intercalate_cons_cons, ← String.append_assoc]
  rw [hparts]
  exact Shell.read?_joined (.cons (yields_of_mem (by decide)) <|
    .cons (yields_of_mem (by decide)) <| .cons (Shell.yields_quote h) <|
    .cons Shell.yields_redirect <| .cons (yields_of_mem (by decide)) .nil) rfl rfl

/-- The form in which the listing is printed: type and name, with a tab between and a line feed
behind, as `find` writes them. -/
def listFormat : String := "%y\\t%f\\n"

theorem read?_listCommand {dir : String} (h : '\x00' ∉ dir.toList) :
    Shell.read? (listCommand dir) =
      some ⟨["find", dir, "-mindepth", "1", "-maxdepth", "1", "-printf", listFormat], none⟩ := by
  have hparts : listCommand dir = " ".intercalate ["find", Shell.quote dir, "-mindepth", "1",
      "-maxdepth", "1", "-printf", Shell.quote listFormat] := by
    have hformat : Shell.quote listFormat = "'%y\\t%f\\n'" := by decide
    have hend : " -mindepth 1 -maxdepth 1 -printf '%y\\t%f\\n'" =
        " " ++ "-mindepth 1 -maxdepth 1 -printf '%y\\t%f\\n'" := by decide
    rw [listCommand, hend, ← String.append_assoc, hformat]
    simp [String.intercalate_cons_cons, ← String.append_assoc]
  rw [hparts]
  exact Shell.read?_words (.cons (yields_of_mem (by decide)) <| .cons (Shell.yields_quote h) <|
    .cons (yields_of_mem (by decide)) <| .cons (yields_of_mem (by decide)) <|
    .cons (yields_of_mem (by decide)) <| .cons (yields_of_mem (by decide)) <|
    .cons (yields_of_mem (by decide)) <| .cons (Shell.yields_quote (by decide)) .nil) rfl

theorem read?_applyCommand {devices : List String}
    (h : ∀ device ∈ devices, '\x00' ∉ device.toList) :
    Shell.read? (applyCommand devices) =
      some ⟨"networkctl" :: Connector.applyArgs devices, none⟩ := by
  have hparts : applyCommand devices =
      " ".intercalate ("networkctl" :: quotedArgs (Connector.applyArgs devices)) := by
    have hspace : "networkctl " = "networkctl" ++ " " := by decide
    cases devices <;> simp only [applyCommand, hspace, Connector.applyArgs, quotedArgs,
      String.intercalate_cons_cons]
  rw [hparts]
  cases devices with
  | nil =>
    exact Shell.read?_words (.cons (yields_of_mem (by decide)) <|
      .cons (yields_of_mem (by decide)) .nil) rfl
  | cons device devices =>
    have hdevices : List.Forall₂ (fun part word => Shell.Yields part.toList (.word word))
        ((device :: devices).map Shell.quote) (device :: devices) :=
      List.forall₂_map_left_iff.2 (List.forall₂_same.2 fun d hd => Shell.yields_quote (h d hd))
    exact Shell.read?_words (.cons (yields_of_mem (by decide)) <|
      .cons (yields_of_mem (by decide)) hdevices) rfl

/-! ## Several commands -/

/-- A result on this machine that a host's result comes to: the same one, and an error for an error
of a command. A host that is lost may have any counterpart. -/
def Fits (r r' : Except ConnectorError α) : Prop :=
  match r with
  | .ok a => r' = .ok a
  | .error e => e.isConnection = false → ∃ e', r' = .error e' ∧ e'.isConnection = false

/-- A program with its arguments, as a shell reads it. -/
def asHeard (argv : List String) : Option Shell.Command × Option ByteArray :=
  (some ⟨argv, none⟩, none)

/-- **An operation sends what another one runs on this machine.** To each history with the host
there is one of this machine, whose programs are the commands that are heard, in order; commands
are missing only where the host is lost. Results are the same. -/
def Mirrors (c : RemoteConnector) (x : Action Wire (Except ConnectorError α))
    (x' : Action PoolState (Except ConnectorError α)) : Prop :=
  ∀ t r, Run x t r → ∃ t' r', Run x' t' r' ∧ Fits r r' ∧
    (Deed.collect Request.heard? t).Sublist ((Deed.collect Request.program? t').map asHeard) ∧
    (¬ c.Unreached t → (∀ e, r = .error e → e.isConnection = false) →
      Deed.collect Request.heard? t = (Deed.collect Request.program? t').map asHeard)

/-- **A command mirrors its program.** -/
theorem exec_mirrors {argv : List String}
    (h : Shell.read? (commandLine argv) = some ⟨argv, none⟩) :
    c.Mirrors (c.exec (commandLine argv) none) (LocalConnector.runCommand argv) := by
  intro t r hrun
  have hne : argv ≠ [] := by
    rintro rfl
    exact absurd h (by decide)
  obtain ⟨program, args, rfl⟩ := List.exists_cons_of_ne_nil hne
  -- the program is given the result of the command; one that failed cannot be started here
  obtain ⟨reply, hreply⟩ : ∃ reply, Fits r (Program.resultOf program reply) := by
    cases r with
    | ok result => exact ⟨.ok result, rfl⟩
    | error e => exact ⟨.error .missing, fun _ => ⟨_, rfl, rfl⟩⟩
  have hlocal : Run (LocalConnector.runCommand (program :: args) : Action PoolState _)
      [.asked (.event ⟨.programs, .debug, s!"exec: {commandLine (program :: args)}"⟩) (),
        .asked (.run program args none) reply] (Program.resultOf program reply) := by
    simp [LocalConnector.runCommand, Program.run, event, request]
  refine ⟨_, _, hlocal, hreply, ?_, ?_⟩
  · rw [LocalConnector.runCommand_makes hne _ _ hlocal]
    rcases exec_sends h none t r hrun with hheard | ⟨hheard, -⟩
    · rw [hheard]
      exact List.Sublist.refl _
    · rw [hheard]
      exact List.nil_sublist _
  · intro hreached _
    rw [LocalConnector.runCommand_makes hne _ _ hlocal]
    rcases exec_sends h none t r hrun with hheard | ⟨-, hun⟩
    · exact hheard
    · exact absurd hun hreached

theorem fits_refl (r : Except ConnectorError α) : Fits r r := by
  cases r with
  | ok a => rfl
  | error e => exact fun he => ⟨e, rfl, he⟩

/-- Results that are made from others the same way go on fitting. -/
theorem Fits.bind {r r' : Except ConnectorError α} (h : Fits r r')
    (f : α → Except ConnectorError β) : Fits (r >>= f) (r' >>= f) := by
  cases r with
  | ok a =>
    obtain rfl : r' = .ok a := h
    exact fits_refl _
  | error e =>
    intro he
    obtain ⟨e', rfl, he'⟩ := h he
    exact ⟨e', rfl, he'⟩

theorem mirrors_done {r r' : Except ConnectorError α} (h : Fits r r') :
    c.Mirrors (done r) (done r') := by
  intro t b hrun
  obtain ⟨rfl, rfl⟩ := run_done_iff.1 hrun
  exact ⟨[], r', .start _, h, List.Sublist.refl _, fun _ _ => rfl⟩

/-- Where the connection is lost, anything may follow on this machine. -/
theorem mirrors_lost {e : ConnectorError} (he : e.isConnection = true)
    (x' : Action PoolState (Except ConnectorError α)) :
    c.Mirrors (done (.error e)) x' := by
  intro t b hrun
  obtain ⟨rfl, rfl⟩ := run_done_iff.1 hrun
  obtain ⟨t', r', hrun'⟩ := exists_run x'
  refine ⟨t', r', hrun', ?_, List.nil_sublist _, ?_⟩
  · intro hno
    rw [he] at hno
    exact absurd hno (by decide)
  · intro _ hno
    have := hno e rfl
    rw [he] at this
    exact absurd this (by decide)

/-- What is said in the log is no part of it. -/
theorem Mirrors.event {source : EventSource} {level : Level} {message message' : String}
    {x : Action Wire (Except ConnectorError α)} {x' : Action PoolState (Except ConnectorError α)}
    (h : c.Mirrors x x') :
    c.Mirrors (event source level message >>= fun _ => x)
      (event source level message' >>= fun _ => x') := by
  intro t r hrun
  obtain ⟨t₁, t₂, _, rfl, h₁, h₂⟩ := run_bind_iff.1 hrun
  obtain rfl := run_request_iff.1 h₁
  obtain ⟨t', r', hrun', hfits, hsub, heq⟩ := h t₂ r h₂
  exact ⟨_, r', run_bind_iff.2 ⟨_, t', (), rfl, run_request_iff.2 rfl, hrun'⟩, hfits, hsub,
    fun hreached => heq fun hun => hreached (hun.mono (List.suffix_append _ t₂).isInfix)⟩

/-- **One operation after another mirrors what their counterparts do**, when the end of the
connection ends both. -/
theorem Mirrors.bind {x : Action Wire (Except ConnectorError α)}
    {x' : Action PoolState (Except ConnectorError α)}
    {k : Except ConnectorError α → Action Wire (Except ConnectorError β)}
    {k' : Except ConnectorError α → Action PoolState (Except ConnectorError β)}
    (hx : c.Mirrors x x')
    (hlost : ∀ e, e.isConnection = true → k (.error e) = done (.error e))
    (hk : ∀ r r', Fits r r' → (∀ e, r = .error e → e.isConnection = false) →
      c.Mirrors (k r) (k' r')) :
    c.Mirrors (x >>= k) (x' >>= k') := by
  intro t b hrun
  obtain ⟨t₁, t₂, r, rfl, h₁, h₂⟩ := run_bind_iff.1 hrun
  obtain ⟨t₁', r', h₁', hfits, hsub₁, heq₁⟩ := hx t₁ r h₁
  by_cases hr : ∀ e, r = .error e → e.isConnection = false
  · obtain ⟨t₂', b', h₂', hfits', hsub₂, heq₂⟩ := hk r r' hfits hr t₂ b h₂
    refine ⟨t₁' ++ t₂', b', run_bind_iff.2 ⟨t₁', t₂', r', rfl, h₁', h₂'⟩, hfits', ?_, ?_⟩
    · simpa using hsub₁.append hsub₂
    · intro hreached hb
      have hreached₁ : ¬ c.Unreached t₁ := fun h =>
        hreached (h.mono (List.prefix_append t₁ t₂).isInfix)
      have hreached₂ : ¬ c.Unreached t₂ := fun h =>
        hreached (h.mono (List.suffix_append t₁ t₂).isInfix)
      simp [heq₁ hreached₁ hr, heq₂ hreached₂ hb]
  · -- the connection is lost: nothing follows here, and anything may follow there
    push Not at hr
    obtain ⟨e, rfl, he⟩ := hr
    have he : e.isConnection = true := by simpa using he
    rw [hlost e he] at h₂
    obtain ⟨t₂', b', h₂', hfits', hsub₂, -⟩ :=
      mirrors_lost (c := c) he (k' r') t₂ b h₂
    obtain ⟨rfl, rfl⟩ := run_done_iff.1 h₂
    refine ⟨t₁' ++ t₂', b', run_bind_iff.2 ⟨t₁', t₂', r', rfl, h₁', h₂'⟩, hfits', ?_, ?_⟩
    · simpa using hsub₁.trans (List.sublist_append_left _ _)
    · intro _ hno
      exact absurd (hno e rfl) (by simp [he])

theorem gatherListing_mirrors :
    c.Mirrors (Link.gatherListing fun argv => c.exec (commandLine argv) none)
      (Link.gatherListing LocalConnector.runCommand) := by
  have htext : c.Mirrors
      (c.exec (commandLine Link.textCommand) none >>= fun reply => done (Link.fromText reply))
      (LocalConnector.runCommand Link.textCommand >>= fun reply => done (Link.fromText reply)) :=
    (exec_mirrors (by decide)).bind (fun _ _ => rfl) fun r r' hfits _ =>
      mirrors_done (hfits.bind _)
  refine (exec_mirrors (by decide)).bind (fun e he => if_pos he) fun r r' hfits _ => ?_
  have hjson : Fits (Link.fromJson r) (Link.fromJson r') := hfits.bind _
  cases hlinks : Link.fromJson r with
  | ok links =>
    rw [hlinks] at hjson
    have hlinks' : Link.fromJson r' = .ok links := hjson
    simp only [hlinks']
    exact mirrors_done (fits_refl _)
  | error e =>
    rw [hlinks] at hjson
    simp only
    by_cases he : e.isConnection = true
    · rw [if_pos he]
      exact mirrors_lost he _
    · obtain ⟨e', hlinks', he'⟩ := hjson (by simpa using he)
      rw [if_neg he]
      simp only [hlinks', he']
      exact htext.event

theorem addAddresses_mirrors (links : List Link) {r r' : Except ConnectorError CommandResult}
    (hfits : Fits r r') (hr : ∀ e, r = .error e → e.isConnection = false) :
    c.Mirrors (Link.addAddresses links r) (Link.addAddresses links r') := by
  cases r with
  | ok result =>
    obtain rfl : r' = .ok result := hfits
    simp only [Link.addAddresses]
    split
    · split
      · exact mirrors_done (fits_refl _)
      · exact (mirrors_done (fits_refl _)).event
    · exact (mirrors_done (fits_refl _)).event
  | error e =>
    obtain ⟨e', rfl, he'⟩ := hfits (hr e rfl)
    simp only [Link.addAddresses, hr e rfl, he']
    exact (mirrors_done (fits_refl _)).event

/-- **The links of a host are gathered as those of this machine.** -/
theorem links_mirrors (c : RemoteConnector) : c.Mirrors c.links LocalConnector.links := by
  refine gatherListing_mirrors.bind (fun e _ => rfl) fun r r' hfits hr => ?_
  cases r with
  | error e =>
    obtain ⟨e', rfl, he'⟩ := hfits (hr e rfl)
    exact mirrors_done fun he => ⟨e', rfl, he'⟩
  | ok links =>
    obtain rfl : r' = .ok links := hfits
    exact (exec_mirrors (by decide)).bind (fun e he => if_pos he) fun r r' hfits hr =>
      addAddresses_mirrors links hfits hr

/-! ## All operations -/

/-- **What the operations of a connector send**, beside what those of this machine run. Words stand
in front of commands with privileges only. -/
structure SameCommands (c : RemoteConnector) : Prop where
  /-- A configuration file is printed. -/
  read : ∀ name kind, Kind.ofSafeFilename? name = some kind →
    c.Sends (c.read name) ⟨c.lead ++ ["cat", "--", Path.join c.configDir name], none⟩ none
  /-- The new content of a configuration file is the input, and nothing is printed. -/
  write : ∀ name kind content, Kind.ofSafeFilename? name = some kind →
    c.Sends (c.write name content)
      ⟨c.lead ++ ["tee", "--", Path.join c.configDir name], some "/dev/null"⟩ (some content)
  /-- A configuration file is removed. -/
  delete : ∀ name kind, Kind.ofSafeFilename? name = some kind →
    c.Sends (c.delete name) ⟨c.lead ++ ["rm", "--", Path.join c.configDir name], none⟩ none
  /-- The configuration directory is listed. -/
  entries : c.Sends c.entries
    ⟨["find", c.configDir, "-mindepth", "1", "-maxdepth", "1", "-printf", listFormat], none⟩ none
  /-- The global configuration is printed. -/
  readGlobal : '\x00' ∉ c.globalConfig.toList →
    c.Sends c.readGlobal ⟨c.lead ++ ["cat", "--", c.globalConfig], none⟩ none
  /-- The new global configuration is the input, and nothing is printed. -/
  writeGlobal : ∀ text, '\x00' ∉ c.globalConfig.toList →
    c.Sends (c.writeGlobal text)
      ⟨c.lead ++ ["tee", "--", c.globalConfig], some "/dev/null"⟩ (some (Text.bytesOf text))
  /-- Devices are reconfigured as on this machine. -/
  apply : ∀ devices, (∀ device ∈ devices, '\x00' ∉ device.toList) →
    ∃ argv, c.Sends (c.apply devices) ⟨c.lead ++ argv, none⟩ none ∧
      ∀ here, ((Connector.here here).apply devices).Makes Request.program? [argv]
  /-- The configuration is reloaded as on this machine. -/
  reload : ∃ argv, c.Sends c.reload ⟨c.lead ++ argv, none⟩ none ∧
    ∀ here, (Connector.here here).reload.Makes Request.program? [argv]
  /-- What else is printed (routes, rules, journal) is asked for as on this machine. -/
  outputOf : ∀ argv ∈ [Connector.routesCommand, Connector.rulesCommand, Connector.logsCommand],
    c.Sends (c.outputOf (commandLine argv)) ⟨argv, none⟩ none ∧
      ∀ here, ((Connector.here here).outputOf argv).Makes Request.program? [argv]
  /-- The version is printed as on this machine. -/
  version : ∃ argv, c.Sends c.version ⟨argv, none⟩ none ∧
    ∀ here, (Connector.here here).version.Makes Request.program? [argv]
  /-- The links are asked for as on this machine. -/
  links : ∀ here, c.Mirrors c.links (Connector.here here).links

/-- A path in a directory holds no NUL if neither the directory nor the name does. -/
theorem nul_notMem_join {dir name : String} (hdir : '\x00' ∉ dir.toList)
    (hname : '\x00' ∉ name.toList) : '\x00' ∉ (Path.join dir name).toList := by
  unfold Path.join
  split
  · exact hname
  · split <;> simp [hdir, hname]

/-- The name of a configuration file holds no NUL. -/
theorem nul_notMem_of_ofSafeFilename? {name : String} {kind : Kind}
    (h : Kind.ofSafeFilename? name = some kind) : '\x00' ∉ name.toList := by
  intro hmem
  simp [Kind.ofSafeFilename?, Kind.staysInside, hmem] at h

/-- What is printed of a file is asked for by one command. -/
theorem readPath_sends (hprivilege : Shell.IsPlain c.privilege.toList) {path : String}
    (h : '\x00' ∉ path.toList) (missing : Except ConnectorError CommandResult) :
    c.Sends (c.readPath path missing) ⟨c.lead ++ ["cat", "--", path], none⟩ none :=
  (exec_sends (read?_privileged hprivilege (read?_readCommand h)) none).bind fun reply => by
    cases reply with
    | error => trivial
    | ok result =>
      simp only
      split <;> trivial

theorem writePath_sends (hprivilege : Shell.IsPlain c.privilege.toList) {path : String}
    (h : '\x00' ∉ path.toList) (content : ByteArray) :
    c.Sends (c.writePath path content) ⟨c.lead ++ ["tee", "--", path], some "/dev/null"⟩
      (some content) :=
  runSilently_sends (read?_privileged hprivilege (read?_writeCommand h)) _

/-- **A remote host runs the commands that this machine runs**, and its shell takes no character of
a directory, a name or a device for anything else. -/
theorem sameCommands (hprivilege : Shell.IsPlain c.privilege.toList)
    (hdir : '\x00' ∉ c.configDir.toList) : c.SameCommands where
  read name kind hname := by
    have hpath := nul_notMem_join hdir (nul_notMem_of_ofSafeFilename? hname)
    exact (readPath_sends hprivilege hpath _).bind fun reply => by cases reply <;> trivial
  write name kind content hname := by
    have hpath := nul_notMem_join hdir (nul_notMem_of_ofSafeFilename? hname)
    refine (writePath_sends hprivilege hpath content).bind fun reply => ?_
    cases reply with
    | error => trivial
    | ok => exact (avoids_event rfl).bind fun _ => trivial
  delete name kind hname := by
    have hpath := nul_notMem_join hdir (nul_notMem_of_ofSafeFilename? hname)
    exact runSilently_sends (read?_privileged hprivilege (read?_deleteCommand hpath)) none
  entries := (run_sends (read?_listCommand hdir) none).bind fun reply => by
    cases reply <;> trivial
  readGlobal hglobal :=
    (readPath_sends hprivilege hglobal _).bind fun reply => by cases reply <;> trivial
  writeGlobal text hglobal := writePath_sends hprivilege hglobal _
  apply devices hdevices :=
    ⟨_, runSilently_sends (read?_privileged hprivilege (read?_applyCommand hdevices)) none,
      fun _ => LocalConnector.apply_makes devices⟩
  reload :=
    have hread : Shell.read? (commandLine Connector.reloadCommand) = some ⟨_, none⟩ :=
      read?_commandLine (isOrdinary_of_all (by decide)) (by decide)
    ⟨_, outputOf_sends (read?_privileged hprivilege hread),
      fun _ => LocalConnector.outputOf_makes (by decide)⟩
  outputOf argv hargv := by
    have hread : Shell.read? (commandLine argv) = some ⟨argv, none⟩ ∧ argv ≠ [] := by
      simp only [List.mem_cons, List.not_mem_nil, or_false] at hargv
      rcases hargv with rfl | rfl | rfl <;>
        exact ⟨read?_commandLine (isOrdinary_of_all (by decide)) (by decide), by decide⟩
    exact ⟨outputOf_sends hread.1, fun _ => LocalConnector.outputOf_makes hread.2⟩
  version := by
    have hread : Shell.read? (commandLine Connector.versionCommand) = some ⟨_, none⟩ :=
      read?_commandLine (isOrdinary_of_all (by decide)) (by decide)
    refine ⟨_, (exec_sends hread none).bind fun reply => ?_, fun _ => LocalConnector.version_makes⟩
    cases reply with
    | error e => exact (avoids_event rfl).bind fun _ => trivial
    | ok result =>
      simp only
      split
      · trivial
      · exact (avoids_event rfl).bind fun _ => trivial
  links _ := links_mirrors c

/-- Two words in front of commands, and a directory with a quote, a blank and a dollar sign. -/
theorem sameCommands_sudo :
    SameCommands {
      entry := { name := "router", address := "192.0.2.1" }
      transport := .external
      configDir := "/srv/it's $HOME here"
      globalConfig := "/etc/systemd/networkd.conf"
      privilege := "sudo -n" } := by
  have hchars : ∀ c ∈ "sudo -n".toList,
      Shell.isSeparator c = true ∨ Shell.isOrdinary c = true ∧ Text.isBlank c = false := by
    have hall : ("sudo -n".toList.all fun c =>
        Shell.isSeparator c || (Shell.isOrdinary c && !Text.isBlank c)) = true := by decide
    simpa using List.all_eq_true.1 hall
  exact sameCommands ⟨hchars, by decide⟩ (by decide)

end RemoteConnector

end NetUnits
