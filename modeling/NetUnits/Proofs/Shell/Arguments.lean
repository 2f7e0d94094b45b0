import NetUnits.Proofs.Shell.Sockets
import NetUnits.Text.Lines

/-! # Arguments of the client

Parts of a host entry become arguments of the client, and an entry may have been written by
anybody. None of them may pass for an option that the entry has no say in.

* **`HostEntry.IsNamedBy`** — a destination names user and address of an entry, and can be mistaken
  neither for an option nor for another destination; **`HostEntry.isNamedBy_destination`** — so it
  is for all entries that can be used.
* **`Invocation`** — a call as the client reads it: options, a destination and a command.
  **`Invocation.read?`** reads arguments, and **`Invocation.read?_args`** is read back.
* **`SshSession.Life.Call`** — the calls in the life of a session, and
  **`SshSession.Life.call_of_after`** — there are no others.
* **`SshSession.Life.Guarded`** — what an entry can make of them;
  **`SshSession.Life.guarded`** — no more than that, whatever the entry is. -/

namespace NetUnits

open NetUnits.Action NetUnits.Text

/-! ## Destinations -/

namespace HostEntry

/-- **User and address of a destination**: what stands before and after its first `@`. Without one
there is no user. -/
def readDestination (text : String) : String × String :=
  match splitOnce '@' text.toList with
  | some (user, address) => (String.ofList user, String.ofList address)
  | none => ("", text)

/-- **A destination names user and address of an entry.** -/
structure IsNamedBy (e : HostEntry) (text : String) : Prop where
  /-- There is something to read. -/
  ne_empty : text ≠ ""
  /-- It is no option. -/
  no_dash : text.toList.head? ≠ some '-'
  /-- It is one word without control characters. -/
  plain : ∀ c ∈ text.toList, isBlank c = false ∧ isControl c = false
  /-- There is an `@` exactly if there is a user, and never another one. -/
  count : text.toList.count '@' = if e.user = "" then 0 else 1
  /-- User and address are read off it. -/
  read : readDestination text = (e.user, e.address)
  /-- It names no other user and no other address. -/
  unique : ∀ e' : HostEntry, e'.validate = .ok () → e'.destination = text →
    e'.user = e.user ∧ e'.address = e.address

theorem isDestinationPart_iff {text : String} :
    isDestinationPart text = true ↔ text.toList.head? ≠ some '-' ∧
      ∀ c ∈ text.toList, c ≠ '@' ∧ isBlank c = false ∧ isControl c = false := by
  simp [isDestinationPart, and_assoc]

/-- Address and user of an entry that can be used are parts of a destination. -/
theorem isDestinationPart_of_validate {e : HostEntry} (h : e.validate = .ok ()) :
    e.address ≠ "" ∧ isDestinationPart e.address = true ∧ isDestinationPart e.user = true := by
  unfold validate at h
  split_ifs at h with hempty hlocal haddress huser
  simp only [Bool.or_eq_true, String.isEmpty_iff, Bool.not_eq_true', not_or,
    Bool.not_eq_false] at haddress
  refine ⟨haddress.1, haddress.2, ?_⟩
  -- a user that is not given is a part, too
  by_cases hnone : e.user = ""
  · rw [hnone]
    rfl
  · simpa [hnone] using huser

theorem toList_destination {e : HostEntry} (h : e.user ≠ "") :
    e.destination.toList = e.user.toList ++ '@' :: e.address.toList := by
  simp [destination, h]

theorem readDestination_destination {e : HostEntry} (h : e.validate = .ok ()) :
    readDestination e.destination = (e.user, e.address) := by
  obtain ⟨-, haddress, huser⟩ := isDestinationPart_of_validate h
  have hat : ∀ {text : String}, isDestinationPart text = true → '@' ∉ text.toList := by
    intro text hpart hmem
    exact ((isDestinationPart_iff.1 hpart).2 '@' hmem).1 rfl
  by_cases hnone : e.user = ""
  · have hdestination : e.destination = e.address := by simp [destination, hnone]
    rw [readDestination, hdestination, splitOnce_eq_none_iff.2 (hat haddress), hnone]
  · have hsplit : splitOnce '@' e.destination.toList = some (e.user.toList, e.address.toList) :=
      splitOnce_eq_some_iff.2 ⟨toList_destination hnone, hat huser⟩
    simp [readDestination, hsplit]

/-- Entries that can be used differ in their destinations if they differ in user or address. -/
theorem eq_of_destination_eq {e e' : HostEntry} (h : e.validate = .ok ())
    (h' : e'.validate = .ok ()) (heq : e'.destination = e.destination) :
    e'.user = e.user ∧ e'.address = e.address := by
  have hread := readDestination_destination h'
  rw [heq, readDestination_destination h] at hread
  obtain ⟨huser, haddress⟩ := Prod.mk.inj hread
  exact ⟨huser.symm, haddress.symm⟩

/-- **The destination of an entry that can be used names it.** -/
theorem isNamedBy_destination {e : HostEntry} (h : e.validate = .ok ()) :
    e.IsNamedBy e.destination := by
  have hread := readDestination_destination h
  obtain ⟨hne, haddress, huser⟩ := isDestinationPart_of_validate h
  obtain ⟨hdash, hchars⟩ := isDestinationPart_iff.1 haddress
  obtain ⟨hdash', hchars'⟩ := isDestinationPart_iff.1 huser
  have hunique : ∀ e' : HostEntry, e'.validate = .ok () → e'.destination = e.destination →
      e'.user = e.user ∧ e'.address = e.address := fun _ => eq_of_destination_eq h
  have hcount : ∀ {cs : List Char}, (∀ c ∈ cs, c ≠ '@' ∧ isBlank c = false ∧ isControl c = false) →
      cs.count '@' = 0 := fun hcs => List.count_eq_zero.2 fun hmem => (hcs '@' hmem).1 rfl
  by_cases hnone : e.user = ""
  · have hdestination : e.destination = e.address := by simp [destination, hnone]
    rw [hdestination] at hread hunique ⊢
    refine ⟨hne, hdash, fun c hc => (hchars c hc).2, ?_, hread, hunique⟩
    rw [if_pos hnone, hcount hchars]
  · have hlist := toList_destination hnone
    have hplain : ∀ c ∈ e.destination.toList, isBlank c = false ∧ isControl c = false := by
      intro c hc
      rw [hlist, List.mem_append, List.mem_cons] at hc
      rcases hc with hc | rfl | hc
      · exact (hchars' c hc).2
      · exact ⟨rfl, rfl⟩
      · exact (hchars c hc).2
    refine ⟨?_, ?_, hplain, ?_, hread, hunique⟩
    · intro hempty
      rw [hempty] at hlist
      simp at hlist
    · -- the destination begins as the user does
      obtain ⟨c, cs, hcs⟩ := List.exists_cons_of_ne_nil
        (show e.user.toList ≠ [] from fun hnil => hnone (String.toList_eq_nil_iff.1 hnil))
      rw [hlist, hcs]
      rwa [hcs] at hdash'
    · rw [if_neg hnone, hlist, List.count_append, hcount hchars', List.count_cons_self,
        hcount hchars]

end HostEntry

/-! ## Arguments as the client reads them -/

/-- **A call of the client.** -/
structure Invocation where
  /-- The options, some of which have a value. -/
  options : List (String × Option String)
  /-- Whom the client connects to. -/
  destination : String
  /-- What is run there, as the words of it. -/
  command : List String
deriving DecidableEq

namespace Invocation

/-- The options of the client that have no value. -/
def flags : List String :=
  ["-4", "-6", "-A", "-a", "-C", "-f", "-G", "-g", "-K", "-k", "-M", "-N", "-n", "-q", "-s", "-T",
    "-t", "-V", "-v", "-X", "-x", "-Y", "-y"]

/-- The call with one more option in front. -/
def addOption (option : String × Option String) (i : Invocation) : Invocation :=
  { i with options := option :: i.options }

/-- **Reads arguments.** An option takes the next argument as its value if it must have one,
whatever that argument looks like; `--` ends the options, and the destination follows. Arguments
that leave it to the client where the options end are refused. -/
def read? : List String → Option Invocation
  | [] => none
  | argument :: rest =>
    if argument = "--" then
      match rest with
      | [] => none
      | destination :: command => some ⟨[], destination, command⟩
    else if argument ∈ flags then (read? rest).map (addOption (argument, none))
    else if argument ∈ SshClient.valueOptions then
      match rest with
      | [] => none
      | value :: rest => (read? rest).map (addOption (argument, some value))
    else none

/-- An option as arguments. -/
def optionArgs : String × Option String → List String
  | (option, none) => [option]
  | (option, some value) => [option, value]

/-- **The call as arguments**, with `--` directly before the destination. -/
def args (i : Invocation) : List String :=
  i.options.flatMap optionArgs ++ "--" :: i.destination :: i.command

/-- An option has a value if it must have one. -/
def IsOption : String × Option String → Prop
  | (option, none) => option ∈ flags
  | (option, some _) => option ∈ SshClient.valueOptions

instance : DecidablePred IsOption
  | (option, none) => inferInstanceAs (Decidable (option ∈ flags))
  | (option, some _) => inferInstanceAs (Decidable (option ∈ SshClient.valueOptions))

/-- An option is read off the arguments that it stands before. -/
theorem read?_optionArgs_append {o : String × Option String} (h : IsOption o)
    (rest : List String) : read? (optionArgs o ++ rest) = (read? rest).map (addOption o) := by
  obtain ⟨option, value⟩ := o
  cases value with
  | none =>
    have hflag : option ∈ flags := h
    have hdashes : option ≠ "--" := by
      rintro rfl
      exact absurd hflag (by decide)
    show read? (option :: rest) = _
    rw [read?.eq_def]
    simp only [if_neg hdashes, if_pos hflag]
  | some value =>
    have hvalue : option ∈ SshClient.valueOptions := h
    have hdashes : option ≠ "--" := by
      rintro rfl
      exact absurd hvalue (by decide)
    have hflag : option ∉ flags := fun hmem =>
      (show ∀ o ∈ flags, o ∉ SshClient.valueOptions by decide) option hmem hvalue
    show read? (option :: value :: rest) = _
    rw [read?, if_neg hdashes, if_neg hflag, if_pos hvalue]

/-- **A call is read back from its arguments.** -/
theorem read?_args {i : Invocation} (h : ∀ o ∈ i.options, IsOption o) : read? i.args = some i := by
  obtain ⟨options, destination, command⟩ := i
  induction options with
  | nil => rfl
  | cons o options ih =>
    obtain ⟨ho, hoptions⟩ := List.forall_mem_cons.1 h
    have hargs : args ⟨o :: options, destination, command⟩ =
        optionArgs o ++ args ⟨options, destination, command⟩ := by
      simp [args]
    rw [hargs, read?_optionArgs_append ho, ih hoptions]
    rfl

/-- A key file that is called like an option is a value all the same. -/
example : read? ["-i", "-oProxyCommand=true", "--", "admin@192.0.2.10", "uptime"] =
    some ⟨[("-i", some "-oProxyCommand=true")], "admin@192.0.2.10", ["uptime"]⟩ := by
  decide

end Invocation

/-! ## Calls for a session -/

/-- A request that opens a session is told by what it opens. -/
theorem Request.eq_of_opening? {r r' : Request} (h : r.opening? = some r') : r = r' := by
  cases r with
  | connect host => exact Option.some.inj h
  | run program args bytes =>
    simp only [opening?, Option.ite_none_right_eq_some, Option.some.injEq] at h
    exact h.2
  | _ => exact absurd h.symm (Option.some_ne_none r')

namespace SshSession

/-- **A call for a session**: it is established, carries a command, is checked or is ended. -/
inductive Calls (s : SshSession) (uses : List Use) : List String → Option ByteArray → Prop
  /-- The session is established. -/
  | establish : Calls s uses s.connectArgs none
  /-- A command is run. -/
  | exec {command : String} {input : Option ByteArray} (use : .exec command input ∈ uses) :
    Calls s uses (s.execArgs command) input
  /-- It is checked whether the connection stands. -/
  | check : Calls s uses (s.controlArgs "check") none
  /-- The connection is ended. -/
  | exit : Calls s uses (s.controlArgs "exit") none

/-- The only programs that a request runs are calls for a session. -/
def AsksFor (s : SshSession) (uses : List Use) : Request → Prop
  | .run program args input => program = s.program ∧ s.Calls uses args input
  | _ => True

variable {σ : Type} {q : σ → σ → Prop} (s : SshSession) (uses : List Use)

theorem call_asksFor {args : List String} {input : Option ByteArray} (h : s.Calls uses args input) :
    (s.call args input : Action σ _).Obeys (s.AsksFor uses) q :=
  s.call_obeys input (fun _ => trivial) ⟨rfl, h⟩

theorem exec_asksFor {command : String} {input : Option ByteArray}
    (h : .exec command input ∈ uses) :
    (s.exec command input : Action σ _).Obeys (s.AsksFor uses) q :=
  s.exec_obeys command input (fun _ => trivial) ⟨rfl, .exec h⟩

theorem isAlive_asksFor : (s.isAlive : Action σ _).Obeys (s.AsksFor uses) q :=
  (s.call_asksFor uses .check).bind fun reply => by cases reply <;> trivial

theorem close_asksFor : (s.close : Action σ _).Obeys (s.AsksFor uses) q := by
  refine Obeys.bind (obeys_request (r := .isPresent s.controlPath) trivial) fun present => ?_
  cases present with
  | false => trivial
  | true =>
    exact (obeys_request (r := .event _) trivial).bind fun _ =>
      (s.call_asksFor uses .exit).bind fun _ => trivial

theorem useAll_asksFor {q : Nat → Nat → Prop} {now : List Use} (h : ∀ u ∈ now, u ∈ uses) :
    (s.useAll now).Obeys (s.AsksFor uses) q := by
  induction now with
  | nil => trivial
  | cons u now ih =>
    obtain ⟨hu, hnow⟩ := List.forall_mem_cons.1 h
    refine Obeys.bind ?_ fun _ => ih hnow
    cases u with
    | exec command input => exact (s.exec_asksFor uses hu).bind fun _ => trivial
    | isAlive => exact (s.isAlive_asksFor uses).bind fun _ => trivial

theorem establish_asksFor :
    (SshClient.establish s : Action σ _).Obeys (s.AsksFor uses) q := by
  refine (obeys_request (r := .event _) trivial).bind fun _ =>
    (s.call_asksFor uses .establish).bind fun reply => ?_
  cases reply with
  | error => exact (s.close_asksFor uses).bind fun _ => trivial
  | ok result =>
    simp only
    split
    · trivial
    · exact (s.close_asksFor uses).bind fun _ => trivial

end SshSession

namespace SshSession.Life

variable {l : SshSession.Life} {t : List (Deed Nat)} {program : String} {args : List String}
  {input : Option ByteArray}

/-- **A call in a life** is one for the session of the host at a socket. -/
def Call (l : SshSession.Life) (path program : String) (args : List String)
    (input : Option ByteArray) : Prop :=
  program = l.client.program ∧ (l.client.sessionAt l.host path).Calls l.uses args input

/-- The only programs that a request runs are calls in a life. -/
def Asks (l : SshSession.Life) : Request → Prop
  | .run program args input => ∃ path, l.Call path program args input
  | _ => True

theorem asks_of_asksFor {path : String} {r : Request}
    (h : (l.client.sessionAt l.host path).AsksFor l.uses r) : l.Asks r := by
  cases r with
  | run program args input => exact ⟨path, h⟩
  | _ => trivial

theorem connect_asks : (l.client.connect l.host).Obeys l.Asks fun _ _ => True := by
  unfold SshClient.connect
  cases l.host.validate with
  | error => trivial
  | ok =>
    refine Obeys.bind (obeys_request (r := .findProgram l.client.program) trivial) fun found => ?_
    cases found with
    | false => trivial
    | true =>
      refine Obeys.bind (obeys_request (r := .makeDirs l.client.controlDir) trivial) fun made => ?_
      cases made with
      | error => trivial
      | ok =>
        exact (obeys_change fun _ => trivial).bind fun _ =>
          (obeys_request (r := .processId) trivial).bind fun _ =>
            (establish_asksFor _ l.uses).mono (fun _ => asks_of_asksFor) fun _ _ => id

/-- **All programs that are run in a life are calls for its session**, at the socket that the
session has. -/
theorem call_of_after {y : Action Nat Unit} (h : After l.action t y)
    {reply : Except Fault CommandResult} (hmem : .asked (.run program args input) reply ∈ t) :
    ∃ path, l.Owns t path ∧ l.Call path program args input := by
  have hcall : ∃ path, l.Call path program args input := by
    have hconnect {t : List (Deed Nat)} {y} (hafter : After (l.client.connect l.host) t y)
        (hmem : Deed.asked (.run program args input) reply ∈ t) :
        ∃ path, l.Call path program args input :=
      (connect_asks.of_after hafter).1 (.asked (.run program args input) reply) hmem
    rw [action] at h
    obtain ⟨y, hafter, -⟩ | ⟨t₁, t₂, opened, rfl, hafter, hrest⟩ := after_bind_iff.1 h
    · exact hconnect hafter hmem
    rcases List.mem_append.1 hmem with hmem | hmem
    · exact hconnect hafter hmem
    cases opened with
    | error e =>
      obtain ⟨rfl, -⟩ := after_done_iff.1 hrest
      exact absurd hmem List.not_mem_nil
    | ok s =>
      obtain ⟨number, process, -, rfl⟩ := (of_after_connect hafter).2 s rfl
      have hobeys := ((l.client.sessionAt l.host (l.socket number process)).useAll_asksFor l.uses
        (q := fun _ _ => True) fun _ => id).bind fun _ => close_asksFor _ l.uses
      exact ⟨_, (hobeys.of_after hrest).1 _ hmem⟩
  -- the call tells the client one socket, and this is the one that the session has
  obtain ⟨path, howns, htold⟩ := (course_of_after h).exists_owns hmem id (by simp)
  obtain ⟨path', hprogram, hcalls⟩ := hcall
  have hpath : path' = path := by
    have htold' : SshClient.socketsOf args = [path'] := by
      cases hcalls with
      | establish => exact SshClient.connectArgs_goesThrough _ _ _
      | exec => exact SshClient.execArgs_goesThrough _ _ _ _
      | check | exit => exact SshClient.controlArgs_goesThrough _ _ _ _
    exact List.singleton_inj.1 (htold'.symm.trans htold)
  exact ⟨path, howns, hprogram, hpath ▸ hcalls⟩

/-! ## What an entry can make of a call -/

/-- The options of the client that are the same for all hosts and sessions. -/
def fixedOptions : List (String × Option String) :=
  [("-o", some "BatchMode=yes"), ("-o", some "ControlMaster=yes"), ("-o", some "ControlMaster=no"),
    ("-o", some "ControlPersist=yes"), ("-f", none), ("-N", none), ("-O", some "check"),
    ("-O", some "exit")]

/-- **An option that the client may be given** for a session at a socket. -/
inductive Allows (l : SshSession.Life) (path : String) : String × Option String → Prop
  /-- It is the same for all hosts and sessions. -/
  | fixed {option : String × Option String} (h : option ∈ fixedOptions) : Allows l path option
  /-- How long the client waits. -/
  | timeout : Allows l path ("-o", some s!"ConnectTimeout={l.client.connectTimeout}")
  /-- The port, in digits. -/
  | port {text : String} (h : digits? text.toList = some l.host.port) :
    Allows l path ("-p", some text)
  /-- The key file, which is a value whatever it is called. -/
  | key {file : String} (h : l.host.keyFile = some file) : Allows l path ("-i", some file)
  /-- The socket. -/
  | socket : Allows l path ("-o", some s!"ControlPath={path}")

/-- **The calls in a life show no more of the host entry than they may.** -/
structure Guarded (l : SshSession.Life) : Prop where
  /-- No program is run for an entry that is refused, and only then. -/
  refuses : (∀ t y, After (l.client.connect l.host) t y → ∀ program args input reply,
    .asked (.run program args input) reply ∉ t) ↔ l.host.validate ≠ .ok ()
  /-- The destination of other entries cannot be mistaken. -/
  named : l.host.validate = .ok () → l.host.IsNamedBy l.host.destination
  /-- A call says whom it connects to after `--`, and what is run there in one argument at most;
  all before it are options that may be given. -/
  calls : ∀ {t y}, After l.action t y → ∀ {program args input reply},
    .asked (.run program args input) reply ∈ t → program = l.client.program ∧
      ∃ path i, l.Owns t path ∧ args = i.args ∧ Invocation.read? args = some i ∧
        i.destination = l.host.destination ∧ (∀ option ∈ i.options, l.Allows path option) ∧
        (i.command = [] ∨ ∃ command, i.command = [command] ∧ .exec command input ∈ l.uses)

/-- The options of every call for a session at a socket. -/
def baseOptions (l : SshSession.Life) (path : String) : List (String × Option String) :=
  [("-o", some "BatchMode=yes"), ("-o", some s!"ConnectTimeout={l.client.connectTimeout}"),
    ("-p", some (toString l.host.port))] ++
    (l.host.keyFile.map fun file => ("-i", some file)).toList ++
    [("-o", some s!"ControlPath={path}")]

theorem baseArgs_eq (path : String) :
    (l.client.sessionAt l.host path).baseArgs =
      (l.baseOptions path).flatMap Invocation.optionArgs := by
  rw [baseArgs, SshClient.sessionAt, SshClient.hostOptions, baseOptions]
  cases l.host.keyFile <;> rfl

theorem allows_baseOptions (path : String) : ∀ o ∈ l.baseOptions path, l.Allows path o := by
  intro o ho
  simp only [baseOptions, List.mem_append, List.mem_cons, Option.mem_toList,
    Option.map_eq_some_iff, List.not_mem_nil, or_false] at ho
  rcases ho with ((rfl | rfl | rfl) | ⟨file, hfile, rfl⟩) | rfl
  · exact .fixed (by decide)
  · exact .timeout
  · exact .port (by simp [digits?_toDigits, toString])
  · exact .key hfile
  · exact .socket

theorem isOption_of_allows {path : String} {o : String × Option String} (h : l.Allows path o) :
    Invocation.IsOption o := by
  cases h with
  | fixed h => exact (show ∀ o ∈ fixedOptions, Invocation.IsOption o by decide) o h
  | timeout | socket => exact (by decide : "-o" ∈ SshClient.valueOptions)
  | port => exact (by decide : "-p" ∈ SshClient.valueOptions)
  | key => exact (by decide : "-i" ∈ SshClient.valueOptions)

/-- **A call is read as it is meant.** -/
theorem exists_invocation_of_call {path : String} (h : l.Call path program args input) :
    ∃ i : Invocation, args = i.args ∧ i.destination = l.host.destination ∧
      (∀ option ∈ i.options, l.Allows path option) ∧
      (i.command = [] ∨ ∃ command, i.command = [command] ∧ .exec command input ∈ l.uses) := by
  obtain ⟨-, hcalls⟩ := h
  -- each call adds options of its own to those of the session
  have hallowed : ∀ own : List (String × Option String), (∀ o ∈ own, o ∈ fixedOptions) →
      ∀ o ∈ l.baseOptions path ++ own, l.Allows path o := by
    intro own hown o ho
    rcases List.mem_append.1 ho with ho | ho
    · exact allows_baseOptions path o ho
    · exact .fixed (hown o ho)
  have hargs : ∀ own command, (l.client.sessionAt l.host path).baseArgs ++
      (own.flatMap Invocation.optionArgs ++ "--" :: l.host.destination :: command) =
        Invocation.args ⟨l.baseOptions path ++ own, l.host.destination, command⟩ := by
    intro own command
    rw [baseArgs_eq, Invocation.args, List.flatMap_append, List.append_assoc]
  cases hcalls with
  | establish =>
    exact ⟨_, hargs [("-o", some "ControlMaster=yes"), ("-o", some "ControlPersist=yes"),
      ("-f", none), ("-N", none)] [], rfl, hallowed _ (by decide), .inl rfl⟩
  | exec use =>
    exact ⟨_, hargs [("-o", some "ControlMaster=no")] [_], rfl, hallowed _ (by decide),
      .inr ⟨_, rfl, use⟩⟩
  | check => exact ⟨_, hargs [("-O", some "check")] [], rfl, hallowed _ (by decide), .inl rfl⟩
  | exit => exact ⟨_, hargs [("-O", some "exit")] [], rfl, hallowed _ (by decide), .inl rfl⟩

/-- An entry that can be used is connected to, if the client is there. -/
theorem exists_call_of_validate (h : l.host.validate = .ok ()) :
    ∃ t y program args input reply, After (l.client.connect l.host) t y ∧
      .asked (.run program args input) reply ∈ t := by
  let s := l.client.sessionAt l.host (l.socket 0 0)
  -- whatever becomes of the session, the client is asked to establish it
  obtain ⟨t, result, hrun⟩ := exists_run (SshClient.establish s : Action Nat _)
  have hmem : Request.run s.program s.connectArgs none ∈ Deed.collect Request.opening? t := by
    rw [SshClient.establish_makes s t result hrun]
    exact List.mem_singleton_self _
  obtain ⟨d, hd, hopening⟩ := List.mem_filterMap.1 hmem
  cases d with
  | changed | forked => exact nomatch hopening
  | asked r reply =>
    obtain rfl := Request.eq_of_opening? hopening
    have hafter : After (l.client.connect l.host)
        (.asked (.findProgram l.client.program) true ::
          .asked (.makeDirs l.client.controlDir) (.ok ()) :: .changed 0 1 ::
            .asked .processId 0 :: t) (done result) := by
      rw [SshClient.connect, h]
      refine after_request_bind_iff.2 (.inr ⟨true, _, rfl, ?_⟩)
      refine after_request_bind_iff.2 (.inr ⟨.ok (), _, rfl, ?_⟩)
      refine after_change_bind_iff.2 (.inr ⟨0, _, rfl, ?_⟩)
      exact after_request_bind_iff.2 (.inr ⟨0, t, rfl, hrun⟩)
    exact ⟨_, _, _, _, _, reply, hafter, by simp [hd]⟩

/-- **Calls for a session are guarded**, whatever its host entry is. -/
theorem guarded (l : SshSession.Life) : l.Guarded := by
  constructor
  case refuses =>
    constructor
    · intro hnone hvalid
      obtain ⟨t, y, program, args, input, reply, hafter, hmem⟩ := exists_call_of_validate hvalid
      exact hnone t y hafter program args input reply hmem
    · intro hrefused t y hafter program args input reply hmem
      cases hvalid : l.host.validate with
      | ok => exact hrefused hvalid
      | error e =>
        rw [SshClient.connect, hvalid] at hafter
        obtain ⟨rfl, -⟩ := after_done_iff.1 hafter
        exact absurd hmem List.not_mem_nil
  case named => exact HostEntry.isNamedBy_destination
  case calls =>
    intro t y hafter program args input reply hmem
    obtain ⟨path, howns, hcall⟩ := call_of_after hafter hmem
    obtain ⟨i, hargs, hdestination, hoptions, hcommand⟩ := exists_invocation_of_call hcall
    have hread : Invocation.read? args = some i := by
      rw [hargs]
      exact Invocation.read?_args fun o ho => isOption_of_allows (hoptions o ho)
    exact ⟨hcall.1, path, i, howns, hargs, hread, hdestination, hoptions, hcommand⟩

end SshSession.Life

end NetUnits
