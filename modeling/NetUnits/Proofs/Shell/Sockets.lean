import NetUnits.Proofs.Action.Passing
import NetUnits.Proofs.Path
import NetUnits.Proofs.Shell.Session
import NetUnits.Proofs.Text.Numeral

/-! # Sockets of sessions

The client keeps the connection of a session behind a socket, which it is told at every call. The
name of a socket shows the host only roughly, so it is the number in it that tells sessions apart.

* **`SshClient.socketsOf`** — the sockets that arguments tell the client; all calls for a session
  tell the same (**`SshClient.socketsOf_baseArgs`**).
* **`SshClient.number_eq_of_controlPath_eq`** — the number can be read off a socket, whatever the
  names of hosts and directories are.
* **`SshSession.Life`** — opening, using and closing a session; **`SshSession.Life.Course`** — how
  far it has come, and **`SshSession.Life.Owns`** — the socket that it has then.
* **`SshSession.Apart`** — what the sessions of one process have to do with each other's sockets:
  nothing; **`SshSession.apart`** — so it is for any sessions in any order. -/

namespace NetUnits

open NetUnits.Action NetUnits.Text

/-! ## Arguments of the client -/

namespace SshClient

/-- The options of the client that are followed by a value. -/
def valueOptions : List String :=
  ["-B", "-b", "-c", "-D", "-E", "-e", "-F", "-I", "-i", "-J", "-L", "-l", "-m", "-O", "-o", "-P",
    "-p", "-Q", "-R", "-S", "-W", "-w"]

/-- The socket that an option sets. -/
def socketOf? (option value : String) : Option String :=
  if option = "-S" then some value
  else if option = "-o" then
    ("ControlPath=".toList.isPrefixOf? value.toList).map String.ofList
  else none

/-- **The sockets that the client is told by its arguments**, up to the destination. -/
def socketsOf : List String → List String
  | option :: value :: rest =>
    if option = "--" then []
    else if option ∈ valueOptions then (socketOf? option value).toList ++ socketsOf rest
    else socketsOf (value :: rest)
  | _ => []

/-- An option with its value tells at most one socket. -/
theorem socketsOf_option {option : String} (h : option ∈ valueOptions) (value : String)
    (rest : List String) :
    socketsOf (option :: value :: rest) = (socketOf? option value).toList ++ socketsOf rest := by
  have hdashes : option ≠ "--" := by
    rintro rfl
    exact absurd h (by decide)
  rw [socketsOf, if_neg hdashes, if_pos h]

theorem socketOf?_controlPath (path : String) :
    socketOf? "-o" s!"ControlPath={path}" = some path := by
  have hpath : s!"ControlPath={path}".toList = "ControlPath=".toList ++ path.toList := by
    simp [toString]
  rw [socketOf?, if_neg (by decide), if_pos rfl, hpath]
  exact congrArg some String.ofList_toList

theorem socketOf?_connectTimeout (seconds : Nat) :
    socketOf? "-o" s!"ConnectTimeout={seconds}" = none := by
  have htimeout : s!"ConnectTimeout={seconds}".toList =
      "ConnectTimeout=".toList ++ (toString seconds).toList := by
    simp [toString]
  rw [socketOf?, if_neg (by decide), if_pos rfl, htimeout]
  rfl

/-- The options for a host tell no socket, whatever its key file is called. -/
theorem socketsOf_hostOptions (client : SshClient) (host : HostEntry) (rest : List String) :
    socketsOf (client.hostOptions host ++ rest) = socketsOf rest := by
  have hmode : socketOf? "-o" "BatchMode=yes" = none := by decide
  have hport : ∀ port, socketOf? "-p" port = none := fun _ => rfl
  have hkey : ∀ key, socketOf? "-i" key = none := fun _ => rfl
  unfold hostOptions
  cases host.keyFile <;>
  · simp only [List.cons_append, List.nil_append]
    repeat rw [socketsOf_option (by decide)]
    simp only [hmode, socketOf?_connectTimeout, hport, hkey, Option.toList_none, List.nil_append]

/-- **All calls for a session tell the client its socket** before anything else. -/
theorem socketsOf_baseArgs (client : SshClient) (host : HostEntry) (path : String)
    (rest : List String) :
    socketsOf ((client.sessionAt host path).baseArgs ++ rest) = path :: socketsOf rest := by
  rw [SshSession.baseArgs, sessionAt, List.append_assoc, socketsOf_hostOptions]
  simp only [List.cons_append, List.nil_append]
  rw [socketsOf_option (by decide), socketOf?_controlPath]
  rfl

end SshClient

/-! ## What a session asks for -/

/-- **A request goes through a socket**: it looks for this socket, or calls a program that is told
this socket and no other; beside that, the log is told. -/
def Request.GoesThrough (path : String) : Request → Prop
  | .run _ args _ => SshClient.socketsOf args = [path]
  | .isPresent p => p = path
  | .event _ => True
  | _ => False

namespace SshClient

variable {σ : Type} {q : σ → σ → Prop} (client : SshClient) (host : HostEntry) (path : String)

theorem connectArgs_goesThrough :
    socketsOf (client.sessionAt host path).connectArgs = [path] := by
  rw [SshSession.connectArgs, socketsOf_baseArgs]
  rfl

theorem execArgs_goesThrough (command : String) :
    socketsOf ((client.sessionAt host path).execArgs command) = [path] := by
  rw [SshSession.execArgs, socketsOf_baseArgs]
  rfl

theorem controlArgs_goesThrough (operation : String) :
    socketsOf ((client.sessionAt host path).controlArgs operation) = [path] := by
  rw [SshSession.controlArgs, socketsOf_baseArgs, List.singleton_inj.2 rfl]
  rfl

theorem exec_goesThrough (command : String) (input : Option ByteArray) :
    ((client.sessionAt host path).exec command input : Action σ _).Obeys
      (Request.GoesThrough path) q :=
  (client.sessionAt host path).exec_obeys command input (fun _ => trivial)
    (execArgs_goesThrough client host path command)

theorem isAlive_goesThrough :
    ((client.sessionAt host path).isAlive : Action σ _).Obeys (Request.GoesThrough path) q :=
  ((client.sessionAt host path).call_obeys none (fun _ => trivial)
    (controlArgs_goesThrough client host path "check")).bind fun reply => by cases reply <;> trivial

theorem close_goesThrough :
    ((client.sessionAt host path).close : Action σ _).Obeys (Request.GoesThrough path) q := by
  refine Obeys.bind (obeys_request (show Request.GoesThrough path (.isPresent path) from rfl))
    fun present => ?_
  cases present with
  | false => trivial
  | true =>
    exact (obeys_request (r := .event _) trivial).bind fun _ =>
      ((client.sessionAt host path).call_obeys none (fun _ => trivial)
        (controlArgs_goesThrough client host path "exit")).bind fun _ => trivial

theorem establish_goesThrough :
    (establish (client.sessionAt host path) : Action σ _).Obeys (Request.GoesThrough path) q := by
  have hclose := close_goesThrough (σ := σ) (q := q) client host path
  refine (obeys_request (r := .event _) trivial).bind fun _ =>
    ((client.sessionAt host path).call_obeys none (fun _ => trivial)
      (connectArgs_goesThrough client host path)).bind fun reply => ?_
  cases reply with
  | error => exact hclose.bind fun _ => trivial
  | ok result =>
    simp only
    split
    · trivial
    · exact hclose.bind fun _ => trivial

end SshClient

/-- A session that is established is the one that was to be. -/
theorem SshClient.eq_of_run_establish {σ : Type} {s s' : SshSession} {t : List (Deed σ)}
    (h : Run (establish s : Action σ _) t (.ok s')) : s' = s := by
  have herror : ∀ {e : ConnectorError} {t : List (Deed σ)}, ¬ Run (s.close >>= fun _ =>
      done (.error e) : Action σ (Except ConnectorError SshSession)) t (.ok s') := by
    intro e t hrun
    obtain ⟨_, _, _, -, -, hdone⟩ := run_bind_iff.1 hrun
    exact nomatch (run_done_iff.1 hdone).2
  obtain ⟨_, _, _, -, -, hcall⟩ := run_bind_iff.1 h
  obtain ⟨_, _, reply, -, -, hreply⟩ := run_bind_iff.1 hcall
  cases reply with
  | error e => exact (herror hreply).elim
  | ok result =>
    simp only at hreply
    split at hreply
    · exact Except.ok.inj (run_done_iff.1 hreply).2
    · exact (herror hreply).elim

/-! ## Lives of sessions -/

namespace SshSession

/-- **What is done with a session** while it is open. -/
inductive Use where
  /-- A command is run. -/
  | exec (command : String) (input : Option ByteArray)
  /-- It is checked whether the connection stands. -/
  | isAlive

/-- Does such a thing. -/
def use (s : SshSession) : Use → Action Nat Unit
  | .exec command input => do let _ ← s.exec command input
  | .isAlive => do let _ ← s.isAlive

/-- Does such things one after the other. -/
def useAll (s : SshSession) : List Use → Action Nat Unit
  | [] => return ()
  | u :: uses => do
    s.use u
    s.useAll uses

theorem useAll_obeys (s : SshSession) {p : Request → Prop} {q : Nat → Nat → Prop}
    (hexec : ∀ command input, (s.exec command input : Action Nat _).Obeys p q)
    (halive : (s.isAlive : Action Nat _).Obeys p q) (uses : List Use) :
    (s.useAll uses).Obeys p q := by
  induction uses with
  | nil => trivial
  | cons u uses ih =>
    refine Obeys.bind ?_ fun _ => ih
    cases u with
    | exec command input => exact (hexec command input).bind fun _ => trivial
    | isAlive => exact halive.bind fun _ => trivial

/-- **The life of a session**: it is opened, used and closed, if it can be opened. -/
structure Life where
  /-- The client that opens it. -/
  client : SshClient
  /-- The host. -/
  host : HostEntry
  /-- How it is used. -/
  uses : List Use

end SshSession

namespace SshSession.Life

/-- All that is done in a life. -/
def action (l : SshSession.Life) : Action Nat Unit := do
  match ← l.client.connect l.host with
  | .ok s =>
    s.useAll l.uses
    s.close
  | .error _ => return ()

/-- The socket with a number of a process. -/
def socket (l : SshSession.Life) (number process : Nat) : String :=
  l.client.controlPath l.host.name process number

/-- **The socket of a session**, from what was done in its life: it bears the number that was drawn
and the number of the process. -/
def Owns (l : SshSession.Life) (t : List (Deed Nat)) (path : String) : Prop :=
  ∃ number process, .changed number (number + 1) ∈ t ∧ .asked .processId process ∈ t ∧
    path = l.socket number process

end SshSession.Life

/-! ## Names of sockets -/

namespace SshClient

/-- The name of a socket ends with its number. -/
theorem toList_socketName (name : String) (process number : Nat) :
    s!"{socketStem name}-{process}-{number}.sock".toList =
      (socketStem name).toList ++ '-' :: Nat.toDigits 10 process ++
        '-' :: (Nat.toDigits 10 number ++ ".sock".toList) := by
  simp [toString]

theorem isStep_socketName (name : String) (process number : Nat) :
    Path.IsStep s!"{socketStem name}-{process}-{number}.sock" := by
  have hlist := toList_socketName name process number
  have hstem : '/' ∉ (socketStem name).toList := by
    rw [socketStem, String.toList_ofList, List.mem_map]
    rintro ⟨c, -, hc⟩
    unfold socketChar at hc
    split at hc
    · rename_i hplain
      rw [hc] at hplain
      exact absurd hplain (by decide)
    · exact absurd hc (by decide)
  have hdigits : ∀ n, '/' ∉ Nat.toDigits 10 n := fun n hmem =>
    absurd (isDigit_of_mem_toDigits hmem) (by decide)
  -- the name is longer than one or two dots
  have hlong : ∀ short : String, short.toList.length < 5 →
      s!"{socketStem name}-{process}-{number}.sock" ≠ short := by
    rintro short hshort rfl
    rw [hlist] at hshort
    simp at hshort
    omega
  refine ⟨?_, hlong _ (by decide), hlong _ (by decide), hlong _ (by decide)⟩
  rw [hlist]
  simp [hstem, hdigits]

/-- **A socket lies directly in the directory of the client.** -/
theorem isIn_controlPath (client : SshClient) (name : String) (process number : Nat) :
    Path.IsIn client.controlDir (client.controlPath name process number) :=
  ⟨_, isStep_socketName name process number, rfl⟩

/-- **Different numbers give different sockets**, whatever the clients, hosts and processes are. -/
theorem number_eq_of_controlPath_eq {client client' : SshClient} {name name' : String}
    {process process' number number' : Nat}
    (h : client.controlPath name process number = client'.controlPath name' process' number') :
    number = number' := by
  have hname := congrArg String.toList (Path.name_eq_of_join_eq
    (isStep_socketName name process number) (isStep_socketName name' process' number') h)
  rw [toList_socketName, toList_socketName] at hname
  -- the number stands between the last dash and the ending, which has no dash
  have hdash : ∀ n, '-' ∉ Nat.toDigits 10 n ++ ".sock".toList := fun n hmem => by
    rcases List.mem_append.1 hmem with hmem | hmem
    · exact absurd (isDigit_of_mem_toDigits hmem) (by decide)
    · exact absurd hmem (by decide)
  have hlast : ∀ a b : List Char, '-' ∉ b →
      (a ++ '-' :: b).reverse.takeWhile (· != '-') = b.reverse := by
    intro a b hb
    have hpos : ∀ c ∈ b.reverse, (c != '-') = true := fun c hc => by
      simpa using fun heq : c = '-' => hb (heq ▸ List.mem_reverse.1 hc)
    rw [List.reverse_append, List.reverse_cons, List.append_assoc,
      List.takeWhile_append_of_pos hpos]
    simp
  have hends := congrArg (fun cs => cs.reverse.takeWhile (· != '-')) hname
  simp only [hlast _ _ (hdash _), List.reverse_inj] at hends
  have hdigits := congrArg digits? (List.append_cancel_right hends)
  rw [digits?_toDigits, digits?_toDigits] at hdigits
  exact Option.some.inj hdigits

end SshClient

/-! ## What is done in a life -/

/-- A request before a session has its socket. -/
def Request.Prepares : Request → Prop
  | .findProgram _ | .makeDirs _ => True
  | _ => False

namespace SshSession.Life

variable {l : SshSession.Life} {t u : List (Deed Nat)} {path path' : String}
  {number process : Nat}

/-- A deed before a session has its socket changes nothing. -/
def Prepares (d : Deed Nat) : Prop :=
  d.Obeys Request.Prepares fun _ _ => False

/-- A deed since a session has its socket goes through it. -/
def GoesThrough (path : String) (d : Deed Nat) : Prop :=
  d.Obeys (Request.GoesThrough path) fun _ _ => False

/-- **A life in which the session has got its socket**: a number is drawn, the number of the process
is asked for, and everything since then goes through the socket. -/
def Named (l : SshSession.Life) (t : List (Deed Nat)) (number process : Nat) : Prop :=
  ∃ t₀ u, t = t₀ ++ .changed number (number + 1) :: .asked .processId process :: u ∧
    (∀ d ∈ t₀, Prepares d) ∧ ∀ d ∈ u, GoesThrough (l.socket number process) d

/-- **How far a life has come.** -/
inductive Course (l : SshSession.Life) : List (Deed Nat) → Prop
  /-- The session has no number yet. -/
  | early {t : List (Deed Nat)} (before : ∀ d ∈ t, Prepares d) : Course l t
  /-- It has a number. -/
  | numbered {t : List (Deed Nat)} (number : Nat) (before : ∀ d ∈ t, Prepares d) :
    Course l (t ++ [.changed number (number + 1)])
  /-- It has a socket. -/
  | named {t : List (Deed Nat)} {number process : Nat} (socket : l.Named t number process) :
    Course l t

theorem Named.append (h : l.Named t number process)
    (hu : ∀ d ∈ u, GoesThrough (l.socket number process) d) : l.Named (t ++ u) number process := by
  obtain ⟨t₀, u₀, rfl, hbefore, hsince⟩ := h
  refine ⟨t₀, u₀ ++ u, by simp, hbefore, fun d hd => ?_⟩
  exact (List.mem_append.1 hd).elim (hsince d) (hu d)

/-- **How far opening a session comes**, and what the session is if it is opened. -/
theorem of_after_connect {y : Action Nat (Except ConnectorError SshSession)}
    (h : After (l.client.connect l.host) t y) :
    l.Course t ∧ ∀ s, y = done (.ok s) → ∃ number process, l.Named t number process ∧
      s = l.client.sessionAt l.host (l.socket number process) := by
  -- as long as there is no session, the requests only prepare for it
  have hearly : ∀ {t : List (Deed Nat)} {y : Action Nat (Except ConnectorError SshSession)},
      (∀ d ∈ t, Prepares d) → (∀ s, y ≠ done (.ok s)) →
      l.Course t ∧ ∀ s, y = done (.ok s) → ∃ number process, l.Named t number process ∧
        s = l.client.sessionAt l.host (l.socket number process) :=
    fun ht hy => ⟨.early ht, fun s hs => absurd hs (hy s)⟩
  unfold SshClient.connect at h
  split at h
  · obtain ⟨rfl, rfl⟩ := after_done_iff.1 h
    exact hearly (by simp) (by simp)
  · obtain ⟨rfl, rfl⟩ | ⟨found, t, rfl, hfound⟩ := after_request_bind_iff.1 h
    · exact hearly (by simp) (fun s hs => nomatch hs)
    cases found with
    | false =>
      obtain ⟨rfl, rfl⟩ := after_done_iff.1 hfound
      exact hearly (by simp [Prepares, Deed.Obeys, Request.Prepares]) (by simp)
    | true =>
      obtain ⟨rfl, rfl⟩ | ⟨made, t, rfl, hmade⟩ := after_request_bind_iff.1 hfound
      · exact hearly (by simp [Prepares, Deed.Obeys, Request.Prepares]) (fun s hs => nomatch hs)
      have hbefore : ∀ d ∈ [Deed.asked (.findProgram l.client.program) true,
          .asked (.makeDirs l.client.controlDir) made], Prepares d := by
        simp [Prepares, Deed.Obeys, Request.Prepares]
      cases made with
      | error fault =>
        obtain ⟨rfl, rfl⟩ := after_done_iff.1 hmade
        exact hearly hbefore (by simp)
      | ok =>
        obtain ⟨rfl, rfl⟩ | ⟨number, t, rfl, hnumber⟩ := after_change_bind_iff.1 hmade
        · exact hearly hbefore (fun s hs => nomatch hs)
        obtain ⟨rfl, rfl⟩ | ⟨process, t, rfl, hprocess⟩ := after_request_bind_iff.1 hnumber
        · exact ⟨.numbered number hbefore, fun s hs => nomatch hs⟩
        have hsince : ∀ d ∈ t, GoesThrough (l.socket number process) d :=
          ((SshClient.establish_goesThrough l.client l.host _).of_after hprocess).1
        have hnamed : l.Named _ number process := ⟨_, t, rfl, hbefore, hsince⟩
        refine ⟨.named hnamed, ?_⟩
        rintro s rfl
        exact ⟨number, process, hnamed, SshClient.eq_of_run_establish hprocess⟩

/-- **How far a life comes.** -/
theorem course_of_after {y : Action Nat Unit} (h : After l.action t y) : l.Course t := by
  rw [action] at h
  obtain ⟨y, hconnect, -⟩ | ⟨t₁, t₂, reply, rfl, hconnect, hrest⟩ := after_bind_iff.1 h
  · exact (of_after_connect hconnect).1
  obtain ⟨hcourse, hopened⟩ := of_after_connect hconnect
  cases reply with
  | error e =>
    obtain ⟨rfl, -⟩ := after_done_iff.1 hrest
    rwa [List.append_nil]
  | ok s =>
    obtain ⟨number, process, hnamed, rfl⟩ := hopened s rfl
    have hobeys := ((l.client.sessionAt l.host (l.socket number process)).useAll_obeys
      (SshClient.exec_goesThrough l.client l.host _)
      (SshClient.isAlive_goesThrough l.client l.host _) l.uses).bind fun _ =>
        SshClient.close_goesThrough (q := fun _ _ => False) l.client l.host _
    exact .named (hnamed.append (hobeys.of_after hrest).1)

/-- **From when a session has its socket, this is the one it owns.** -/
theorem Named.owns_iff (h : l.Named t number process) :
    l.Owns t path ↔ path = l.socket number process := by
  obtain ⟨t₀, u, rfl, hbefore, hsince⟩ := h
  constructor
  · rintro ⟨number', process', hnumber, hprocess, hpath⟩
    -- no other number is drawn, and the process is not asked for again
    have hnumber' : number' = number := by
      rcases List.mem_append.1 hnumber with hmem | hmem
      · exact (hbefore _ hmem).elim
      · simp only [List.mem_cons, Deed.changed.injEq, reduceCtorEq, false_or] at hmem
        exact hmem.elim And.left fun hmem => (hsince _ hmem).elim
    have hprocess' : process' = process := by
      rcases List.mem_append.1 hprocess with hmem | hmem
      · exact (hbefore _ hmem).elim
      · simp only [List.mem_cons, reduceCtorEq, false_or, Deed.asked.injEq, heq_eq_eq,
          true_and] at hmem
        exact hmem.elim id fun hmem => (hsince _ hmem).elim
    rw [hpath, hnumber', hprocess']
  · intro hpath
    exact ⟨number, process, by simp, by simp, hpath⟩

/-- A session owns a socket only from when it has got it. -/
theorem Course.exists_named (ht : l.Course t) (h : l.Owns t path) :
    ∃ number process, l.Named t number process ∧ path = l.socket number process := by
  cases ht with
  | early hbefore =>
    obtain ⟨_, _, hnumber, -, -⟩ := h
    exact (hbefore _ hnumber).elim
  | numbered number hbefore =>
    obtain ⟨_, process, -, hprocess, -⟩ := h
    rcases List.mem_append.1 hprocess with hmem | hmem
    · exact (hbefore _ hmem).elim
    · exact absurd hmem (by simp)
  | named hnamed => exact ⟨_, _, hnamed, hnamed.owns_iff.1 h⟩

/-- **What is neither preparation nor asks for the process goes through the socket.** -/
theorem Course.exists_owns (ht : l.Course t) {r : Request} {reply : r.Reply}
    (hmem : .asked r reply ∈ t) (hprepares : ¬r.Prepares) (hprocess : r ≠ .processId) :
    ∃ path, l.Owns t path ∧ Request.GoesThrough path r := by
  cases ht with
  | early hbefore => exact absurd (hbefore _ hmem) hprepares
  | numbered number hbefore =>
    rcases List.mem_append.1 hmem with hmem | hmem
    · exact absurd (hbefore _ hmem) hprepares
    · exact absurd hmem (by simp)
  | named hnamed =>
    refine ⟨_, hnamed.owns_iff.2 rfl, ?_⟩
    obtain ⟨t₀, u, rfl, hbefore, hsince⟩ := hnamed
    rcases List.mem_append.1 hmem with hmem | hmem
    · exact absurd (hbefore _ hmem) hprepares
    · simp only [List.mem_cons, reduceCtorEq, false_or, Deed.asked.injEq, hprocess,
        false_and] at hmem
      exact hsince _ hmem

/-- **Numbers are counted up** in a life. -/
theorem action_obeys (l : SshSession.Life) :
    l.action.Obeys (fun _ => True) fun n m => m = n + 1 := by
  have hallows : Request.AllowsConnect fun _ => True :=
    ⟨⟨fun _ => trivial, fun _ => trivial, fun _ _ _ => trivial, fun _ => trivial⟩, fun _ => trivial,
      fun _ => trivial, trivial, fun _ => trivial, fun _ => trivial⟩
  have hconnect : (l.client.connect l.host).Obeys (fun _ => True) fun n m => m = n + 1 :=
    l.client.connect_obeys l.host (hallows.opening _) fun _ => rfl
  refine hconnect.bind fun reply => ?_
  cases reply with
  | error e => trivial
  | ok s =>
    have hexec : ∀ command input, (s.exec command input : Action Nat _).Obeys (fun _ => True)
        fun n m => m = n + 1 :=
      fun command input => s.exec_obeys command input (fun _ => trivial) trivial
    exact (s.useAll_obeys hexec (s.isAlive_obeys hallows.toAllowsUpkeep) l.uses).bind fun _ =>
      s.close_obeys hallows.toAllowsUpkeep

end SshSession.Life

/-! ## All sessions -/

/-- **Numbers that are counted up are drawn once.** -/
theorem Deed.Passes.distinct {past : List (Nat × Deed Nat)} {s s' : Nat}
    (h : Passes id s (past.map Prod.snd) s')
    (hnext : ∀ i n m, (i, .changed n m) ∈ past → m = n + 1) :
    (∀ i n m, (i, .changed n m) ∈ past → s ≤ n) ∧
      ∀ i j n m m', (i, .changed n m) ∈ past → (j, .changed n m') ∈ past → i = j := by
  induction past generalizing s with
  | nil => simp
  | cons p past ih =>
    obtain ⟨k, d⟩ := p
    have hnext' : ∀ i n m, (i, .changed n m) ∈ past → m = n + 1 :=
      fun i n m hmem => hnext i n m (List.mem_cons_of_mem _ hmem)
    cases d with
    | asked | forked =>
      obtain ⟨hle, heq⟩ := ih h hnext'
      simpa using And.intro hle heq
    | changed n₀ m₀ =>
      obtain rfl : m₀ = n₀ + 1 := hnext k n₀ m₀ List.mem_cons_self
      obtain ⟨rfl, hrest⟩ : n₀ = s ∧ Passes id (n₀ + 1) (past.map Prod.snd) s' := h
      obtain ⟨hle, heq⟩ := ih hrest hnext'
      -- all later numbers are greater than this one
      have hlt : ∀ i m, (i, .changed n₀ m) ∉ past := fun i m hmem => by
        have := hle i n₀ m hmem
        omega
      constructor
      · intro i n m hmem
        simp only [List.mem_cons, Prod.mk.injEq, Deed.changed.injEq] at hmem
        rcases hmem with ⟨-, rfl, -⟩ | hmem
        · exact le_rfl
        · have := hle i n m hmem
          omega
      · intro i j n m m' hi hj
        simp only [List.mem_cons, Prod.mk.injEq, Deed.changed.injEq] at hi hj
        rcases hi with ⟨rfl, rfl, -⟩ | hi <;> rcases hj with ⟨rfl, hn, -⟩ | hj
        · rfl
        · exact absurd hj (hlt j m')
        · exact absurd (hn ▸ hi) (hlt i m)
        · exact heq i j n m m' hi hj

/-- **All sessions have sockets of their own**, whatever was done so far. -/
structure SshSession.Apart (lives : List SshSession.Life) (c : Scene Nat) : Prop where
  /-- The socket of a session lies directly in the directory of its client. -/
  inside : ∀ {i : Nat} {l : Life} {path : String}, lives[i]? = some l →
    l.Owns (c.pastOf i) path → Path.IsIn l.client.controlDir path
  /-- A session has one socket. -/
  one : ∀ {i : Nat} {l : Life} {path path' : String}, lives[i]? = some l →
    l.Owns (c.pastOf i) path → l.Owns (c.pastOf i) path' → path = path'
  /-- Two sessions never have the same socket. -/
  distinct : ∀ {i j : Nat} {l l' : Life} {path : String}, lives[i]? = some l →
    lives[j]? = some l' → l.Owns (c.pastOf i) path → l'.Owns (c.pastOf j) path → i = j
  /-- Whatever program is called for a session is told the socket of this session and no other. -/
  told : ∀ {i : Nat} {l : Life} {program : String} {args : List String}
    {input : Option ByteArray} {reply : Except Fault CommandResult}, lives[i]? = some l →
    .asked (.run program args input) reply ∈ c.pastOf i →
      ∃ path, l.Owns (c.pastOf i) path ∧ SshClient.socketsOf args = [path]
  /-- Only this socket is looked for. -/
  sought : ∀ {i : Nat} {l : Life} {path : String} {reply : Bool}, lives[i]? = some l →
    .asked (.isPresent path) reply ∈ c.pastOf i → l.Owns (c.pastOf i) path

namespace SshSession

variable {answers : Answers} {lives : List Life} {first : Nat} {sys : System Nat}

/-- **All sessions that are ever opened have sockets of their own**: whichever hosts they are for,
in whatever order they are opened, used and closed, and whether opening them succeeds. -/
theorem apart (h : System.Reaches answers (.start first (lives.map Life.action)) sys) :
    Apart lives sys.scene := by
  have hcourse : ∀ {i : Nat} {l : Life}, lives[i]? = some l → l.Course (sys.scene.pastOf i) := by
    intro i l hl
    obtain ⟨t, y, -, hpast, hafter⟩ :=
      h.exists_after (i := i) (x := l.action) (by simp [System.start, hl])
    have hnil : (System.start first (lives.map Life.action)).scene.pastOf i = [] := rfl
    rw [hpast, hnil, List.nil_append]
    exact Life.course_of_after hafter
  have hobeys : ∀ x ∈ lives.map Life.action, x.Obeys (fun _ => True) fun n m => m = n + 1 := by
    simpa using fun l _ => l.action_obeys
  have hnext : ∀ i n m, (i, .changed n m) ∈ sys.scene.past → m = n + 1 := fun i n m hmem => by
    obtain ⟨t, u, hpast⟩ := List.append_of_mem (Scene.mem_pastOf_iff.2 hmem)
    exact h.forall_deeds (P := fun _ d => d.Obeys (fun _ => True) fun n m => m = n + 1)
      (fun x hx => ⟨(hobeys x hx).each fun _ _ hd => hd, (hobeys x hx).starts⟩)
      (fun _ _ hd => hd) hpast
  have hdistinct := (h.passes_past (f := id)).distinct hnext
  constructor
  case inside =>
    intro i l path hl howns
    obtain ⟨number, process, -, hpath⟩ := (hcourse hl).exists_named howns
    rw [hpath]
    exact SshClient.isIn_controlPath _ _ _ _
  case one =>
    intro i l path path' hl howns howns'
    obtain ⟨number, process, hnamed, hpath⟩ := (hcourse hl).exists_named howns
    exact hpath.trans (hnamed.owns_iff.1 howns').symm
  case distinct =>
    rintro i j l l' path hl hl' ⟨number, process, hnumber, -, hpath⟩
      ⟨number', process', hnumber', -, hpath'⟩
    obtain rfl := SshClient.number_eq_of_controlPath_eq (hpath.symm.trans hpath')
    exact hdistinct.2 i j number _ _ (Scene.mem_pastOf_iff.1 hnumber)
      (Scene.mem_pastOf_iff.1 hnumber')
  case told =>
    intro i l program args input reply hl hmem
    exact (hcourse hl).exists_owns hmem id (by simp)
  case sought =>
    intro i l path reply hl hmem
    obtain ⟨path', howns, rfl⟩ := (hcourse hl).exists_owns hmem id (by simp)
    exact howns

/-- A client that keeps its sockets in one directory. -/
def sampleClient : SshClient where
  controlDir := "/run/sockets"
  connectTimeout := 10

/-- Two sessions, with hosts whose names differ only in what a socket does not show. -/
def sampleLives : List Life :=
  [⟨sampleClient, { name := "a.b", address := "192.0.2.1" }, [.exec "true" none]⟩,
    ⟨sampleClient, { name := "a_b", address := "192.0.2.2" }, [.isAlive]⟩]

/-- Surroundings in which sockets are there. -/
def replyPresent : (r : Request) → r.Reply
  | .isPresent _ => true
  | r => r.usual

/-- Surroundings in which sockets are there, and the client always fails. -/
def replyFailing : (r : Request) → r.Reply
  | .isPresent _ => true
  | .run _ _ _ => .ok { code := some 255 }
  | r => r.usual

/-- Both sessions in turns, up to their ends: the first one is used and closed, and the second one
cannot be opened. -/
def sampleEnd : System Nat :=
  (System.start 0 (sampleLives.map Life.action)).follow
    (List.replicate 16 [(0, replyPresent), (1, replyFailing)]).flatten

theorem apart_sampleEnd :
    System.Reaches (fun _ _ _ => True) (.start 0 (sampleLives.map Life.action)) sampleEnd ∧
      sampleEnd.threads = [done (), done ()] ∧
      sampleLives[0].Owns (sampleEnd.scene.pastOf 0) "/run/sockets/a_b-0-0.sock" ∧
      sampleLives[1].Owns (sampleEnd.scene.pastOf 1) "/run/sockets/a_b-0-1.sock" ∧
      Apart sampleLives sampleEnd.scene := by
  have hreach : System.Reaches (fun _ _ _ => True) (.start 0 (sampleLives.map Life.action))
      sampleEnd := System.reaches_follow fun _ _ _ => trivial
  have hdone : sampleEnd.threads = [done (), done ()] := rfl
  have hfirst : sampleLives[0].Owns (sampleEnd.scene.pastOf 0) "/run/sockets/a_b-0-0.sock" :=
    ⟨0, 0, List.mem_of_getElem? (i := 2) rfl, List.mem_of_getElem? (i := 3) rfl, by decide +kernel⟩
  have hsecond : sampleLives[1].Owns (sampleEnd.scene.pastOf 1) "/run/sockets/a_b-0-1.sock" :=
    ⟨1, 0, List.mem_of_getElem? (i := 2) rfl, List.mem_of_getElem? (i := 3) rfl, by decide +kernel⟩
  exact ⟨hreach, hdone, hfirst, hsecond, apart hreach⟩

end SshSession

end NetUnits
