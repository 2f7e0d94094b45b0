import NetUnits.Proofs.Action.Course
import NetUnits.Proofs.Shell.Session

/-! # Sessions that were opened

A request for a session may fail. What a transport gives back tells whether it did.

* **`Deed.opens`** — a session was opened.
* **`Action.Reports`** — an action succeeds if it has opened a session, and only then;
  **`Transport.connect_reports`** — so does a transport.
* **`Transport.connect_starts`**, `Session.exec_starts` and so on — sessions start nothing beside
  what they do. -/

namespace NetUnits

open NetUnits.Action

/-- **A request for a session was successful**, by the reply to it. -/
def Request.opened : (r : Request) → r.Reply → Bool
  | .connect _, .ok _ => true
  | .run _ args _, .ok result => SshSession.establishes args && result.success
  | _, _ => false

/-- **A deed opens a session.** -/
def Deed.opens {σ : Type} : Deed σ → Bool
  | .asked r reply => r.opened reply
  | _ => false

variable {σ τ : Type} {ε α β : Type}

/-- Only requests for sessions open them. -/
theorem Request.opened_eq_false {r : Request} (h : r.opening? = none) (reply : r.Reply) :
    r.opened reply = false := by
  unfold opened
  split
  · cases h
  · rename_i program args bytes result
    have hargs : SshSession.establishes args = false := by
      by_contra hargs
      simp [opening?, hargs] at h
    rw [hargs, Bool.false_and]
  · rfl

theorem Deed.opens_eq_false {d : Deed σ} {q : σ → σ → Prop}
    (h : d.Obeys (fun r => r.opening? = none) q) : d.opens = false := by
  cases d with
  | asked r reply => exact Request.opened_eq_false h reply
  | changed | forked => rfl

namespace Action

/-- **An action reports whether it has opened a session**: it succeeds if it has, and only then. -/
def Reports (x : Action σ (Except ε α)) : Prop :=
  ∀ t reply, Run x t reply → ((∃ d ∈ t, d.opens = true) ↔ ∃ a, reply = .ok a)

theorem Avoids.not_opens {x y : Action σ α} (h : x.Avoids Request.opening?) {t : List (Deed σ)}
    (hafter : After x t y) : ¬ ∃ d ∈ t, d.opens = true := by
  rintro ⟨d, hd, hopens⟩
  rw [Deed.opens_eq_false ((h.of_after hafter).1 d hd)] at hopens
  cases hopens

theorem reports_error (e : ε) : (done (.error e) : Action σ (Except ε α)).Reports := by
  intro t reply hrun
  obtain ⟨rfl, rfl⟩ := run_done_iff.1 hrun
  simp

/-- What asks for no session before does not matter. -/
theorem Avoids.bind_reports {x : Action σ β} {f : β → Action σ (Except ε α)}
    (hx : x.Avoids Request.opening?) (hf : ∀ b, (f b).Reports) : (x >>= f).Reports := by
  intro t reply hrun
  obtain ⟨t₁, t₂, b, rfl, h₁, h₂⟩ := run_bind_iff.1 hrun
  rw [← hf b t₂ reply h₂]
  have hnot := hx.not_opens h₁
  constructor
  · rintro ⟨d, hd, hopens⟩
    exact ⟨d, (List.mem_append.1 hd).resolve_left fun hd => hnot ⟨d, hd, hopens⟩, hopens⟩
  · rintro ⟨d, hd, hopens⟩
    exact ⟨d, List.mem_append_right _ hd, hopens⟩

/-- A result that says the same as another one reports the same. -/
theorem Reports.map {x : Action σ (Except ε α)} {f : Except ε α → Except ε β} (hx : x.Reports)
    (hf : ∀ r, (∃ b, f r = .ok b) ↔ ∃ a, r = .ok a) : (x >>= fun r => done (f r)).Reports := by
  intro t reply hrun
  obtain ⟨t₁, t₂, r, rfl, h₁, h₂⟩ := run_bind_iff.1 hrun
  obtain ⟨rfl, rfl⟩ := run_done_iff.1 h₂
  rw [List.append_nil, hx t₁ r h₁, hf]

theorem Reports.inside {x : Action τ (Except ε α)} (h : x.Reports) (part : Part σ τ) :
    (x.inside part).Reports := by
  have hopens : ∀ {ρ : Type} (t : List (Deed ρ)), (∃ d ∈ t, d.opens = true) ↔
      ∃ e ∈ Deed.exchanges t, e.1.opened e.2 = true := fun t => by
    constructor
    · rintro ⟨d, hd, hopens⟩
      cases d with
      | asked r reply => exact ⟨⟨r, reply⟩, Deed.mem_exchanges_iff.2 hd, hopens⟩
      | changed | forked => cases hopens
    · rintro ⟨⟨r, reply⟩, he, hopens⟩
      exact ⟨.asked r reply, Deed.mem_exchanges_iff.1 he, hopens⟩
  intro t reply hrun
  obtain ⟨t', hrun', ht⟩ := exists_run_of_inside hrun
  rw [hopens, ← ht, ← hopens]
  exact h t' reply hrun'

end Action

/-! ## Transports -/

/-- **A client reports whether it has established a session.** -/
theorem SshClient.establish_reports (s : SshSession) :
    (SshClient.establish s : Action σ _).Reports := by
  have hclose : (s.close : Action σ _).Avoids Request.opening? :=
    s.close_obeys Request.allowsUpkeep_opening
  refine Avoids.bind_reports (avoids_event rfl) fun _ t reply hrun => ?_
  obtain ⟨t₁, t₂, r, rfl, hcall, hrest⟩ := run_bind_iff.1 hrun
  -- the call asks for the session, and what follows closes at most
  have hcalled : (∃ d ∈ t₁, d.opens = true) ↔ ∃ result, r = .ok result ∧ result.success = true := by
    rw [SshSession.call] at hcall
    obtain ⟨t₃, t₄, r', rfl, hprogram, hr⟩ := run_bind_iff.1 hcall
    obtain ⟨t₅, t₆, _, rfl, hevent, hrequest⟩ := run_bind_iff.1 hprogram
    obtain rfl := run_request_iff.1 hevent
    obtain ⟨t₇, t₈, answer, rfl, hask, hdone⟩ := run_bind_iff.1 hrequest
    obtain rfl := run_request_iff.1 hask
    obtain ⟨rfl, rfl⟩ := run_done_iff.1 hdone
    cases answer with
    | error fault =>
      obtain ⟨rfl, rfl⟩ := run_done_iff.1 hr
      simp [Deed.opens, Request.opened]
    | ok result =>
      obtain ⟨rfl, rfl⟩ := run_done_iff.1 hr
      simp [Deed.opens, Request.opened]
  have hfailed : ∀ {e : ConnectorError}, (¬ ∃ result, r = .ok result ∧ result.success = true) →
      Run (s.close >>= fun _ => done (.error e) : Action σ (Except ConnectorError SshSession)) t₂
        reply → ((∃ d ∈ t₁ ++ t₂, d.opens = true) ↔ ∃ a, reply = .ok a) := by
    intro e hnone hend
    obtain ⟨t₃, t₄, _, rfl, hclosed, hdone⟩ := run_bind_iff.1 hend
    obtain ⟨rfl, rfl⟩ := run_done_iff.1 hdone
    refine iff_of_false ?_ (by simp)
    rw [List.append_nil]
    rintro ⟨d, hd, hopens⟩
    obtain hd | hd := List.mem_append.1 hd
    · exact hnone (hcalled.1 ⟨d, hd, hopens⟩)
    · exact hclose.not_opens hclosed ⟨d, hd, hopens⟩
  cases r with
  | error e => exact hfailed (by simp) hrest
  | ok result =>
    simp only at hrest
    split at hrest
    · rename_i hsuccess
      obtain ⟨rfl, rfl⟩ := run_done_iff.1 hrest
      rw [List.append_nil]
      exact iff_of_true (hcalled.2 ⟨result, rfl, hsuccess⟩) ⟨s, rfl⟩
    · rename_i hsuccess
      exact hfailed (by simpa using hsuccess) hrest

theorem SshClient.connect_reports (client : SshClient) (host : HostEntry) :
    (client.connect host).Reports := by
  unfold SshClient.connect
  cases host.validate with
  | error e => exact reports_error _
  | ok =>
    refine Avoids.bind_reports (avoids_request (.findProgram client.program) rfl) fun found => ?_
    cases found with
    | false => exact reports_error _
    | true =>
      refine Avoids.bind_reports (avoids_request (.makeDirs client.controlDir) rfl) fun made => ?_
      cases made with
      | error fault => exact reports_error _
      | ok =>
        have hnumber : SshClient.nextNumber.Avoids Request.opening? :=
          obeys_change fun _ => trivial
        exact hnumber.bind_reports fun _ => (avoids_request .processId rfl).bind_reports
          fun _ => SshClient.establish_reports _

/-- **A transport reports whether it has opened a session.** -/
theorem Transport.connect_reports (t : Transport) (host : HostEntry) :
    (t.connect host).Reports := by
  cases t with
  | ssh client =>
    have hmap := (client.connect_reports host).map (f := fun r => r.map Session.ssh) fun r => by
      cases r <;> simp [Except.map]
    refine (congrArg Action.Reports (bind_congr fun r => ?_)).mp hmap
    cases r <;> rfl
  | external =>
    intro t reply hrun
    obtain ⟨t₁, t₂, r, rfl, hask, hdone⟩ := run_bind_iff.1 hrun
    obtain rfl := run_request_iff.1 hask
    cases r with
    | ok number | error e =>
      obtain ⟨rfl, rfl⟩ := run_done_iff.1 hdone
      simp [Deed.opens, Request.opened]

/-! ## Nothing is started -/

section Starts

variable {Q : Action σ Unit → Prop}

theorem SshSession.call_starts (s : SshSession) (args : List String) (bytes : Option ByteArray) :
    (s.call args bytes : Action σ _).Starts Q := by
  cases bytes <;> exact fun _ reply => by cases reply <;> trivial

theorem SshSession.close_starts (s : SshSession) : (s.close : Action σ _).Starts Q := by
  refine (starts_request _).bind fun present => ?_
  cases present with
  | false => trivial
  | true => exact (starts_request _).bind fun _ => (s.call_starts _ _).bind fun _ => trivial

theorem Session.exec_starts (s : Session) (command : String) (bytes : Option ByteArray) :
    (s.exec command bytes : Action σ _).Starts Q := by
  cases s with
  | external number => exact starts_request _
  | ssh session =>
    refine (starts_request _).bind fun _ => (session.call_starts _ _).bind fun reply => ?_
    cases reply with
    | error e => trivial
    | ok result =>
      simp only
      split <;> trivial

theorem Session.isAlive_starts (s : Session) : (s.isAlive : Action σ _).Starts Q := by
  cases s with
  | external number => exact starts_request _
  | ssh session => exact (session.call_starts _ _).bind fun reply => by cases reply <;> trivial

theorem Session.close_starts (s : Session) : (s.close : Action σ _).Starts Q := by
  cases s with
  | external number => trivial
  | ssh session => exact session.close_starts

theorem SshClient.establish_starts (s : SshSession) :
    (SshClient.establish s : Action σ _).Starts Q := by
  refine (starts_request _).bind fun _ => (s.call_starts _ _).bind fun reply => ?_
  cases reply with
  | error e => exact s.close_starts.bind fun _ => trivial
  | ok result =>
    simp only
    split
    · trivial
    · exact s.close_starts.bind fun _ => trivial

theorem Transport.connect_starts {Q : Action Nat Unit → Prop} (t : Transport) (host : HostEntry) :
    (t.connect host).Starts Q := by
  cases t with
  | external => exact (starts_request _).bind fun reply => by cases reply <;> trivial
  | ssh client =>
    have hconnect : (client.connect host).Starts Q := by
      unfold SshClient.connect
      cases host.validate with
      | error e => trivial
      | ok =>
        refine (starts_request _).bind fun found => ?_
        cases found with
        | false => trivial
        | true =>
          refine (starts_request _).bind fun made => ?_
          cases made with
          | error fault => trivial
          | ok =>
            exact (starts_change _).bind fun _ => (starts_request _).bind fun _ =>
              SshClient.establish_starts _
    exact hconnect.bind fun reply => by cases reply <;> trivial

end Starts

end NetUnits
