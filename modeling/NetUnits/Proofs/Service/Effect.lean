import NetUnits.Proofs.Service.Loadable
import NetUnits.Proofs.Service.Progress

/-! # What commands on registered hosts come to

A command that has returned has changed the registry, and then nobody was left with the old entry
who could still keep a connector from it. So whoever looks the host up from then on finds what the
command or a later one has made of the host. Only a generation that is found out meanwhile may be
remembered although its host was removed, and it is used where nothing but the generation is needed.
Nobody waits for ever, so an operation on a host that was removed fails and does not hang.

* **`Service.exists_changed`**, **`Service.exists_forgotten`** — the moments at which a command has
  changed the registry and has made the service forget the host.
* **`Service.TakesEffect`** — what a command that has returned comes to; **`Service.takesEffect`** —
  it does so in all orders of steps.
* **`Service.answers_removed`** — a generation that is found out during a removal outlives it, and
  what that does to operations. -/

namespace NetUnits.Service

open NetUnits.Action NetUnits.Deed NetUnits.ConnectorPool NetUnits.ServiceState

variable {answers : Answers} {s : Service} {σ : ServiceState} {tasks : List (List Task)}
  {sys₀ sys₁ sys : System ServiceState} {h : String} {t u : List (Deed ServiceState)}
  {i j : Nat} {command : CommandLine.HostsCommand}

/-! ## The moments of a command -/

/-- **When a command has changed the registry**, the entry for its host is its own one, and the host
is not this machine. -/
theorem exists_changed
    (hfirst : ∀ name entry, (hosts σ).get? name = some entry → isLocalHost name = false)
    (hreach : System.Reaches answers (s.served σ tasks) sys₁)
    {b : List (Deed ServiceState)} (hpast : sys₁.scene.pastOf j = t ++ b ++ u)
    (hchanges : Changes command b) (hhost : hostOf? command = some h) :
    ∃ sys₀, System.Reaches answers (s.served σ tasks) sys₀ ∧ System.Reaches answers sys₀ sys₁ ∧
      sys₀.scene.pastOf j = t ++ b ∧ sys₀.scene.holder .registry = none ∧
        (∀ entry, (hosts sys₀.scene.state).get? h = some entry →
          entry.name = h ∧ command = .add entry) ∧ isLocalHost h = false := by
  obtain ⟨v, rfl, hspares, hmade⟩ := hchanges.exists_locked hhost
  have hsplit : sys₁.scene.pastOf j = (s.served σ tasks).scene.pastOf j ++
      (t ++ .asked (.acquire .registry) () :: v) ++ .asked (.release .registry) () :: u := by
    rw [hpast]
    simp [locked, served, System.start, Scene.pastOf]
  obtain ⟨sys', sys₀, hreach', hstep, hreach₀, hmay, hscene, hpast'⟩ := hreach.exists_moment hsplit
  have hpast' : sys'.scene.pastOf j = t ++ .asked (.acquire .registry) () :: v := hpast'
  -- just before the lock is given back
  have hsince : since .registry (sys'.scene.pastOf j) = some v := by
    rw [hpast']
    exact since_append_of_some (since_cons_acquire hspares)
  obtain ⟨w, hpasses⟩ := System.Reaches.passes_since hreach' (guards_of_served hreach') hsince
  obtain ⟨hentry, hlocal⟩ := hmade w _ hpasses
  refine ⟨sys₀, hreach'.trans hstep.reaches, hreach₀, ?_, ?_, ?_, hlocal fun name entry =>
    isLocalHost_of_settled hfirst hreach' (.inr ⟨j, v, hsince, hpasses⟩)⟩
  · rw [hscene, Scene.pastOf_after_self, hpast']
    simp [locked]
  · rw [hscene, Scene.holder_after_release, Function.update_self]
  · rw [hscene]
    exact hentry

/-- **When a command has made the service forget a host**: first no connector was kept for it, and
before that none could be made from an entry that was read earlier; then its generation was not
remembered. -/
theorem exists_forgotten {b : List (Deed ServiceState)}
    (hreach : System.Reaches answers sys₀ sys₁)
    (hpast : sys₁.scene.pastOf j = sys₀.scene.pastOf j ++ b ++ u)
    (hrun : Run (Service.invalidate h) b ()) :
    ∃ sysL sysC sysG : System ServiceState, System.Reaches answers sys₀ sysL ∧
      System.Reaches answers sysL sysC ∧ System.Reaches answers sysC sysG ∧
        System.Reaches answers sysG sys₁ ∧ sysL.scene.holder .connectors = none ∧
          sysC.scene.state.pool.kept.get? h = none ∧
            sysG.scene.state.generations.get? h = none := by
  obtain ⟨σ₁, σ₂, v, σ₃, σ₄, rfl, hkept, hknown⟩ := exists_of_run_invalidate hrun
  have hsplit : sys₁.scene.pastOf j = sys₀.scene.pastOf j ++ [] ++
      .asked (.acquire .connectors) () ::
        ([.changed σ₁ σ₂] ++ v ++ .changed σ₃ σ₄ :: u) := by rw [hpast]; simp
  obtain ⟨sysL, sys₂, hL, hstep₂, h₂, hmay, hscene₂, hpastL⟩ := hreach.exists_moment hsplit
  have hsplit₂ : sys₁.scene.pastOf j = sys₂.scene.pastOf j ++ [] ++
      .changed σ₁ σ₂ :: (v ++ .changed σ₃ σ₄ :: u) := by
    rw [hsplit, hscene₂, Scene.pastOf_after_self, hpastL]
    simp
  obtain ⟨sys₃, sysC, h₃, hstepC, hC, -, hsceneC, hpast₃⟩ := h₂.exists_moment hsplit₂
  have hsplit₃ : sys₁.scene.pastOf j = sysC.scene.pastOf j ++ v ++ .changed σ₃ σ₄ :: u := by
    rw [hsplit₂, hsceneC, Scene.pastOf_after_self, hpast₃]
    simp
  obtain ⟨sys₄, sysG, h₄, hstepG, hG, -, hsceneG, -⟩ := hC.exists_moment hsplit₃
  refine ⟨sysL, sysC, sysG, hL, (hstep₂.reaches.trans h₃).trans hstepC.reaches,
    h₄.trans hstepG.reaches, hG, hmay.1, ?_, ?_⟩
  · rw [hsceneC]
    exact hkept
  · rw [hsceneG]
    exact hknown

/-! ## What is found -/

/-- **A generation for a host is found out while a command is carried out**: it was begun before the
command has returned, and ended after the command has changed the registry. -/
def FindsOut (s : Service) (h : String) (sys₀ sys₁ sys : System ServiceState) : Prop :=
  ∃ k p q r g, sys.scene.pastOf k = p ++ q ++ r ∧
    Probed s h (fun g => done (.ok g)) q (.ok g) ∧
      p.length < (sys₁.scene.pastOf k).length ∧ (sys₀.scene.pastOf k).length < (p ++ q).length

/-- **What a command on a host comes to** that has returned, after a moment at which it has changed
the registry. -/
structure TakesEffect (answers : Answers) (s : Service) (command : CommandLine.HostsCommand)
    (h : String) (sys₀ sys₁ : System ServiceState) : Prop where
  /-- Each connector for the host that is looked up from then on was made from the entry that the
  command has added, or from one that was added later. -/
  fresh : ∀ sys, System.Reaches answers sys₁ sys → ∀ i t a u c,
    sys.scene.pastOf i = sys₁.scene.pastOf i ++ t ++ a ++ u →
      Run ((s.pool.lookup h).inside poolPart) a (.ok c) →
        MadeFrom s (fun entry => command = .add entry) h sys₀ sys c
  /-- After a removal, and as long as the host is not added again, each operation on the host that
  begins from then on opens no session, and it fails because the host is unknown, or is refused for
  its arguments. Only the generation for the host, and a document that is written for it, may come to
  something else, and only if a generation for the host was found out while the command was carried
  out. -/
  unknown : command = .remove h → ∀ sys, System.Reaches answers sys₁ sys →
    (∀ entry, entry.name = h → ¬ AddedSince sys₀ sys entry) → ∀ i t a u,
      sys.scene.pastOf i = sys₁.scene.pastOf i ++ t ++ a ++ u →
        ∀ (α : Type) (refusal : Option ServiceError) (others : Except ServiceError α → Prop)
          (x : Action ServiceState (Except ServiceError α)) result, OnHost s h refusal others x →
            Run x a result → Deed.collect Request.opening? a = [] ∧
              (result = .error (errorOf h refusal) ∨
                others result ∧ FindsOut s h sys₀ sys₁ sys)
  /-- The service does not go on for ever. -/
  ends : Acc (fun sys' sys => ∃ i, System.Step answers i sys sys') sys₁
  /-- When nothing can go on any more, all that the service was asked is done, if the surroundings
  always reply: no operation waits for ever. -/
  served : (∀ i r, ∃ reply, answers i r reply) → ∀ sys, System.Reaches answers sys₁ sys →
    (∀ i sys', ¬ System.Step answers i sys sys') → ∀ x ∈ sys.threads, x = done ()

/-! ## All orders of steps -/

/-- **Nothing is found of a host** where no connector for it can have been made. -/
theorem unfound_of_not_madeFrom {own : HostEntry → Prop} {a : List (Deed ServiceState)}
    (hkept : ∀ sys', System.Reaches answers sys₁ sys' → ∀ c,
      sys'.scene.state.pool.kept.get? h = some c → MadeFrom s own h sys₀ sys' c)
    (hreach : System.Reaches answers sys₁ sys)
    (hpast : sys.scene.pastOf i = sys₁.scene.pastOf i ++ t ++ a ++ u)
    (hnone : ∀ c, ¬ MadeFrom s own h sys₀ sys c) : Unfound s h a := by
  rintro v c ⟨v₁, v₂, rfl⟩ hrun
  exact hnone c (madeFrom_of_lookup hkept hreach (t := t ++ v₁) (u := v₂ ++ u)
    (by rw [hpast]; simp) hrun)

/-- **A generation that is met after a host was forgotten** was found out meanwhile, if nothing is
found of the host any more, and so it can be loaded. -/
theorem loadable_and_findsOut_of_meets {g : Nat} {sysG : System ServiceState} {a : List (Deed ServiceState)}
    (hreachG : System.Reaches answers (s.served σ tasks) sysG)
    (hnone : sysG.scene.state.generations.get? h = none)
    (h₀ : System.Reaches answers sys₀ sysG) (h₁ : System.Reaches answers sysG sys₁)
    (hlocal : isLocalHost h = false) (hreach : System.Reaches answers sys₁ sys)
    (hfound : ∀ k p q r, sys.scene.pastOf k = sys₁.scene.pastOf k ++ p ++ q ++ r → Unfound s h q)
    (hpast : sys.scene.pastOf i = sys₁.scene.pastOf i ++ t ++ a ++ u) (hmeets : Meets h g a) :
    s.Loadable g ∧ FindsOut s h sys₀ sys₁ sys := by
  obtain ⟨σ', hmem, hknown⟩ := hmeets
  -- what is met was remembered at that moment
  obtain ⟨sys₂, sys₃, h₂, hstep, h₃, hmay, -⟩ := hreach.exists_step (t := t ++ a ++ u)
    (by rw [hpast]; simp) (List.mem_append_left _ (List.mem_append_right _ hmem))
  obtain rfl : σ' = sys₂.scene.state := hmay
  rw [hostKey_of_not_isLocalHost hlocal] at hknown
  obtain ⟨k, p, q, r, host, hhost, hpast₂, hprobed, hlt⟩ :=
    exists_probed hreachG hnone (h₁.trans h₂) hknown
  obtain rfl := eq_of_hostKey_eq hlocal hhost
  obtain ⟨w, hw⟩ := System.Reaches.exists_pastOf (hstep.reaches.trans h₃) k
  refine ⟨hprobed.loadable, k, p, q, r ++ w, g, by rw [hw, hpast₂, List.append_assoc], hprobed,
    ?_, ?_⟩
  · -- otherwise it was begun later, and nothing was found of the host
    by_contra hle
    obtain ⟨v, hv⟩ := h₂.exists_pastOf k
    have hprefix : sys₁.scene.pastOf k <+: p := List.prefix_of_prefix_length_le
      ⟨v, hv.symm⟩ ⟨q ++ r, by rw [hpast₂, List.append_assoc]⟩ (by omega)
    obtain ⟨p, rfl⟩ := hprefix
    have hunfound : Unfound s host q := hfound k p q (r ++ w) (by rw [hw, hpast₂]; simp)
    cases hprobed with
    | failed _ _ _ hfailure => cases hfailure
    | @answered σ₁ σ₂ t₁ t₂ t₃ output _ hcall _ _ heq =>
      have hinfix : t₁ <:+: q := ⟨[.changed σ₁ σ₁], t₂ ++
        .changed σ₂ (remembering σ₂ host (s.fitting output)) :: t₃, by rw [heq]; simp⟩
      cases (eq_unknownHost_of_run_call hlocal hcall (hunfound.of_infix hinfix)).1
  · obtain ⟨v, hv⟩ := h₀.exists_pastOf k
    rw [hv, List.length_append] at hlt
    omega

/-- **A command on a host takes effect**, whatever else the service is asked to do at the same time,
in any order of steps: from when it has returned on, only the entry that it has left or a later one
is used for the host. -/
theorem takesEffect
    (hfirst : ∀ name entry, (hosts σ).get? name = some entry → isLocalHost name = false)
    (hreach : System.Reaches answers (s.served σ tasks) sys₁)
    {b : List (Deed ServiceState)} (hpast : sys₁.scene.pastOf j = t ++ b ++ u)
    (hrun : Run command.execute b (.ok ())) (hhost : hostOf? command = some h) :
    ∃ sys₀ b₁, System.Reaches answers (s.served σ tasks) sys₀ ∧
      System.Reaches answers sys₀ sys₁ ∧ sys₀.scene.pastOf j = t ++ b₁ ∧ b₁ <+: b ∧
        Changes command b₁ ∧ TakesEffect answers s command h sys₀ sys₁ := by
  obtain ⟨b₁, b₂, rfl, hchanges, hforget⟩ := exists_of_run_execute hhost hrun
  have hsplit : sys₁.scene.pastOf j = t ++ b₁ ++ (b₂ ++ u) := by rw [hpast]; simp
  obtain ⟨sys₀, hreach₀, h₀, hpast₀, hfree, hentry, hlocal⟩ :=
    exists_changed hfirst hreach hsplit hchanges hhost
  obtain ⟨sysL, sysC, sysG, hL, hC, hG, h₁, hunlocked, hgone, hforgotten⟩ :=
    exists_forgotten h₀ (u := u) (by rw [hpast, hpast₀]; simp) hforget
  have hkept : ∀ sys', System.Reaches answers sys₁ sys' → ∀ c,
      sys'.scene.state.pool.kept.get? h = some c →
        MadeFrom s (fun entry => command = .add entry) h sys₀ sys' c := fun sys' hsys' c =>
    madeFrom_of_kept hreach₀ hfree hentry hL hunlocked hC hgone ((hG.trans h₁).trans hsys')
  refine ⟨sys₀, b₁, hreach₀, h₀, hpast₀, List.prefix_append _ _, hchanges, ?_, ?_,
    System.wellFounded_step.apply sys₁, ?_⟩
  · exact fun sys hsys i t a u c hpast hlookup => madeFrom_of_lookup hkept hsys hpast hlookup
  · rintro rfl sys hsys hnever i t a u hpast α refusal others x result hx hrun
    have hfound : ∀ k p q r, sys.scene.pastOf k = sys₁.scene.pastOf k ++ p ++ q ++ r →
        Unfound s h q := fun k p q r hk => unfound_of_not_madeFrom hkept hsys hk <| by
      rintro c ⟨entry, number, -, hname, hown | hadded⟩
      · cases hown
      · exact hnever entry hname hadded
    have hmet : ∀ g, Meets h g a → s.Loadable g ∧ FindsOut s h sys₀ sys₁ sys := fun g =>
      loadable_and_findsOut_of_meets (((hreach₀.trans hL).trans hC).trans hG) hforgotten
        ((hL.trans hC).trans hG) h₁ hlocal hsys hfound hpast
    have husable : ∀ g, Meets h g a → s.Usable g := fun g hg c result hgot =>
      let ⟨generation, hok, _⟩ := exists_of_run_schemasOf (hmet g hg).1 hgot
      ⟨generation, hok⟩
    have hdenied := hx.denied hlocal
    refine ⟨hdenied.silent a result hrun (hfound i t a u hpast), ?_⟩
    exact (hdenied.fails a result hrun (hfound i t a u hpast) husable).imp_right
      fun ⟨hother, g, hg⟩ => ⟨hother, (hmet g hg).2⟩
  · intro hreply sys hsys hstuck x hx
    obtain ⟨i, hget⟩ := List.getElem?_of_mem hx
    refine System.eq_done_of_forall_not_step (hreach.trans hsys) (fun y hy => ?_) hreply hstuck hget
    obtain ⟨list, -, rfl⟩ := List.mem_map.1 hy
    exact perform_orderly list

/-- A service whose hosts were read from a file. -/
def routerState : ServiceState where
  pool := { registry := {
    path := ""
    hosts := Registry.hostsOf [{ name := "router", address := "192.0.2.1" }] } }

/-- A document that cannot be rendered for any generation: a section of it has no name. -/
def nameless : Document :=
  Dict.insert ∅ "" (.single ∅)

/-- The generation for a host is wanted while the host is removed, and once more after it, and then a
document is written. -/
def routerTasks : List (List Task) :=
  [[.generation "router"],
    [.hosts (.remove "router"), .delete "router" "../passwd", .generation "router",
      .write "router" "a.network" nameless]]

/-- The host has said its version, but that is not remembered yet when the host is removed. -/
def routerRemoved : System ServiceState :=
  (remoteSample.served routerState routerTasks).follow
    (List.replicate 22 (0, replyOfRouter) ++ List.replicate 12 (1, Request.usual))

theorem reaches_routerRemoved :
    System.Reaches (fun _ _ _ => True) (remoteSample.served routerState routerTasks)
      routerRemoved :=
  System.reaches_follow fun _ _ _ => trivial

theorem run_remove_router :
    Run (CommandLine.HostsCommand.remove "router").execute (routerRemoved.scene.pastOf 1)
      (.ok ()) := by
  have hafter : After (CommandLine.HostsCommand.remove "router").execute
      (routerRemoved.scene.pastOf 1) (done (.ok ())) :=
    .ask _ <| .atomic _ <| .atomic _ <| .ask _ <| .ask _ <| .ask _ <| .ask _ <| .ask _ <|
      .atomic _ <| .ask _ <| .ask _ <| .atomic _ <| .start _
  exact hafter

/-- A removal that has returned takes effect. -/
theorem takesEffect_router :
    ∃ sys₀ b₁, System.Reaches (fun _ _ _ => True) (remoteSample.served routerState routerTasks)
        sys₀ ∧ System.Reaches (fun _ _ _ => True) sys₀ routerRemoved ∧
      sys₀.scene.pastOf 1 = [] ++ b₁ ∧ b₁ <+: routerRemoved.scene.pastOf 1 ∧
        Changes (.remove "router") b₁ ∧
          TakesEffect (fun _ _ _ => True) remoteSample (.remove "router") "router" sys₀
            routerRemoved := by
  have hfirst : ∀ name entry, (hosts routerState).get? name = some entry →
      isLocalHost name = false := fun _ _ => Registry.isLocalHost_of_get?_hostsOf
  exact takesEffect (u := []) hfirst reaches_routerRemoved (List.append_nil _).symm
    run_remove_router rfl

/-- A document that cannot be rendered is not written, whatever generation is remembered. -/
theorem alone_write_nameless {reply : (r : Request) → r.Reply} {σ : ServiceState} {g : Nat}
    (hgot : ((s.hostGeneration "router").alone reply σ).2.1 = .ok g) (hg : s.Loadable g) :
    ((s.write "router" "a.network" nameless).alone reply σ).2.1 =
      .error (.unitFile (.unrenderable "" "" .emptyOrPadded)) := by
  have hkind : Kind.ofSafeFilename "a.network" = .ok .network := by decide +kernel
  have hbroken : ∀ types, nameless.toText types .network =
    .error (.unrenderable "" "" .emptyOrPadded) := fun types => rfl
  obtain ⟨generation, hloaded, -⟩ := exists_of_run_schemasOf hg
    (run_alone reply (s.schemasOf g) ((s.hostGeneration "router").alone reply σ).2.2)
  have hrender : ((s.render nameless .network g).alone reply
      ((s.hostGeneration "router").alone reply σ).2.2).2.1 =
      .error (.unitFile (.unrenderable "" "" .emptyOrPadded)) := by
    rw [render, alone_andThen_snd hloaded, hbroken]
    rfl
  rw [Service.write, hkind]
  simp only
  rw [alone_andThen_snd hgot, andThen, alone_bind_snd, hrender]
  rfl

/-- **A generation that is found out during a removal outlives it**: the host was removed and not
added again, and yet its generation is told to an operation that begins later, and another one finds
with it that a document cannot be rendered. An operation that is refused for its arguments does not
say either that the host is unknown. -/
theorem answers_removed :
    ∃ sys a b, System.Reaches (fun _ _ _ => True) routerRemoved sys ∧
      Run (CommandLine.HostsCommand.remove "router").execute (routerRemoved.scene.pastOf 1)
        (.ok ()) ∧
      sys.scene.pastOf 1 = routerRemoved.scene.pastOf 1 ++ [] ++ a ++ b ∧
        Run (remoteSample.delete "router" "../passwd") [] (.error (.invalidFilename "../passwd")) ∧
          Run (remoteSample.hostGeneration "router") a (.ok 255) ∧
            Run (remoteSample.write "router" "a.network" nameless) b
              (.error (.unitFile (.unrenderable "" "" .emptyOrPadded))) := by
  -- the first thread has still to remember what it has found out, then the second one goes on
  let sys₁ := routerRemoved.follow [(0, replyOfRouter)]
  have hfirst : System.Reaches (fun _ _ _ => True) routerRemoved sys₁ :=
    System.reaches_follow fun _ _ _ => trivial
  have hsame : sys₁.scene.pastOf 1 = routerRemoved.scene.pastOf 1 :=
    System.pastOf_goOn_of_ne (by decide)
  let rest : List Task := [.generation "router", .write "router" "a.network" nameless]
  have hget : sys₁.threads[1]? = some (remoteSample.perform rest >>= done) := by
    rw [bind_done]
    rfl
  have hfree : ∀ lock, sys₁.scene.holder lock = none
    | .connectors | .registry | .schemas | .session 0 | .session (_ + 1) => rfl
  obtain ⟨sys, hreach, hpast⟩ : ∃ sys, System.Reaches (fun _ _ _ => True) sys₁ sys ∧
      sys.scene.pastOf 1 = sys₁.scene.pastOf 1 ++
        ((remoteSample.perform rest).alone replyOfRouter sys₁.scene.state).1 :=
    System.exists_reaches_alone_of_free replyOfRouter (fun _ => trivial) hget (perform_orderly rest)
      hfree
  have hgot : ((remoteSample.hostGeneration "router").alone replyOfRouter
    sys₁.scene.state).2.1 = .ok 255 := rfl
  have hagain : ((remoteSample.hostGeneration "router").alone replyOfRouter
    ((remoteSample.hostGeneration "router").alone replyOfRouter sys₁.scene.state).2.2).2.1 =
      .ok 255 := rfl
  -- from here on it does not matter which state this is
  generalize sys₁.scene.state = σ at hpast hgot hagain
  have htold : Run (remoteSample.hostGeneration "router") _ (.ok 255) :=
    hgot ▸ run_alone replyOfRouter (remoteSample.hostGeneration "router") σ
  have hwritten := run_alone replyOfRouter (remoteSample.write "router" "a.network" nameless)
    ((remoteSample.hostGeneration "router").alone replyOfRouter σ).2.2
  rw [alone_write_nameless hagain (.inr (by decide))] at hwritten
  refine ⟨sys, _, _, hfirst.trans hreach, run_remove_router, ?_, run_done_iff.2 ⟨rfl, rfl⟩, htold,
    hwritten⟩
  rw [hpast, hsame]
  simp [rest, perform, Task.action, alone_bind_fst, alone]

end NetUnits.Service
