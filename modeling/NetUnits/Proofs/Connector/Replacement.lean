import NetUnits.Proofs.Connector.Usage

/-! # One session after the other

Any number of callers use a connector. Commands run without its lock, so a caller may still be busy
with a session when another one has opened a new one; it must not give that one up.

* **`RemoteConnector.established`**, **`RemoteConnector.dropped`** — the sessions that the connector
  has kept and given up; **`RemoteConnector.established_eq`** — all that were kept and not given up
  make the one that is held.
* **`RemoteConnector.Balanced`** — how many sessions were opened.
* **`RemoteConnector.Broke.mem_dropped`**, **`RemoteConnector.not_run_of_mem_dropped`** — a session
  that broke is given up, and is not handed out again.
* **`RemoteConnector.Replaces`** — what callers make of the session of a connector;
  **`RemoteConnector.replaces`** — so they do, in whatever order they go on. -/

namespace NetUnits

open NetUnits.Action NetUnits.Deed

/-- The session that a deed makes a connector hold. -/
def Deed.gained : Deed Wire → Option Session
  | changed w w' => if w'.session = w.session then none else w'.session
  | _ => none

/-- The session that a deed makes a connector hold no longer. -/
def Deed.dropped : Deed Wire → Option Session
  | changed w w' => if w'.session = w.session then none else w.session
  | _ => none

theorem Deed.Leaves.gained {d : Deed Wire} (h : d.Leaves Wire.session) : d.gained = none := by
  cases d with
  | changed w w' => exact if_pos h
  | asked | forked => rfl

namespace RemoteConnector

variable {c : RemoteConnector} {answers : Answers} {threads : List (Action Wire Unit)}
  {sys sys' : System Wire} {a b : Scene Wire} {i j n : Nat} {s : Session} {d : Deed Wire}
  {t u : List (Deed Wire)}

/-! ## Sessions in the past -/

/-- **The sessions that a connector has kept** so far, in order. -/
def established (a : Scene Wire) : List Session :=
  (a.past.map Prod.snd).filterMap Deed.gained

/-- **The sessions that a connector has given up** so far, in order. -/
def dropped (a : Scene Wire) : List Session :=
  (a.past.map Prod.snd).filterMap Deed.dropped

/-- **How many sessions were opened** so far. -/
def opened (a : Scene Wire) : Nat :=
  (a.past.map Prod.snd).countP Deed.opens

theorem established_after (a : Scene Wire) (i : Nat) (d : Deed Wire) :
    established (a.after i d) = established a ++ d.gained.toList := by
  rw [established, Scene.past_after, List.map_append, List.filterMap_append]
  cases hd : d.gained <;> simp [established, hd]

theorem dropped_after (a : Scene Wire) (i : Nat) (d : Deed Wire) :
    dropped (a.after i d) = dropped a ++ d.dropped.toList := by
  rw [dropped, Scene.past_after, List.map_append, List.filterMap_append]
  cases hd : d.dropped <;> simp [dropped, hd]

theorem opened_after (a : Scene Wire) (i : Nat) (d : Deed Wire) :
    opened (a.after i d) = opened a + if d.opens then 1 else 0 := by
  rw [opened, Scene.past_after, List.map_append, List.countP_append]
  simp [opened]

/-- A connector that holds no session yet, with its callers. -/
def startUses (n : Nat) (threads : List (Action Wire Unit)) : System Wire :=
  .start { session := none, opened := n } threads

/-- **All that was kept was given up, but for the session that is held.** -/
theorem established_eq (hreach : System.Reaches answers (startUses n threads) sys) :
    established sys.scene = dropped sys.scene ++ sys.scene.state.session.toList := by
  suffices hpasses : ∀ {t : List (Deed Wire)} {v v' : Option Session},
      Passes Wire.session v t v' →
        v.toList ++ t.filterMap Deed.gained = t.filterMap Deed.dropped ++ v'.toList from
    hpasses hreach.passes_past
  intro t v v' ht
  induction t generalizing v with
  | nil =>
    obtain rfl := ht
    simp
  | cons d t ih =>
    cases d with
    | asked | forked => exact ih ht
    | changed w w' =>
      obtain ⟨rfl, hrest⟩ := ht
      have hrest := ih hrest
      by_cases hsame : w'.session = w.session
      · simpa [Deed.gained, Deed.dropped, hsame] using hrest
      · cases hw : w.session <;> cases hw' : w'.session <;>
          simp_all [Deed.gained, Deed.dropped]

theorem established_mono (h : System.Reaches answers sys sys') :
    ∃ l, established sys'.scene = established sys.scene ++ l ∧
      ∃ l', dropped sys'.scene = dropped sys.scene ++ l' := by
  induction h with
  | refl => exact ⟨[], (List.append_nil _).symm, [], (List.append_nil _).symm⟩
  | tail _ hstep ih =>
    obtain ⟨i, @⟨x, y, d, started, -, -, -⟩⟩ := hstep
    obtain ⟨l, hl, l', hl'⟩ := ih
    rw [established_after, dropped_after, hl, hl', List.append_assoc, List.append_assoc]
    exact ⟨_, rfl, _, rfl⟩

/-! ## What callers do -/

section Callers

variable (huses : ∀ x ∈ threads, c.Uses x)
  (hreach : System.Reaches answers (startUses n threads) sys)

include huses hreach

/-- All that callers have done they have done in the ways that there are. -/
theorem handles_of_reaches (hpast : sys.scene.pastOf i = t ++ d :: u) : c.Handles t d := by
  refine hreach.forall_deeds (p := fun _ => False) (q := fun _ _ => False)
    (fun x hx => ⟨(huses x hx).each_handles, (huses x hx).starts⟩) ?_ hpast
  intro t d hd
  cases d with
  | asked | changed => exact hd.elim
  | forked => exact .other trivial rfl trivial

/-- **Only who holds the lock changes the session.** -/
theorem guards_session : System.Guards c.lock Wire.session sys := by
  intro i t d u hpast hd
  cases handles_of_reaches huses hreach hpast with
  | other hleaves | asks _ _ _ _ hleaves => exact absurd hleaves hd
  | takes heq | gives _ _ heq => exact absurd (heq ▸ trivial) hd
  | keeps hsince => exact ⟨_, hsince⟩
  | givesUp _ hhistory =>
    rw [hhistory, List.append_cons]
    exact ⟨[], since_snoc_acquire _⟩

/-- **What a caller has found or opened is held**, as long as the caller has the lock. -/
theorem session_of_connects {result : Except ConnectorError Session}
    (hpast : sys.scene.pastOf i = t ++ .asked (.acquire c.lock) () :: u)
    (hu : c.Connects u result) : sys.scene.state.session = result.toOption := by
  have hsince : since c.lock (sys.scene.pastOf i) = some u := by
    rw [hpast]
    exact since_append_of_some (since_cons_acquire (hu.spares _))
  obtain ⟨v, hv⟩ := hreach.passes_since (guards_session huses hreach) hsince
  exact hu.session hv

/-- No session is held while a caller that found none has the lock. -/
theorem session_eq_none {w : Wire} (hsince : since c.lock (sys.scene.pastOf i) = some
    (.changed w w :: u)) (hunheld : w.session = none) (hu : ∀ e ∈ u, e.Leaves Wire.session) :
    sys.scene.state.session = none := by
  obtain ⟨v, -, hv⟩ := hreach.passes_since (guards_session huses hreach) hsince
  exact (hv.eq_of_leaves hu).trans hunheld

end Callers

/-! ## How many sessions were opened -/

/-- **A caller has opened a session that it does not keep yet.** -/
def Pending (c : RemoteConnector) (t : List (Deed Wire)) : Prop :=
  ∃ w v, since c.lock t = some (.changed w w :: v) ∧ w.session = none ∧
    (∀ e ∈ v, e.Leaves Wire.session) ∧ ∃ e ∈ v, e.opens = true

theorem not_pending_of_none (h : since c.lock t = none) : ¬ c.Pending t :=
  fun ⟨_, _, hsince, _⟩ => nomatch h.symm.trans hsince

theorem not_pending_of_closed (h : since c.lock t = some u) (hu : ∀ e ∈ u, e.opens = false) :
    ¬ c.Pending t := by
  rintro ⟨w, v, hsince, -, -, e, he, hopens⟩
  obtain rfl := Option.some.inj (h.symm.trans hsince)
  rw [hu e (List.mem_cons_of_mem _ he)] at hopens
  cases hopens

/-- What asks for no session opens none. -/
theorem opens_eq_false_of_collect (h : collect Request.opening? u = []) :
    ∀ e ∈ u, e.opens = false := by
  intro e he
  cases e with
  | asked r reply =>
    refine Request.opened_eq_false (Option.eq_none_iff_forall_not_mem.2 fun r' hr' => ?_) reply
    have hmem : r' ∈ collect Request.opening? u := List.mem_filterMap.2 ⟨_, he, hr'⟩
    rw [h] at hmem
    exact List.not_mem_nil hmem
  | changed | forked => rfl

/-- What neither opens a session nor has to do with the lock leaves it so. -/
theorem pending_snoc_iff (hleaves : d.Leaves Wire.session) (hspares : d.Spares c.lock)
    (hopens : d.opens = false) : c.Pending (t ++ [d]) ↔ c.Pending t := by
  have hsince : since c.lock (t ++ [d]) = (since c.lock t).map (· ++ [d]) :=
    since_append_of_spares (List.forall_mem_singleton.2 hspares)
  constructor
  · rintro ⟨w, v, hv, hunheld, hbetween, e, he, hopened⟩
    rw [hsince] at hv
    obtain ⟨u, hu, heq⟩ := Option.map_eq_some_iff.1 hv
    obtain rfl | ⟨v, d', rfl⟩ := v.eq_nil_or_concat
    · exact absurd he List.not_mem_nil
    · rw [List.concat_eq_append] at heq hbetween he
      obtain ⟨rfl, hd⟩ := List.append_inj' (heq.trans (List.cons_append).symm) rfl
      obtain rfl := List.singleton_inj.1 hd
      refine ⟨w, v, hu, hunheld, fun e he => hbetween e (List.mem_append_left _ he), e, ?_, hopened⟩
      refine (List.mem_append.1 he).resolve_right fun he => ?_
      rw [List.mem_singleton.1 he, hopens] at hopened
      cases hopened
  · rintro ⟨w, v, hv, hunheld, hbetween, e, he, hopened⟩
    refine ⟨w, v ++ [d], by rw [hsince, hv]; rfl, hunheld, ?_, e, List.mem_append_left _ he,
      hopened⟩
    exact List.forall_mem_append.2 ⟨hbetween, List.forall_mem_singleton.2 hleaves⟩

/-- **As many sessions were opened as were kept**, but for one that a caller is about to keep. -/
inductive Balanced (c : RemoteConnector) (a : Scene Wire) : Prop where
  /-- No caller is about to keep a session. -/
  | even (settled : ∀ i, ¬ c.Pending (a.pastOf i)) (eq : opened a = (established a).length)
  /-- A caller has opened a session that it does not keep yet. -/
  | ahead {i : Nat} (pending : c.Pending (a.pastOf i))
      (eq : opened a = (established a).length + 1)

/-- A deed after which the same callers are about to keep a session. -/
theorem Balanced.after (h : c.Balanced a) (hopens : d.opens = false) (hgained : d.gained = none)
    (hpending : c.Pending (a.pastOf i ++ [d]) ↔ c.Pending (a.pastOf i)) :
    c.Balanced (a.after i d) := by
  have hsame : ∀ k, c.Pending ((a.after i d).pastOf k) ↔ c.Pending (a.pastOf k) := fun k => by
    by_cases hik : i = k
    · rw [← hik, Scene.pastOf_after_self, hpending]
    · rw [Scene.pastOf_after_of_ne hik]
  have hopened : opened (a.after i d) = opened a := by simp [opened_after, hopens]
  have hestablished : established (a.after i d) = established a := by
    simp [established_after, hgained]
  cases h with
  | even hsettled heq =>
    exact .even (fun k => (hsame k).not.2 (hsettled k)) (by rw [hopened, hestablished, heq])
  | ahead hpending heq =>
    exact .ahead ((hsame _).2 hpending) (by rw [hopened, hestablished, heq])

/-- A session may be opened by the thread that has the lock. -/
theorem Balanced.after_asks {w : Wire} {v : List (Deed Wire)} (h : c.Balanced a)
    (honly : ∀ k, c.Pending (a.pastOf k) → k = j)
    (hsince : since c.lock (a.pastOf j) = some (.changed w w :: v)) (hunheld : w.session = none)
    (hbetween : ∀ e ∈ v, e.Leaves Wire.session) (hfirst : collect Request.opening? v = [])
    (hleaves : d.Leaves Wire.session) (hspares : d.Spares c.lock) :
    c.Balanced (a.after j d) := by
  have hnot : ¬ c.Pending (a.pastOf j) := not_pending_of_closed hsince
    (List.forall_mem_cons.2 ⟨rfl, opens_eq_false_of_collect hfirst⟩)
  cases hopens : d.opens with
  | false => exact h.after hopens hleaves.gained (pending_snoc_iff hleaves hspares hopens)
  | true =>
    cases h with
    | @ahead k hpending _ => exact absurd (honly k hpending ▸ hpending) hnot
    | even _ heq =>
      have hpending : c.Pending ((a.after j d).pastOf j) := by
        refine ⟨w, v ++ [d], ?_, hunheld, List.forall_mem_append.2
          ⟨hbetween, List.forall_mem_singleton.2 hleaves⟩, d,
          List.mem_append_right _ (List.mem_singleton.2 rfl), hopens⟩
        rw [Scene.pastOf_after_self,
          since_append_of_spares (List.forall_mem_singleton.2 hspares), hsince]
        rfl
      refine .ahead hpending ?_
      rw [opened_after, established_after, hopens, hleaves.gained, heq]
      simp

/-- The session that was opened is kept. -/
theorem Balanced.after_keeps {w : Wire} {v : List (Deed Wire)} (h : c.Balanced a)
    (honly : ∀ k, c.Pending (a.pastOf k) → k = j)
    (hsince : since c.lock (a.pastOf j) = some (.changed w w :: v)) (hunheld : w.session = none)
    (hrun : Run c.opening v (.ok s)) (hnone : a.state.session = none) :
    c.Balanced (a.after j (.changed a.state { a.state with session := some s })) := by
  have hgained : Deed.gained (.changed a.state { a.state with session := some s }) = some s := by
    simp [Deed.gained, hnone]
  obtain ⟨e, he, hopens⟩ := (((c.transport.connect_reports c.entry).inside Wire.counter)
    v _ hrun).2 ⟨s, rfl⟩
  cases h with
  | even hsettled _ =>
    exact absurd ⟨w, v, hsince, hunheld, leaves_of_opening hrun, e, he, hopens⟩ (hsettled j)
  | ahead _ heq =>
    refine .even (fun k hpending => ?_) ?_
    · by_cases hjk : j = k
      · subst hjk
        obtain ⟨w₀, v₀, hv₀, -, hbetween, -⟩ := hpending
        rw [Scene.pastOf_after_self, since_append_of_spares
          (fun d hd => List.mem_singleton.1 hd ▸ trivial), hsince] at hv₀
        obtain ⟨-, rfl⟩ := List.cons.inj (Option.some.inj hv₀)
        -- it is held now, and none was held before
        have hleaves := hbetween _ (List.mem_append_right _ (List.mem_singleton.2 rfl))
        cases (hleaves : some s = _).trans hnone
      · rw [Scene.pastOf_after_of_ne hjk] at hpending
        exact hjk (honly k hpending).symm
    · rw [opened_after, established_after, hgained, heq]
      simp [Deed.opens]

/-- **The balance is kept**, whatever a caller does. -/
theorem balanced_of_reaches (huses : ∀ x ∈ threads, c.Uses x)
    (hreach : System.Reaches answers (startUses n threads) sys) : c.Balanced sys.scene := by
  induction hreach with
  | refl => exact .even (fun i ⟨_, _, h, _⟩ => nomatch h) rfl
  | tail hreach hstep ih =>
    rename_i sys₁ sys₂
    obtain ⟨j, hstep⟩ := hstep
    have hreach₂ := Relation.ReflTransGen.tail hreach ⟨j, hstep⟩
    obtain @⟨x, y, d, started, -, -, hmay⟩ := hstep
    have hhandles : c.Handles (sys₁.scene.pastOf j) d :=
      handles_of_reaches huses hreach₂ Scene.pastOf_after_self
    have hholder : ∀ {k}, sys₁.scene.holder c.lock = some k ↔
        ∃ u, since c.lock (sys₁.scene.pastOf k) = some u :=
      System.Reaches.holder_eq_some_iff hreach
    -- only the thread that has the lock may be about to keep a session
    have honly : ∀ {u}, since c.lock (sys₁.scene.pastOf j) = some u →
        ∀ k, c.Pending (sys₁.scene.pastOf k) → k = j := by
      rintro u hu k ⟨_, _, hk, -⟩
      exact Option.some.inj ((hholder.2 ⟨_, hk⟩).symm.trans (hholder.2 ⟨u, hu⟩))
    cases hhandles with
    | other hleaves hclosed hspares =>
      have hopens := opens_eq_false_of_collect hclosed d (by simp)
      exact ih.after hopens hleaves.gained (pending_snoc_iff hleaves hspares hopens)
    | takes heq =>
      subst heq
      have hnone : since c.lock (sys₁.scene.pastOf j) = none := by
        by_contra hsome
        have hheld := hholder.2 (Option.ne_none_iff_exists'.1 hsome)
        cases hheld.symm.trans hmay.1
      refine ih.after rfl rfl (iff_of_false ?_ (not_pending_of_none hnone))
      exact not_pending_of_closed (since_snoc_acquire _) (by simp)
    | gives hsince hsettled heq =>
      subst heq
      refine ih.after rfl rfl (iff_of_false (not_pending_of_none (since_snoc_release _)) ?_)
      obtain hclosed | ⟨s, hconnects⟩ := hsettled
      · exact not_pending_of_closed hsince hclosed
      · -- a session that was opened is held by now
        rintro ⟨w, v, hv, hunheld, hbetween, -⟩
        obtain ⟨t₀, ht₀, -⟩ := exists_of_since hsince
        have hheld := session_of_connects huses hreach ht₀ hconnects
        cases hheld.symm.trans (session_eq_none huses hreach hv hunheld hbetween)
    | asks hsince hunheld hbetween hfirst hleaves hspares =>
      exact ih.after_asks (honly hsince) hsince hunheld hbetween hfirst hleaves hspares
    | @keeps w w' v s hsince hunheld hrun heq =>
      subst heq
      obtain rfl : w' = sys₁.scene.state := hmay
      exact ih.after_keeps (honly hsince) hsince hunheld hrun
        (session_eq_none huses hreach hsince hunheld (leaves_of_opening hrun))
    | @givesUp w s t₀ e _ hhistory heq =>
      subst heq
      have hsince : since c.lock (sys₁.scene.pastOf j) = some [] := by
        rw [hhistory, List.append_cons]
        exact since_snoc_acquire _
      have hgained : Deed.gained (.changed w (without w s)) = none := by
        rw [without, Deed.gained]
        split <;> split <;> first | rfl | simp_all
      refine ih.after rfl hgained (iff_of_false ?_ (not_pending_of_closed hsince (by simp)))
      refine not_pending_of_closed (u := [.changed w (without w s)]) ?_ (by simp [Deed.opens])
      rw [since_append_of_spares (fun d hd => List.mem_singleton.1 hd ▸ trivial), hsince]
      rfl

/-! ## Sessions that are handed out -/

/-- **A command on a session broke the connection**: it was handed the session, failed with an error
of the connection, and the session said that it does not stand any more. -/
def Broke (c : RemoteConnector) (s : Session) (x : List (Deed Wire)) : Prop :=
  ∃ command input err x₁ e l y, x = x₁ ++ (e ++ (l ++ y)) ∧
    Run (c.exec command input) x (.error err) ∧ Run c.ensureConnected x₁ (.ok s) ∧
      Run (s.exec command input) e (.error err) ∧ err.isConnection = true ∧ Run s.isAlive l false

/-- Finding or opening a session takes the lock, and gives it back in the end. -/
theorem exists_connects {result : Except ConnectorError Session}
    (hrun : Run c.ensureConnected t result) : ∃ u, t = .asked (.acquire c.lock) () :: u ++
      [.asked (.release c.lock) ()] ∧ c.Connects u result := by
  rw [ensureConnected_eq, run_withLock_iff] at hrun
  obtain ⟨u, rfl, hu⟩ := hrun
  exact ⟨u, rfl, connects_of_run hu⟩

/-- **A session that broke is given up** next. -/
theorem Broke.exists_without (h : c.Broke s t) : ∃ x₁ x₂ w x₃, t = x₁ ++ x₂ ++
    .asked (.acquire c.lock) () :: .changed w (without w s) :: x₃ ∧
      Run c.ensureConnected x₁ (.ok s) := by
  obtain ⟨command, input, err, x₁, e, l, y, rfl, hrun, hconnected, hfailed, hlost, halive⟩ := h
  have hrest := (hconnected.bind _).of_append hrun
  have hfailure : Run (c.afterFailure s err >>= fun _ => done (.error err) :
      Action Wire (Except ConnectorError CommandResult)) (l ++ y) (.error err) :=
    (hfailed.bind _).of_append hrest
  obtain ⟨v, v', _, heq, hafter, hdone⟩ := run_bind_iff.1 hfailure
  obtain ⟨rfl, -⟩ := run_done_iff.1 hdone
  rw [List.append_nil] at heq
  subst heq
  rw [afterFailure, if_pos hlost] at hafter
  have hgiving := (halive.bind _).of_append hafter
  simp only [done_bind, Bool.not_false, if_true] at hgiving
  obtain ⟨y₁, y₂, _, rfl, -, hgiven⟩ := run_bind_iff.1 hgiving
  obtain ⟨y₂, y₃, _, rfl, hgive, -⟩ := run_bind_iff.1 hgiven
  rw [giveUp_eq] at hgive
  obtain ⟨y₄, rfl, hchange⟩ := run_withLock_iff.1 hgive
  obtain ⟨w, rfl, -⟩ := run_change_iff.1 hchange
  exact ⟨x₁, e ++ (l ++ y₁), w, .asked (.release c.lock) () :: y₃, by simp, hconnected⟩

section Callers

variable (huses : ∀ x ∈ threads, c.Uses x)
  (hreach : System.Reaches answers (startUses n threads) sys)

include huses hreach

/-- A session that was handed out was kept. -/
theorem mem_established {x₁ : List (Deed Wire)} (hpast : sys.scene.pastOf i = t ++ x₁ ++ u)
    (hrun : Run c.ensureConnected x₁ (.ok s)) : s ∈ established sys.scene := by
  obtain ⟨v, rfl, hv⟩ := exists_connects hrun
  have hsplit : sys.scene.pastOf i = [] ++ (t ++ .asked (.acquire c.lock) () :: v) ++
      (.asked (.release c.lock) () :: u) := by simp [hpast]
  obtain ⟨sys₁, h₁, h₁', hpast₁⟩ := hreach.exists_split rfl hsplit
  have hheld : sys₁.scene.state.session = some s := session_of_connects huses h₁ hpast₁ hv
  obtain ⟨l, hl, -⟩ := established_mono h₁'
  rw [hl, established_eq h₁, hheld]
  simp

/-- **A session is asked for only while none is held.** -/
theorem session_eq_none_of_opening {r : Request} {reply : r.Reply}
    (hpast : sys.scene.pastOf i = t ++ [.asked r reply]) (hopening : r.opening? ≠ none) :
    sys.scene.state.session = none := by
  cases handles_of_reaches huses hreach hpast with
  | other _ hclosed _ =>
    obtain ⟨r', hr'⟩ := Option.ne_none_iff_exists'.1 hopening
    simp [collect, hr'] at hclosed
  | takes heq | gives _ _ heq =>
    cases heq
    exact absurd rfl hopening
  | @asks w v hsince hunheld hbetween _ hleaves hspares =>
    refine session_eq_none huses hreach (i := i) (u := v ++ [.asked r reply]) ?_ hunheld
      (List.forall_mem_append.2 ⟨hbetween, List.forall_mem_singleton.2 hleaves⟩)
    rw [hpast, since_append_of_spares (List.forall_mem_singleton.2 hspares), hsince]
    rfl
  | keeps _ _ _ heq | givesUp _ _ heq => cases heq

/-- **At most one more session was opened** than were given up. -/
theorem opened_le_length_dropped : opened sys.scene ≤ (dropped sys.scene).length + 1 := by
  have hestablished := congrArg List.length (established_eq hreach)
  rw [List.length_append] at hestablished
  cases balanced_of_reaches huses hreach with
  | even _ heq =>
    have hle : sys.scene.state.session.toList.length ≤ 1 := by
      cases sys.scene.state.session <;> simp
    omega
  | ahead hpending heq =>
    -- who is about to keep a session has found that none is held
    obtain ⟨w, v, hsince, hunheld, hbetween, -⟩ := hpending
    rw [session_eq_none huses hreach hsince hunheld hbetween] at hestablished
    simp only [Option.toList_none, List.length_nil, Nat.add_zero] at hestablished
    omega

/-- **Who makes the connector hold its session no longer** has just lost the connection on it. -/
theorem lost_of_step (hstep : System.Step answers i sys sys')
    (hheld : sys.scene.state.session = some s) (hdropped : sys'.scene.state.session ≠ some s) :
    sys'.scene.state.session = none ∧
      ∃ t e, sys.scene.pastOf i = t ++ [.asked (.event e) (), .asked (.acquire c.lock) ()] ∧
        Lost s t := by
  have hreach' := hreach.tail ⟨i, hstep⟩
  obtain @⟨x, y, d, started, -, -, hmay⟩ := hstep
  have hleaves : ¬ d.Leaves Wire.session := fun hd => by
    have hsame := (System.passes_after (f := Wire.session) hmay).eq_of_leaves
      (List.forall_mem_singleton.2 hd)
    exact hdropped (hsame.trans hheld)
  cases handles_of_reaches huses hreach' Scene.pastOf_after_self with
  | other hd | asks _ _ _ _ hd => exact absurd hd hleaves
  | takes heq | gives _ _ heq =>
    subst heq
    exact absurd trivial hleaves
  | keeps hsince hunheld hrun _ =>
    have hnone := session_eq_none huses hreach hsince hunheld (leaves_of_opening hrun)
    cases hheld.symm.trans hnone
  | @givesUp w s' t₀ e hlost hhistory heq =>
    subst heq
    obtain rfl : w = sys.scene.state := hmay
    by_cases hs : sys.scene.state.session = some s'
    · obtain rfl := Option.some.inj (hheld.symm.trans hs)
      refine ⟨?_, t₀, e, hhistory, hlost⟩
      rw [Scene.state_after_changed, without, if_pos hs]
    · refine absurd ?_ hdropped
      rw [Scene.state_after_changed, without, if_neg hs, hheld]

/-- **A session that broke has been given up.** -/
theorem Broke.mem_dropped {x : List (Deed Wire)} (h : c.Broke s x)
    (hpast : sys.scene.pastOf i = t ++ x ++ u) : s ∈ dropped sys.scene := by
  obtain ⟨x₁, x₂, w, x₃, rfl, hconnected⟩ := h.exists_without
  have hsplit : sys.scene.pastOf i = [] ++ (t ++ x₁ ++ (x₂ ++
      [.asked (.acquire c.lock) (), .changed w (without w s)])) ++ (x₃ ++ u) := by simp [hpast]
  obtain ⟨sys₁, h₁, h₁', hpast₁⟩ := hreach.exists_split rfl hsplit
  -- it was kept when it was handed out, and is not held just after it was given up
  have hmem := mem_established huses h₁ hpast₁ hconnected
  have hspares : Spares c.lock (.changed w (without w s)) := trivial
  have hsince : since c.lock (sys₁.scene.pastOf i) = some [.changed w (without w s)] := by
    rw [hpast₁]
    exact since_append_of_some (since_append_of_some (since_append_of_some
      (since_cons_acquire (List.forall_mem_singleton.2 hspares))))
  obtain ⟨v, -, hv⟩ := h₁.passes_since (guards_session huses h₁) hsince
  have hunheld : sys₁.scene.state.session ≠ some s := by
    rw [show sys₁.scene.state.session = (without w s).session from hv, without]
    split <;> simp_all
  rw [established_eq h₁] at hmem
  obtain ⟨-, -, l, hl⟩ := established_mono h₁'
  rw [hl]
  refine List.mem_append_left _ ((List.mem_append.1 hmem).resolve_right fun hs => hunheld ?_)
  exact Option.mem_toList.1 hs

/-- **What a caller has found is held** when it has just given the lock back. -/
theorem session_of_ensureConnected {x : List (Deed Wire)} {result : Except ConnectorError Session}
    (hstep : System.Step answers i sys sys') (hpast : sys'.scene.pastOf i = t ++ x)
    (hrun : Run c.ensureConnected x result) : sys'.scene.state.session = result.toOption := by
  obtain ⟨u, rfl, hu⟩ := exists_connects hrun
  obtain @⟨x, y, d, started, -, -, hmay⟩ := hstep
  rw [Scene.pastOf_after_self, ← List.append_assoc] at hpast
  obtain ⟨hold, hd⟩ := List.append_inj' hpast rfl
  obtain rfl := List.singleton_inj.1 hd
  exact session_of_connects huses hreach hold hu

/-- **A session that was given up is not handed out again**, unless the transport opens the same
session twice. -/
theorem not_run_of_mem_dropped {v x : List (Deed Wire)} (hs : s ∈ dropped sys.scene)
    (hreach' : System.Reaches answers sys sys') (hfresh : (established sys'.scene).Nodup)
    (hpast : sys'.scene.pastOf i = sys.scene.pastOf i ++ u ++ x ++ v) :
    ¬ Run c.ensureConnected x (.ok s) := by
  intro hrun
  obtain ⟨w, rfl, hw⟩ := exists_connects hrun
  have hsplit : sys'.scene.pastOf i = sys.scene.pastOf i ++
      (u ++ .asked (.acquire c.lock) () :: w) ++ (.asked (.release c.lock) () :: v) := by
    simp [hpast]
  obtain ⟨sys₁, h₁, h₁', hpast₁⟩ := hreach'.exists_split rfl hsplit
  rw [← List.append_assoc] at hpast₁
  have hheld : sys₁.scene.state.session = some s :=
    session_of_connects huses (hreach.trans h₁) hpast₁ hw
  -- the session would have been kept a second time
  obtain ⟨-, -, l, hl⟩ := established_mono h₁
  obtain ⟨l', hl', -⟩ := established_mono h₁'
  rw [hl', established_eq (hreach.trans h₁), hheld, hl] at hfresh
  have hdisjoint := (List.nodup_append.1 (List.nodup_append.1 hfresh).1).2.2
  exact hdisjoint s (List.mem_append_left _ hs) s (by simp) rfl

end Callers

/-! ## What callers make of the session -/

/-- **What callers make of the session of a connector**, in what they have done so far and in what
they do next. -/
structure Replaces (c : RemoteConnector) (answers : Answers) (sys : System Wire) : Prop where
  /-- A session is asked for only while none is held. -/
  unheld : ∀ i sys' r reply, System.Step answers i sys sys' →
    sys'.scene = sys.scene.after i (.asked r reply) → r.opening? ≠ none →
      sys.scene.state.session = none
  /-- At most one more session was opened than were given up. -/
  opened_le : opened sys.scene ≤ (dropped sys.scene).length + 1
  /-- The session that is held is given up only by a caller that has just lost the connection on
  this very session. -/
  lost : ∀ i sys' s, System.Step answers i sys sys' → sys.scene.state.session = some s →
    sys'.scene.state.session ≠ some s → sys'.scene.state.session = none ∧
      ∃ t e, sys.scene.pastOf i = t ++ [.asked (.event e) (), .asked (.acquire c.lock) ()] ∧
        Lost s t
  /-- After a command on a session broke the connection, the session has been given up. -/
  broke : ∀ i t x u s, sys.scene.pastOf i = t ++ x ++ u → c.Broke s x → s ∈ dropped sys.scene
  /-- No session is held when one could not be opened. -/
  failed : ∀ i sys' t x e, System.Step answers i sys sys' → sys'.scene.pastOf i = t ++ x →
    Run c.ensureConnected x (.error e) → sys'.scene.state.session = none
  /-- A session that was given up is not handed to any command that starts later, as long as the
  transport never opens the same session twice. -/
  never : ∀ sys', System.Reaches answers sys sys' → (established sys'.scene).Nodup →
    ∀ s ∈ dropped sys.scene, ∀ i t u x v, sys.scene.pastOf i = t →
      sys'.scene.pastOf i = t ++ u ++ x ++ v → ¬ Run c.ensureConnected x (.ok s)

/-- **Any number of callers replace the session of a connector** only after it broke, in whatever
order they go on and whatever becomes of their commands. -/
theorem replaces (huses : ∀ x ∈ threads, c.Uses x)
    (hreach : System.Reaches answers (startUses n threads) sys) : c.Replaces answers sys where
  unheld := by
    intro i sys' r reply hstep heq hopening
    have hreach' := hreach.tail ⟨i, hstep⟩
    have hpast : sys'.scene.pastOf i = sys.scene.pastOf i ++ [.asked r reply] := by
      rw [heq, Scene.pastOf_after_self]
    have hnone := session_eq_none_of_opening huses hreach' hpast hopening
    rwa [heq, Scene.state_after_asked] at hnone
  opened_le := opened_le_length_dropped huses hreach
  lost := fun _ _ _ hstep hheld hdropped => lost_of_step huses hreach hstep hheld hdropped
  broke := fun _ _ _ _ _ hpast hbroke => hbroke.mem_dropped huses hreach hpast
  failed := fun _ _ _ _ _ hstep hpast hrun =>
    session_of_ensureConnected huses hreach hstep hpast hrun
  never := by
    rintro sys' hreach' hfresh s hs i t u x v rfl hpast
    exact not_run_of_mem_dropped huses hreach hs hreach' hfresh hpast

/-- A connector whose sessions are opened by its surroundings. -/
def router : RemoteConnector where
  entry := { name := "router", address := "192.0.2.1" }
  transport := .external
  configDir := ""
  globalConfig := ""
  privilege := ""

/-- The next session that is opened has a number, and every command loses the connection. -/
def replyOfBreaking (n : Nat) : (r : Request) → r.Reply
  | .connect _ => .ok n
  | .exec _ _ _ => .error (.connection "router" "broken pipe")
  | .isAlive _ => false
  | r => r.usual

/-- Two callers run commands, the first one a second time after its first command failed. -/
def routerCalls : List (Action Wire Unit) :=
  [router.exec "true" none >>= fun _ => router.exec "true" none >>= fun _ => done (),
    router.exec "true" none >>= fun _ => done ()]

/-- Both get the first session. The first caller loses it and opens another one before the second
caller loses the first session, too. -/
def routerSchedule : List (Nat × ((r : Request) → r.Reply)) :=
  List.replicate 5 (0, replyOfBreaking 0) ++ List.replicate 3 (1, replyOfBreaking 0) ++
    List.replicate 11 (0, replyOfBreaking 1) ++ List.replicate 6 (1, replyOfBreaking 1) ++
    [(0, Request.usual)]

/-- The caller that loses the older session leaves the newer one to the other caller. -/
theorem replaces_router :
    ∃ sys, System.Reaches (fun _ _ _ => True) (startUses 0 routerCalls) sys ∧
      sys.threads = [done (), done ()] ∧ opened sys.scene = 2 ∧
        dropped sys.scene = [.external 0] ∧ sys.scene.state.session = some (.external 1) ∧
          router.Replaces (fun _ _ _ => True) sys := by
  have huses : ∀ x ∈ routerCalls, router.Uses x := by
    simp only [routerCalls, List.forall_mem_cons, List.not_mem_nil, false_imp_iff, implies_true,
      and_true]
    exact ⟨.exec _ _ fun _ => .exec _ _ fun _ => .done _, .exec _ _ fun _ => .done _⟩
  have hreach : System.Reaches (fun _ _ _ => True) (startUses 0 routerCalls)
      ((startUses 0 routerCalls).follow routerSchedule) :=
    System.reaches_follow fun _ _ _ => trivial
  have hdone : ((startUses 0 routerCalls).follow routerSchedule).threads = [done (), done ()] := rfl
  have hopened : opened ((startUses 0 routerCalls).follow routerSchedule).scene = 2 := rfl
  have hdropped : dropped ((startUses 0 routerCalls).follow routerSchedule).scene =
      [.external 0] := rfl
  have hheld : ((startUses 0 routerCalls).follow routerSchedule).scene.state.session =
      some (.external 1) := rfl
  exact ⟨_, hreach, hdone, hopened, hdropped, hheld, replaces huses hreach⟩

end RemoteConnector

end NetUnits
