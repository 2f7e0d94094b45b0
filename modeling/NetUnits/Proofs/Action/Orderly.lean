import NetUnits.Proofs.Action.Interleaving

/-! # Locks in order

Threads that wait for each other's locks would wait for ever. This cannot happen as long as all of
them take locks in one **order** and give back first what they took last.

* **`Lock.rank`** — the order.
* **`Action.Orderly`** — an action that takes and gives back locks in order.
* **`System.exists_step`** — among orderly threads that are not done, some thread can go on.
* **`System.exists_done`** — so all of them are done in the end. -/

namespace NetUnits

/-- **The place of a lock in the order.** Who holds a lock takes only locks behind it. -/
def Lock.rank : Lock → Nat
  | .connectors => 0
  | _ => 1

theorem Lock.rank_le (lock : Lock) : lock.rank ≤ 1 := by
  cases lock <;> simp [rank]

/-- The locks that are held after a request, the last one first, if it is in order. -/
def Request.held? (held : List Lock) : Request → Option (List Lock)
  | .acquire lock => if ∀ l ∈ held, l.rank < lock.rank then some (lock :: held) else none
  | .release lock => if held.head? = some lock then some held.tail else none
  | _ => some held

/-- A request that takes and gives back no lock. -/
def Request.KeepsLocks (r : Request) : Prop :=
  ∀ held, r.held? held = some held

namespace Action

variable {σ τ α β ε : Type}

/-! ## Orderly actions -/

/-- **An action takes locks in order** and gives back first what it took last; it starts with some
locks and ends with some. What it starts beside it does so with no locks. -/
def Orderly : List Lock → {α : Type} → Action σ α → List Lock → Prop
  | held, _, done _, held' => held' = held
  | held, _, ask r k, held' =>
    ∃ held₁, r.held? held = some held₁ ∧ ∀ reply, Orderly held₁ (k reply) held'
  | held, _, atomic _ k, held' => ∀ s, Orderly held (k s) held'
  | held, _, fork other next, held' => Orderly [] other [] ∧ Orderly held next held'

variable {held held₁ held₂ : List Lock}

theorem Orderly.bind {x : Action σ α} {f : α → Action σ β} (hx : Orderly held x held₁)
    (hf : ∀ a, Orderly held₁ (f a) held₂) : Orderly held (x >>= f) held₂ := by
  induction x generalizing held with
  | done a =>
    obtain rfl : held₁ = held := hx
    exact hf a
  | ask r k ih =>
    obtain ⟨held', hr, hk⟩ := hx
    exact ⟨held', hr, fun reply => ih reply (hk reply) hf⟩
  | atomic u k ih => exact fun s => ih s (hx s) hf
  | fork other next _ ih => exact ⟨hx.1, ih hx.2 hf⟩

theorem Orderly.andThen {x : Action σ (Except ε α)} {f : α → Action σ (Except ε β)}
    (hx : Orderly held x held₁) (hf : ∀ a, Orderly held₁ (f a) held₁) :
    Orderly held (x.andThen f) held₁ :=
  hx.bind fun
    | .ok a => hf a
    | .error _ => rfl

theorem orderly_request {r : Request} (h : r.held? held = some held₁) :
    Orderly held (request r : Action σ r.Reply) held₁ :=
  ⟨held₁, h, fun _ => rfl⟩

theorem orderly_event {source : EventSource} {level : Level} {message : String} :
    Orderly held (event source level message : Action σ Unit) held :=
  orderly_request rfl

theorem orderly_change {f : σ → α × σ} : Orderly held (change f) held :=
  fun _ => rfl

/-- **A lock is taken after those that are held**, and given back before them. -/
theorem Orderly.withLock {lock : Lock} {body : Action σ α}
    (hlock : ∀ l ∈ held, l.rank < lock.rank) (hbody : Orderly (lock :: held) body (lock :: held)) :
    Orderly held (withLock lock body) held := by
  have hacquire : (Request.acquire lock).held? held = some (lock :: held) := if_pos hlock
  have hrelease : (Request.release lock).held? (lock :: held) = some held := if_pos rfl
  refine (orderly_request hacquire).bind fun _ => hbody.bind fun a => ?_
  exact (orderly_request hrelease).bind fun _ => rfl

theorem Orderly.inside (part : Part σ τ) {x : Action τ α} (h : Orderly held x held₁) :
    Orderly held (x.inside part) held₁ := by
  induction x generalizing held held₁ with
  | done a => exact h
  | ask r k ih =>
    obtain ⟨held', hr, hk⟩ := h
    exact ⟨held', hr, fun reply => ih reply (hk reply)⟩
  | atomic u k ih => exact fun s => ih _ (h _)
  | fork other next ihother ih => exact ⟨ihother h.1, ih h.2⟩

/-- An action that uses no locks is orderly, whatever is held. -/
theorem Obeys.orderly {q : σ → σ → Prop} {x : Action σ α}
    (h : x.Obeys Request.KeepsLocks q) : Orderly held x held := by
  induction x generalizing held with
  | done a => rfl
  | ask r k ih => exact ⟨held, h.1 held, fun reply => ih reply (h.2 reply)⟩
  | atomic u k ih => exact fun s => ih s (h s).2
  | fork other next ihother ih => exact ⟨ihother h.1, ih h.2⟩

end Action

/-! ## Threads that hold locks -/

/-- **A thread holds some locks** and no others. -/
structure Scene.Holds {σ : Type} (c : Scene σ) (i : Nat) (held : List Lock) : Prop where
  /-- Each one is held once. -/
  nodup : held.Nodup
  /-- These are the locks that it holds. -/
  holder_iff : ∀ lock, c.holder lock = some i ↔ lock ∈ held

namespace Scene.Holds

variable {σ : Type} {answers : Answers} {c : Scene σ} {i j : Nat} {held held₁ : List Lock}
  {d : Deed σ}

theorem after_of_ne (h : c.Holds i held) (hj : j ≠ i) (hmay : c.May answers j d) :
    (c.after j d).Holds i held where
  nodup := h.nodup
  holder_iff := fun lock => by
    rw [← h.holder_iff]
    exact ⟨fun hlock => holder_after_eq_some hlock hj, holder_after_of_ne hmay hj⟩

/-- **What a thread holds after a request** that is in order. -/
theorem after_asked (h : c.Holds i held) {r : Request} {reply : r.Reply}
    (hr : r.held? held = some held₁) (hmay : c.May answers i (.asked r reply)) :
    (c.after i (.asked r reply)).Holds i held₁ := by
  have hother : r.held? held = some held → (c.after i (.asked r reply)).holder = c.holder →
      (c.after i (.asked r reply)).Holds i held₁ := fun hsame hholder => by
    obtain rfl : held = held₁ := Option.some.inj (hsame.symm.trans hr)
    exact ⟨h.nodup, by rw [hholder]; exact h.holder_iff⟩
  cases r with
  | acquire lock =>
    have hfree : c.holder lock = none := hmay.1
    have hnotin : lock ∉ held := fun hmem => by simp [(h.holder_iff lock).2 hmem] at hfree
    obtain ⟨-, hheld⟩ := Option.ite_none_right_eq_some.1 hr
    obtain rfl := Option.some.inj hheld
    refine ⟨List.nodup_cons.2 ⟨hnotin, h.nodup⟩, fun l => ?_⟩
    change Function.update c.holder lock (some i) l = some i ↔ _
    by_cases hl : l = lock
    · simp [hl]
    · rw [Function.update_of_ne hl, h.holder_iff, List.mem_cons, or_iff_right hl]
  | release lock =>
    obtain ⟨hhead, hheld⟩ := Option.ite_none_right_eq_some.1 hr
    obtain rfl := Option.some.inj hheld
    obtain ⟨rest, rfl⟩ : ∃ rest, held = lock :: rest := List.head?_eq_some_iff.1 hhead
    obtain ⟨hnotin, hrest⟩ := List.nodup_cons.1 h.nodup
    refine ⟨hrest, fun l => ?_⟩
    change Function.update c.holder lock none l = some i ↔ l ∈ rest
    by_cases hl : l = lock
    · simp [hl, hnotin]
    · rw [Function.update_of_ne hl, h.holder_iff, List.mem_cons, or_iff_right hl]
  | _ => exact hother rfl rfl

/-- **A request in order** is allowed by the locks, or waits for one that is held. -/
theorem grants_or_waits (h : c.Holds i held) {r : Request} (hr : r.held? held = some held₁) :
    Grants c.holder i r ∨ ∃ lock j, c.holder lock = some j ∧ ∀ l ∈ held, l.rank < lock.rank := by
  cases r with
  | acquire lock =>
    refine or_iff_not_imp_left.2 fun hgrants => ?_
    obtain ⟨j, hj⟩ := Option.ne_none_iff_exists'.1 hgrants
    exact ⟨lock, j, hj, (Option.ite_none_right_eq_some.1 hr).1⟩
  | release lock =>
    -- what is given back in order is held
    obtain ⟨hhead, -⟩ := Option.ite_none_right_eq_some.1 hr
    exact .inl ((h.holder_iff lock).2 (List.mem_of_head? hhead))
  | _ => exact .inl trivial

end Scene.Holds

namespace System

variable {σ : Type} {answers : Answers} {s : σ} {threads : List (Action σ Unit)}
  {sys : System σ} {i : Nat} {x : Action σ Unit}

/-- **Orderly threads stay orderly**, with the locks that they hold. -/
theorem Reaches.exists_holds (h : Reaches answers (start s threads) sys)
    (horderly : ∀ x ∈ threads, x.Orderly [] []) (hget : sys.threads[i]? = some x) :
    ∃ held, sys.scene.Holds i held ∧ x.Orderly held [] := by
  refine h.forall_threads (I := fun i x c => ∃ held, c.Holds i held ∧ x.Orderly held [])
    ?_ ?_ ?_ ?_ hget
  · intro i x hx
    exact ⟨[], ⟨List.nodup_nil, by simp⟩, horderly x (List.mem_of_getElem? hx)⟩
  · rintro c i x d started y ⟨held, hholds, hx⟩ hnext hmay
    cases hnext with
    | ask reply =>
      obtain ⟨held₁, hr, hk⟩ := hx
      exact ⟨held₁, hholds.after_asked hr hmay, hk reply⟩
    | atomic s => exact ⟨held, ⟨hholds.nodup, hholds.holder_iff⟩, hx s⟩
    | fork => exact ⟨held, ⟨hholds.nodup, hholds.holder_iff⟩, hx.2⟩
  · rintro c i j x y d started z hij ⟨held, hholds, hx⟩ - - hmay
    exact ⟨held, hholds.after_of_ne (Ne.symm hij) hmay, hx⟩
  · rintro c i j x d started y ⟨held, -, hx⟩ hnext - - hisnew z hz
    cases hnext with
    | ask | atomic => exact absurd hz List.not_mem_nil
    | fork =>
      obtain rfl := List.mem_singleton.1 hz
      exact ⟨[], ⟨List.nodup_nil, fun lock =>
        iff_of_false (hisnew.holder_ne lock) List.not_mem_nil⟩, hx.1⟩

/-! ## Going on -/

/-- A thread that cannot go on is done, or waits for a lock that is held. -/
theorem waits_of_forall_not_step (hreply : ∀ i r, ∃ reply, answers i r reply)
    (hstuck : ∀ sys', ¬ Step answers i sys sys') (hget : sys.threads[i]? = some x)
    {held : List Lock} (hholds : sys.scene.Holds i held) (horderly : x.Orderly held []) :
    (x = .done () ∧ held = []) ∨
      ∃ lock j, sys.scene.holder lock = some j ∧ ∀ l ∈ held, l.rank < lock.rank := by
  cases x with
  | done u => exact .inl ⟨rfl, (show [] = held from horderly).symm⟩
  | atomic u k => exact absurd ⟨hget, .atomic _, rfl⟩ (hstuck _)
  | fork other next => exact absurd ⟨hget, .fork, trivial⟩ (hstuck _)
  | ask r k =>
    obtain ⟨held₁, hr, -⟩ := horderly
    obtain ⟨reply, hreply⟩ := hreply i r
    have hgrants : ¬ Scene.Grants sys.scene.holder i r := fun hgrants =>
      hstuck _ ⟨hget, .ask reply, hgrants, hreply⟩
    exact .inr ((hholds.grants_or_waits hr).resolve_left hgrants)

/-- **Orderly threads never wait for each other**: if no thread can go on, all of them are done. -/
theorem eq_done_of_forall_not_step (h : Reaches answers (start s threads) sys)
    (horderly : ∀ x ∈ threads, x.Orderly [] []) (hreply : ∀ i r, ∃ reply, answers i r reply)
    (hstuck : ∀ i sys', ¬ Step answers i sys sys') (hget : sys.threads[i]? = some x) :
    x = .done () := by
  have hwaits : ∀ {i x}, sys.threads[i]? = some x → ∃ held, sys.scene.Holds i held ∧
      ((x = .done () ∧ held = []) ∨
        ∃ lock j, sys.scene.holder lock = some j ∧ ∀ l ∈ held, l.rank < lock.rank) :=
    fun hget => by
      obtain ⟨held, hholds, hx⟩ := h.exists_holds horderly hget
      exact ⟨held, hholds, waits_of_forall_not_step hreply (hstuck _) hget hholds hx⟩
  -- who holds a lock waits for one behind it, and there is no endless row of these
  have hfree : ∀ n lock j, sys.scene.holder lock = some j → lock.rank + n ≠ 2 := by
    intro n
    induction n with
    | zero =>
      intro lock j _
      have hle := lock.rank_le
      omega
    | succ n ih =>
      intro lock j hlock hn
      have hj : j < sys.threads.length := (h.isProper (isProper_start s threads)).2 lock j hlock
      obtain ⟨held, hholds, hj⟩ := hwaits (List.getElem?_eq_getElem hj)
      have hmem : lock ∈ held := (hholds.holder_iff lock).1 hlock
      obtain ⟨-, rfl⟩ | ⟨lock', j', hlock', hrank⟩ := hj
      · exact absurd hmem List.not_mem_nil
      · have hlt := hrank lock hmem
        have hle := lock'.rank_le
        exact ih lock' j' hlock' (by omega)
  obtain ⟨held, -, ⟨hdone, -⟩ | ⟨lock, j, hlock, -⟩⟩ := hwaits hget
  · exact hdone
  · have hle := lock.rank_le
    exact absurd (by omega) (hfree (2 - lock.rank) lock j hlock)

/-- **All threads can be done in the end**, whatever was done so far. -/
theorem exists_done (h : Reaches answers (start s threads) sys)
    (horderly : ∀ x ∈ threads, x.Orderly [] []) (hreply : ∀ i r, ∃ reply, answers i r reply) :
    ∃ sys', Reaches answers sys sys' ∧ ∀ x ∈ sys'.threads, x = .done () := by
  have hwf : WellFounded fun sys' sys : System σ => ∃ i, Step answers i sys sys' := wellFounded_step
  induction sys using hwf.induction with
  | _ sys ih =>
    by_cases hstuck : ∀ i sys', ¬ Step answers i sys sys'
    · refine ⟨sys, .refl, fun x hx => ?_⟩
      obtain ⟨i, hi⟩ := List.mem_iff_getElem?.1 hx
      exact eq_done_of_forall_not_step h horderly hreply hstuck hi
    · push Not at hstuck
      obtain ⟨i, sys', hstep⟩ := hstuck
      obtain ⟨sys'', hreach, hdone⟩ := ih sys' ⟨i, hstep⟩ (h.tail ⟨i, hstep⟩)
      exact ⟨sys'', .head ⟨i, hstep⟩ hreach, hdone⟩

end System

end NetUnits
