import NetUnits.Proofs.Action.Interleaving

/-! # What each deed comes after

What a thread does next depends on what it has done. A property of a deed therefore speaks of the
history before it as well, and a history that began earlier is no obstacle if the property only
**looks back**.

* **`Action.Each`** — each deed of an action has a property, given what came before it;
  `Action.each_bind`, `Action.Each.bind` and so on are its rules.
* **`Action.Starts`** — all actions that an action starts have a property.
* **`System.Reaches.exists_origin`** — what a thread has done is a history of one that was there at
  first or was started.
* **`System.Reaches.forall_deeds`** — each deed of each thread has the property, in any order of
  steps.
* **`Deed.Keeps`** — a deed keeps a property of the state, if the thread has met it so far;
  **`System.Reaches.meets`** — what all threads keep in this way holds all the time. -/

namespace NetUnits

/-! ## Each deed -/

namespace Action

variable {σ α β ε : Type} {P P' : List (Deed σ) → Deed σ → Prop} {x y z : Action σ α}
  {t u : List (Deed σ)} {d : Deed σ}

/-- **A history is one after the other.** -/
theorem after_append_iff : After x (t ++ u) z ↔ ∃ y, After x t y ∧ After y u z := by
  refine ⟨fun h => ?_, fun ⟨y, ht, hu⟩ => ht.trans hu⟩
  induction t generalizing x with
  | nil => exact ⟨x, .start x, h⟩
  | cons d t ih =>
    cases h with
    | ask reply rest =>
      obtain ⟨y, ht, hu⟩ := ih rest
      exact ⟨y, .ask reply ht, hu⟩
    | atomic s rest =>
      obtain ⟨y, ht, hu⟩ := ih rest
      exact ⟨y, .atomic s ht, hu⟩
    | fork rest =>
      obtain ⟨y, ht, hu⟩ := ih rest
      exact ⟨y, .fork ht, hu⟩

/-- What follows a look at the state comes after it. -/
theorem run_look_bind_iff {f : σ → Action σ α} {a : α} :
    Run (look >>= f) t a ↔ ∃ s t', t = .changed s s :: t' ∧ Run (f s) t' a :=
  run_atomic_iff (u := id) (k := f)

/-- Handing on what is there changes nothing. -/
theorem andThen_ok (x : Action σ (Except ε α)) : x.andThen (fun a => done (.ok a)) = x :=
  (bind_congr fun result => by cases result <;> rfl).trans (bind_done x)

/-- **A property looks back**: it holds of a deed whatever happened before the history that it is
about. -/
def LooksBack (P : List (Deed σ) → Deed σ → Prop) : Prop :=
  ∀ t₀ t d, P t d → P (t₀ ++ t) d

/-- **Each deed of an action has a property**, given what the action has done before it. -/
def Each (P : List (Deed σ) → Deed σ → Prop) (x : Action σ α) : Prop :=
  ∀ t d y, After x (t ++ [d]) y → P t d

theorem Each.mono (h : x.Each P) (hP : ∀ t d, P t d → P' t d) : x.Each P' :=
  fun t d y hafter => hP t d (h t d y hafter)

/-- Each deed of a history has the property. -/
theorem Each.of_after (h : x.Each P) (hafter : After x (t ++ d :: u) y) : P t d := by
  rw [List.append_cons] at hafter
  obtain ⟨z, hz, -⟩ := after_append_iff.1 hafter
  exact h t d z hz

theorem each_done (a : α) : (done a : Action σ α).Each P :=
  fun _ _ _ hafter => absurd hafter not_after_done_snoc

/-- Rules that are obeyed everywhere are obeyed after any history. -/
theorem Obeys.each {p : Request → Prop} {q : σ → σ → Prop} (h : x.Obeys p q)
    (hP : ∀ t d, d.Obeys p q → P t d) : x.Each P :=
  fun t d _ hafter => hP t d (h.of_after_snoc hafter)

theorem each_request {r : Request} (h : ∀ reply, P [] (.asked r reply)) :
    (request r : Action σ r.Reply).Each P := by
  rintro (_ | ⟨d', t⟩) d y hafter
  · cases hafter with
    | ask reply rest => exact h reply
  · cases hafter with
    | ask reply rest => exact absurd rest not_after_done_snoc

theorem each_change {f : σ → α × σ} (h : ∀ s, P [] (.changed s (f s).2)) : (change f).Each P := by
  rintro (_ | ⟨d', t⟩) d y hafter
  · cases hafter with
    | atomic s rest => exact h s
  · cases hafter with
    | atomic s rest => exact absurd rest not_after_done_snoc

/-- **A deed of two actions in sequence** is one of the first, or one of the second after all that
the first has done. -/
theorem each_bind {f : α → Action σ β} (hx : x.Each P)
    (hf : ∀ t a, Run x t a → (f a).Each fun u d => P (t ++ u) d) : (x >>= f).Each P := by
  intro t d z hafter
  obtain ⟨y, hy⟩ | ⟨t₁, t₂, a, rfl, hrun, hrest⟩ := after_bind_snoc hafter
  · exact hx t d y hy
  · exact hf t₁ a hrun t₂ d z hrest

theorem Each.bind (hP : LooksBack P) {f : α → Action σ β} (hx : x.Each P)
    (hf : ∀ a, (f a).Each P) : (x >>= f).Each P :=
  each_bind hx fun t a _ => (hf a).mono fun u d h => hP t u d h

theorem Each.andThen (hP : LooksBack P) {x : Action σ (Except ε α)}
    {f : α → Action σ (Except ε β)} (hx : x.Each P) (hf : ∀ a, (f a).Each P) :
    (x.andThen f).Each P :=
  hx.bind hP fun
    | .ok a => hf a
    | .error _ => each_done _

/-- **A deed under a lock** comes after taking it, and giving it back comes in the end. -/
theorem each_withLock {lock : Lock} {body : Action σ α}
    (hacquire : P [] (.asked (.acquire lock) ()))
    (hbody : body.Each fun t d => P (.asked (.acquire lock) () :: t) d)
    (hrelease : ∀ t a, Run body t a →
      P (.asked (.acquire lock) () :: t) (.asked (.release lock) ())) :
    (withLock lock body).Each P := by
  refine each_bind (each_request fun _ => hacquire) fun t _ ht => ?_
  obtain rfl := run_request_iff.1 ht
  refine each_bind hbody fun t a hrun => each_bind (each_request fun _ => ?_) fun t' _ _ => ?_
  · rw [List.append_nil]
    exact hrelease t a hrun
  · exact each_done _

/-! ## What is started -/

/-- **All actions that an action starts have a property.** -/
def Starts (Q : Action σ Unit → Prop) {α : Type} : Action σ α → Prop
  | done _ => True
  | ask _ k => ∀ reply, (k reply).Starts Q
  | atomic _ k => ∀ s, (k s).Starts Q
  | fork other next => Q other ∧ next.Starts Q

variable {Q : Action σ Unit → Prop} {p : Request → Prop} {q : σ → σ → Prop}

theorem starts_request (r : Request) : (request r : Action σ r.Reply).Starts Q :=
  fun _ => trivial

theorem starts_change (f : σ → α × σ) : (change f).Starts Q :=
  fun _ => trivial

theorem Starts.bind {f : α → Action σ β} (hx : x.Starts Q) (hf : ∀ a, (f a).Starts Q) :
    (x >>= f).Starts Q := by
  induction x with
  | done a => exact hf a
  | ask r k ih => exact fun reply => ih reply (hx reply) hf
  | atomic u k ih => exact fun s => ih s (hx s) hf
  | fork other next _ ih => exact ⟨hx.1, ih hx.2 hf⟩

theorem Starts.andThen {x : Action σ (Except ε α)} {f : α → Action σ (Except ε β)}
    (hx : x.Starts Q) (hf : ∀ a, (f a).Starts Q) : (x.andThen f).Starts Q :=
  hx.bind fun
    | .ok a => hf a
    | .error _ => trivial

theorem Starts.withLock {lock : Lock} {body : Action σ α} (h : body.Starts Q) :
    (withLock lock body).Starts Q :=
  (starts_request _).bind fun _ => h.bind fun _ => (starts_request _).bind fun _ => trivial

/-- What an action that obeys rules starts obeys them too. -/
theorem Obeys.starts (h : x.Obeys p q) : x.Starts (·.Obeys p q) := by
  induction x with
  | done a => trivial
  | ask r k ih => exact fun reply => ih reply (h.2 reply)
  | atomic u k ih => exact fun s => ih s (h s).2
  | fork other next _ ih => exact ⟨h.1, ih h.2⟩

theorem Starts.of_next {started : List (Action σ Unit)} (h : x.Starts Q)
    (hnext : x.Next d started y) : y.Starts Q ∧ ∀ z ∈ started, Q z := by
  cases hnext with
  | ask reply => exact ⟨h reply, by simp⟩
  | atomic s => exact ⟨h s, by simp⟩
  | fork => exact ⟨h.2, by simpa using h.1⟩

end Action

/-! ## Each deed of a system -/

namespace System

open NetUnits.Action

variable {σ : Type} {answers : Answers} {sys : System σ} {s : σ} {threads : List (Action σ Unit)}
  {p : Request → Prop} {q : σ → σ → Prop} {i : Nat} {y : Action σ Unit}

/-- **What a thread has done is a history** of a thread that was there at first, or of one that was
started and obeys the rules for those. -/
theorem Reaches.exists_origin (h : Reaches answers (start s threads) sys)
    (hthreads : ∀ x ∈ threads, x.Starts (·.Obeys p q)) (hget : sys.threads[i]? = some y) :
    ∃ x, (threads[i]? = some x ∨ x.Obeys p q) ∧ After x (sys.scene.pastOf i) y := by
  suffices hall : (∃ x, (threads[i]? = some x ∨ x.Obeys p q) ∧ After x (sys.scene.pastOf i) y) ∧
      y.Starts (·.Obeys p q) from hall.1
  refine h.forall_threads (I := fun i y c =>
    (∃ x, (threads[i]? = some x ∨ x.Obeys p q) ∧ After x (c.pastOf i) y) ∧
      y.Starts (·.Obeys p q)) ?_ ?_ ?_ ?_ hget
  · intro i x hx
    exact ⟨⟨x, .inl hx, .start x⟩, hthreads x (List.mem_of_getElem? hx)⟩
  · rintro c i y d started z ⟨⟨x, hx, hafter⟩, hstarts⟩ hnext -
    exact ⟨⟨x, hx, by rw [Scene.pastOf_after_self]; exact hafter.snoc hnext⟩,
      (hstarts.of_next hnext).1⟩
  · rintro c i j x y d started z hij ⟨⟨x₀, hx₀, hafter⟩, hstarts⟩ - - -
    exact ⟨⟨x₀, hx₀, by rwa [Scene.pastOf_after_of_ne hij.symm]⟩, hstarts⟩
  · rintro c i j x d started y ⟨-, hstarts⟩ hnext - - hnew z hz
    have hobeys : z.Obeys p q := (hstarts.of_next hnext).2 z hz
    exact ⟨⟨z, .inr hobeys, by rw [hnew.pastOf_eq_nil]; exact .start z⟩, hobeys.starts⟩

/-- **Each deed of each thread has a property**, if each deed of the first threads has it and those
that they start obey rules which are enough for it. -/
theorem Reaches.forall_deeds {P : List (Deed σ) → Deed σ → Prop}
    (h : Reaches answers (start s threads) sys)
    (hthreads : ∀ x ∈ threads, x.Each P ∧ x.Starts (·.Obeys p q))
    (hP : ∀ t d, d.Obeys p q → P t d) {t u : List (Deed σ)} {d : Deed σ}
    (hpast : sys.scene.pastOf i = t ++ d :: u) : P t d := by
  have hmem : (i, d) ∈ sys.scene.past := Scene.mem_pastOf_iff.1 (by simp [hpast])
  obtain ⟨y, hy⟩ : ∃ y, sys.threads[i]? = some y :=
    ⟨_, List.getElem?_eq_getElem ((h.isProper (isProper_start s threads)).1 i d hmem)⟩
  obtain ⟨x, hx | hx, hafter⟩ := h.exists_origin (fun x hx => (hthreads x hx).2) hy
  · rw [hpast] at hafter
    exact (hthreads x (List.mem_of_getElem? hx)).1.of_after hafter
  · rw [hpast] at hafter
    exact (hx.each hP).of_after hafter

end System

/-! ## Invariants that each thread keeps -/

section Keeps

variable {σ : Type} {K : σ → Prop}

/-- A deed meets and leaves only states with a property. -/
def Deed.Meets (K : σ → Prop) : Deed σ → Prop
  | changed s s' => K s ∧ K s'
  | _ => True

/-- **A deed keeps a property of the state**, if the thread has met it so far. -/
def Deed.Keeps (K : σ → Prop) (t : List (Deed σ)) : Deed σ → Prop
  | changed s s' => (∀ e ∈ t, e.Meets K) → K s → K s'
  | _ => True

theorem Deed.keeps_looksBack : Action.LooksBack (Deed.Keeps K) := by
  intro t₀ t d h
  cases d with
  | changed s s' => exact fun hmet => h fun e he => hmet e (List.mem_append_right t₀ he)
  | asked | forked => trivial

/-- What obeys rules that keep a property keeps it whatever was met. -/
theorem Action.Obeys.keeps {α : Type} {x : Action σ α} {p : Request → Prop} {q : σ → σ → Prop}
    (h : x.Obeys p q) (hq : ∀ s s', q s s' → K s → K s') : x.Each (Deed.Keeps K) :=
  h.each fun _ d hd => by
    cases d with
    | changed s s' => exact fun _ => hq s s' hd
    | asked | forked => trivial

theorem Action.Each.keeps_withLock {α : Type} {body : Action σ α} (h : body.Each (Deed.Keeps K))
    (lock : Lock) : (withLock lock body).Each (Deed.Keeps K) :=
  each_withLock trivial (h.mono fun t d hd => Deed.keeps_looksBack [_] t d hd) fun _ _ _ => trivial

/-- What follows a change of the state may rely on what the change has met. -/
theorem Action.keeps_change_bind {α β : Type} {f : σ → β × σ} {k : β → Action σ α}
    (hf : ∀ s, K s → K (f s).2) (hk : ∀ s, K s → (k (f s).1).Each (Deed.Keeps K)) :
    (change f >>= k).Each (Deed.Keeps K) := by
  refine each_bind (each_change fun s _ hs => hf s hs) ?_
  intro t b hchange u d y hafter
  obtain ⟨s, rfl, rfl⟩ := run_change_iff.1 hchange
  cases d with
  | changed before after =>
    intro hmet
    have hs : K s := (hmet (.changed s (f s).2) List.mem_cons_self).1
    exact hk s hs u _ y hafter fun e he => hmet e (List.mem_cons_of_mem _ he)
  | asked | forked => trivial

/-- **What each thread keeps as long as it has met it** holds all the time: no thread is the first
one to break it. -/
theorem System.Reaches.meets {answers : Answers} {sys : System σ} {s : σ}
    {threads : List (Action σ Unit)} {p : Request → Prop} {q : σ → σ → Prop}
    (h : Reaches answers (start s threads) sys) (hs : K s)
    (hthreads : ∀ x ∈ threads, x.Each (Deed.Keeps K) ∧ x.Starts (·.Obeys p q))
    (hq : ∀ s s', q s s' → K s → K s') :
    K sys.scene.state ∧ ∀ i, ∀ d ∈ sys.scene.pastOf i, d.Meets K := by
  induction h with
  | refl => exact ⟨hs, fun i d hd => absurd hd List.not_mem_nil⟩
  | tail hmid hstep ih =>
    rename_i sys₁ sys₂
    have hmid : Reaches answers (start s threads) sys₁ := hmid
    obtain ⟨hstate, hmet⟩ := ih
    have hnext : Reaches answers (start s threads) sys₂ := hmid.tail hstep
    obtain ⟨i, @⟨x, y, d, started, -, -, hmay⟩⟩ := hstep
    have hkeeps : d.Keeps K (sys₁.scene.pastOf i) := by
      refine hnext.forall_deeds (p := p) (q := q) hthreads (fun t e he => ?_) (u := [])
        Scene.pastOf_after_self
      cases e with
      | changed s s' => exact fun _ => hq s s' he
      | asked | forked => trivial
    -- the deed meets the state that the last one has left
    have hlast : K (sys₁.scene.after i d).state ∧ d.Meets K := by
      cases d with
      | changed s₁ s₂ =>
        obtain rfl : s₁ = sys₁.scene.state := hmay
        have hleft := hkeeps (hmet i) hstate
        exact ⟨hleft, hstate, hleft⟩
      | asked | forked => exact ⟨hstate, trivial⟩
    refine ⟨hlast.1, fun j e he => ?_⟩
    by_cases hj : i = j
    · subst hj
      rw [Scene.pastOf_after_self] at he
      rcases List.mem_append.1 he with he | he
      · exact hmet i e he
      · exact List.mem_singleton.1 he ▸ hlast.2
    · rw [Scene.pastOf_after_of_ne hj] at he
      exact hmet j e he

end Keeps

end NetUnits
