import NetUnits.Action.Basic

/-! # What actions do

An action does one thing after the other. Between two of them others may do something too, so a
request may have any reply, and a change may meet any state: all that holds of every **history** of
an action holds wherever it is carried out.

* **`Deed`** — one thing that an action does.
* **`Action.After`** — what is left of an action after a history; **`Action.Run`** — a history up to
  a result. **`Action.after_bind_iff`** and **`Action.run_bind_iff`** take an action apart.
* **`Action.Succeeds`** — an action never fails in surroundings of a kind.
* **`Action.Obeys`** — all requests and all changes of an action obey rules;
  **`Action.Obeys.of_after`** — so do those of its histories.
* **`Action.Makes`** — the requests of a kind that an action makes, whatever happens. -/

namespace NetUnits

/-- **One thing that an action does.** -/
inductive Deed (σ : Type) where
  /-- It makes a request and gets a reply. -/
  | asked (request : Request) (reply : request.Reply)
  /-- It changes the state. -/
  | changed (before after : σ)
  /-- It lets another action go on beside it. -/
  | forked

/-- A deed obeys rules for requests and for changes. -/
def Deed.Obeys {σ : Type} (p : Request → Prop) (q : σ → σ → Prop) : Deed σ → Prop
  | asked r _ => p r
  | changed before after => q before after
  | forked => True

/-- **What the requests of a history come to.** -/
def Deed.collect {σ α : Type} (f : Request → Option α) (t : List (Deed σ)) : List α :=
  t.filterMap fun
    | asked r _ => f r
    | _ => none

namespace Deed

variable {σ α : Type} {f : Request → Option α}

@[simp] theorem collect_nil : collect f ([] : List (Deed σ)) = [] := rfl

@[simp] theorem collect_append (t₁ t₂ : List (Deed σ)) :
    collect f (t₁ ++ t₂) = collect f t₁ ++ collect f t₂ :=
  List.filterMap_append

/-- Without such requests nothing is collected. -/
theorem collect_eq_nil {t : List (Deed σ)}
    (h : ∀ d ∈ t, d.Obeys (fun r => f r = none) fun _ _ => True) : collect f t = [] := by
  refine List.filterMap_eq_nil_iff.2 fun d hd => ?_
  cases d with
  | asked r reply => exact h _ hd
  | changed | forked => rfl

/-- **The requests of a history with their replies.** -/
def exchanges (t : List (Deed σ)) : List (Σ r : Request, r.Reply) :=
  t.filterMap fun
    | asked r reply => some ⟨r, reply⟩
    | _ => none

theorem mem_exchanges_iff {t : List (Deed σ)} {r : Request} {reply : r.Reply} :
    ⟨r, reply⟩ ∈ exchanges t ↔ asked r reply ∈ t := by
  rw [exchanges, List.mem_filterMap]
  constructor
  · rintro ⟨d, hd, heq⟩
    cases d with
    | asked r' reply' =>
      cases Option.some.inj heq
      exact hd
    | changed | forked => exact nomatch heq
  · exact fun hd => ⟨_, hd, rfl⟩

/-- What requests come to does not depend on anything else. -/
theorem collect_eq_filterMap (t : List (Deed σ)) :
    collect f t = (exchanges t).filterMap fun e => f e.1 := by
  rw [collect, exchanges, List.filterMap_filterMap]
  congr 1
  funext d
  cases d <;> rfl

end Deed

namespace Action

variable {σ τ α β ε : Type}

/-! ## Histories -/

/-- **What is left of an action after a history.** -/
inductive After {σ α : Type} : Action σ α → List (Deed σ) → Action σ α → Prop where
  /-- Nothing is done yet. -/
  | start (x : Action σ α) : After x [] x
  /-- A request is made, and any reply to it is possible. -/
  | ask {r : Request} {k : r.Reply → Action σ α} {t : List (Deed σ)} {y : Action σ α}
      (reply : r.Reply) (rest : After (k reply) t y) : After (ask r k) (.asked r reply :: t) y
  /-- The state is changed, whatever it is by now. -/
  | atomic {u : σ → σ} {k : σ → Action σ α} {t : List (Deed σ)} {y : Action σ α} (s : σ)
      (rest : After (k s) t y) : After (atomic u k) (.changed s (u s) :: t) y
  /-- Another action goes on beside what follows. -/
  | fork {other : Action σ Unit} {next : Action σ α} {t : List (Deed σ)} {y : Action σ α}
      (rest : After next t y) : After (fork other next) (.forked :: t) y

/-- **A history of an action up to a result.** -/
def Run (x : Action σ α) (t : List (Deed σ)) (a : α) : Prop :=
  After x t (done a)

theorem After.trans {x y z : Action σ α} {t t' : List (Deed σ)} (h : After x t y)
    (h' : After y t' z) : After x (t ++ t') z := by
  induction h with
  | start x => exact h'
  | ask reply _ ih => exact .ask reply (ih h')
  | atomic s _ ih => exact .atomic s (ih h')
  | fork _ ih => exact .fork (ih h')

theorem After.bind {x y : Action σ α} {t : List (Deed σ)} (h : After x t y)
    (f : α → Action σ β) : After (x >>= f) t (y >>= f) := by
  induction h with
  | start x => exact .start _
  | ask reply _ ih => exact .ask reply ih
  | atomic s _ ih => exact .atomic s ih
  | fork _ ih => exact .fork ih

/-- **What a history leaves is determined by it**: it goes on as what its beginning has left. -/
theorem After.of_append {x y z : Action σ α} {t t' : List (Deed σ)} (h : After x t y)
    (h' : After x (t ++ t') z) : After y t' z := by
  induction h with
  | start x => exact h'
  | ask reply _ ih | atomic s _ ih | fork _ ih =>
    cases h' with
    | _ => exact ih ‹_›

/-- **A history of two actions in sequence** is one of the first, or a whole one of the first and
then one of the second. -/
theorem after_bind_iff {x : Action σ α} {f : α → Action σ β} {t : List (Deed σ)}
    {z : Action σ β} :
    After (x >>= f) t z ↔
      (∃ y, After x t y ∧ z = y >>= f) ∨
        ∃ t₁ t₂ a, t = t₁ ++ t₂ ∧ Run x t₁ a ∧ After (f a) t₂ z := by
  constructor
  · intro h
    induction x generalizing t with
    | done a => exact .inr ⟨[], t, a, rfl, .start _, h⟩
    | ask r k ih =>
      cases h with
      | start => exact .inl ⟨_, .start _, rfl⟩
      | ask reply rest =>
        obtain ⟨y, hy, rfl⟩ | ⟨t₁, t₂, a, rfl, hx, hf⟩ := ih reply rest
        · exact .inl ⟨y, .ask reply hy, rfl⟩
        · exact .inr ⟨_ :: t₁, t₂, a, rfl, .ask reply hx, hf⟩
    | atomic u k ih =>
      cases h with
      | start => exact .inl ⟨_, .start _, rfl⟩
      | atomic s rest =>
        obtain ⟨y, hy, rfl⟩ | ⟨t₁, t₂, a, rfl, hx, hf⟩ := ih s rest
        · exact .inl ⟨y, .atomic s hy, rfl⟩
        · exact .inr ⟨_ :: t₁, t₂, a, rfl, .atomic s hx, hf⟩
    | fork other next _ ih =>
      cases h with
      | start => exact .inl ⟨_, .start _, rfl⟩
      | fork rest =>
        obtain ⟨y, hy, rfl⟩ | ⟨t₁, t₂, a, rfl, hx, hf⟩ := ih rest
        · exact .inl ⟨y, .fork hy, rfl⟩
        · exact .inr ⟨_ :: t₁, t₂, a, rfl, .fork hx, hf⟩
  · rintro (⟨y, hy, rfl⟩ | ⟨t₁, t₂, a, rfl, hx, hf⟩)
    · exact hy.bind f
    · exact (hx.bind f).trans hf

/-- After the end there is no last deed. -/
theorem not_after_done_snoc {a : α} {t : List (Deed σ)} {d : Deed σ} {y : Action σ α} :
    ¬ After (done a) (t ++ [d]) y := by
  intro h
  obtain ⟨l, hl⟩ : ∃ l, l = t ++ [d] := ⟨_, rfl⟩
  rw [← hl] at h
  cases h
  simp at hl

/-- The last deed of a history of two actions in sequence is one of the first, or one of the second
after a whole history of the first. -/
theorem after_bind_snoc {x : Action σ α} {f : α → Action σ β} {t : List (Deed σ)} {d : Deed σ}
    {z : Action σ β} (h : After (x >>= f) (t ++ [d]) z) :
    (∃ y, After x (t ++ [d]) y) ∨
      ∃ t₁ t₂ a, t = t₁ ++ t₂ ∧ Run x t₁ a ∧ After (f a) (t₂ ++ [d]) z := by
  obtain ⟨y, hy, -⟩ | ⟨t₁, t₂, a, heq, hx, hf⟩ := after_bind_iff.1 h
  · exact .inl ⟨y, hy⟩
  · obtain rfl | ⟨t₂, d', rfl⟩ := t₂.eq_nil_or_concat
    · exact .inl ⟨done a, by rwa [heq, List.append_nil]⟩
    · rw [List.concat_eq_append] at heq hf
      rw [← List.append_assoc] at heq
      obtain ⟨rfl, hd⟩ := List.append_inj' heq rfl
      obtain rfl := List.singleton_inj.1 hd
      exact .inr ⟨t₁, t₂, a, rfl, hx, hf⟩

/-- **A history that begins with a request**: nothing is done yet, or it goes on with the reply. -/
theorem after_request_bind_iff {r : Request} {f : r.Reply → Action σ α} {t : List (Deed σ)}
    {y : Action σ α} :
    After (request r >>= f) t y ↔
      (t = [] ∧ y = request r >>= f) ∨
        ∃ reply t', t = .asked r reply :: t' ∧ After (f reply) t' y := by
  constructor
  · intro h
    change After (ask r fun reply => f reply) t y at h
    cases h with
    | start => exact .inl ⟨rfl, rfl⟩
    | ask reply rest => exact .inr ⟨reply, _, rfl, rest⟩
  · rintro (⟨rfl, rfl⟩ | ⟨reply, t', rfl, h⟩)
    · exact .start _
    · exact .ask reply h

/-- **A history that begins with a change**: nothing is done yet, or it goes on with what the change
comes to. -/
theorem after_change_bind_iff {f : σ → β × σ} {k : β → Action σ α} {t : List (Deed σ)}
    {y : Action σ α} :
    After (change f >>= k) t y ↔
      (t = [] ∧ y = change f >>= k) ∨
        ∃ s t', t = .changed s (f s).2 :: t' ∧ After (k (f s).1) t' y := by
  constructor
  · intro h
    change After (atomic (fun s => (f s).2) fun s => k (f s).1) t y at h
    cases h with
    | start => exact .inl ⟨rfl, rfl⟩
    | atomic s rest => exact .inr ⟨s, _, rfl, rest⟩
  · rintro (⟨rfl, rfl⟩ | ⟨s, t', rfl, h⟩)
    · exact .start _
    · exact .atomic s h

/-- Nothing is done after the end. -/
theorem after_done_iff {a : α} {t : List (Deed σ)} {y : Action σ α} :
    After (done a) t y ↔ t = [] ∧ y = done a := by
  constructor
  · intro h
    cases h
    exact ⟨rfl, rfl⟩
  · rintro ⟨rfl, rfl⟩
    exact .start _

/-! ## Whole histories -/

@[simp] theorem run_done_iff {a b : α} {t : List (Deed σ)} :
    Run (done a) t b ↔ t = [] ∧ b = a := by
  rw [Run, after_done_iff, Action.done.injEq]

@[simp] theorem run_ask_iff {r : Request} {k : r.Reply → Action σ α} {t : List (Deed σ)} {a : α} :
    Run (ask r k) t a ↔ ∃ reply t', t = .asked r reply :: t' ∧ Run (k reply) t' a := by
  constructor
  · intro h
    cases h with
    | ask reply rest => exact ⟨reply, _, rfl, rest⟩
  · rintro ⟨reply, t', rfl, rest⟩
    exact .ask reply rest

@[simp] theorem run_atomic_iff {u : σ → σ} {k : σ → Action σ α} {t : List (Deed σ)} {a : α} :
    Run (atomic u k) t a ↔ ∃ s t', t = .changed s (u s) :: t' ∧ Run (k s) t' a := by
  constructor
  · intro h
    cases h with
    | atomic s rest => exact ⟨s, _, rfl, rest⟩
  · rintro ⟨s, t', rfl, rest⟩
    exact .atomic s rest

@[simp] theorem run_fork_iff {other : Action σ Unit} {next : Action σ α} {t : List (Deed σ)}
    {a : α} : Run (fork other next) t a ↔ ∃ t', t = .forked :: t' ∧ Run next t' a := by
  constructor
  · intro h
    cases h with
    | fork rest => exact ⟨_, rfl, rest⟩
  · rintro ⟨t', rfl, rest⟩
    exact .fork rest

/-- **A whole history of two actions in sequence** is one of the first and then one of the
second. -/
theorem run_bind_iff {x : Action σ α} {f : α → Action σ β} {t : List (Deed σ)} {b : β} :
    Run (x >>= f) t b ↔ ∃ t₁ t₂ a, t = t₁ ++ t₂ ∧ Run x t₁ a ∧ Run (f a) t₂ b := by
  rw [Run, after_bind_iff]
  constructor
  · rintro (⟨y, hy, hz⟩ | h)
    · -- a sequence that is done has done both
      cases y with
      | done a =>
        have hdone : done b = f a := hz
        exact ⟨t, [], a, (List.append_nil t).symm, hy, hdone ▸ .start _⟩
      | ask | atomic | fork => exact nomatch hz
    · exact h
  · exact .inr

theorem run_andThen_iff {x : Action σ (Except ε α)} {f : α → Action σ (Except ε β)}
    {t : List (Deed σ)} {b : Except ε β} :
    Run (x.andThen f) t b ↔
      (∃ e, Run x t (.error e) ∧ b = .error e) ∨
        ∃ t₁ t₂ a, t = t₁ ++ t₂ ∧ Run x t₁ (.ok a) ∧ Run (f a) t₂ b := by
  rw [andThen, run_bind_iff]
  constructor
  · rintro ⟨t₁, t₂, a | a, rfl, hx, hf⟩
    · obtain ⟨rfl, rfl⟩ := run_done_iff.1 hf
      exact .inl ⟨a, by rwa [List.append_nil], rfl⟩
    · exact .inr ⟨t₁, t₂, a, rfl, hx, hf⟩
  · rintro (⟨e, hx, rfl⟩ | ⟨t₁, t₂, a, rfl, hx, hf⟩)
    · exact ⟨t, [], .error e, (List.append_nil t).symm, hx, run_done_iff.2 ⟨rfl, rfl⟩⟩
    · exact ⟨t₁, t₂, .ok a, rfl, hx, hf⟩

theorem run_request_iff {r : Request} {t : List (Deed σ)} {reply : r.Reply} :
    Run (request r : Action σ r.Reply) t reply ↔ t = [.asked r reply] := by
  rw [request, run_ask_iff]
  constructor
  · rintro ⟨reply', t', rfl, h⟩
    obtain ⟨rfl, rfl⟩ := run_done_iff.1 h
    rfl
  · rintro rfl
    exact ⟨reply, [], rfl, run_done_iff.2 ⟨rfl, rfl⟩⟩

theorem run_change_iff {f : σ → α × σ} {t : List (Deed σ)} {a : α} :
    Run (change f) t a ↔ ∃ s, t = [.changed s (f s).2] ∧ a = (f s).1 := by
  rw [change, run_atomic_iff]
  constructor
  · rintro ⟨s, t', rfl, h⟩
    obtain ⟨rfl, rfl⟩ := run_done_iff.1 h
    exact ⟨s, rfl, rfl⟩
  · rintro ⟨s, rfl, rfl⟩
    exact ⟨s, [], rfl, run_done_iff.2 ⟨rfl, rfl⟩⟩

/-- What is done under a lock stands between taking it and giving it back. -/
theorem run_withLock_iff {lock : Lock} {body : Action σ α} {t : List (Deed σ)} {a : α} :
    Run (withLock lock body) t a ↔
      ∃ t', t = .asked (.acquire lock) () :: t' ++ [.asked (.release lock) ()] ∧
        Run body t' a := by
  have hrest : ∀ t₂ b, Run (request (.release lock) >>= fun _ => done b : Action σ α) t₂ a ↔
      t₂ = [.asked (.release lock) ()] ∧ a = b := fun t₂ b => by
    rw [run_bind_iff]
    constructor
    · rintro ⟨_, _, _, rfl, h, hdone⟩
      obtain rfl := run_request_iff.1 h
      obtain ⟨rfl, rfl⟩ := run_done_iff.1 hdone
      exact ⟨rfl, rfl⟩
    · rintro ⟨rfl, rfl⟩
      exact ⟨_, [], (), rfl, run_request_iff.2 rfl, run_done_iff.2 ⟨rfl, rfl⟩⟩
  rw [withLock, run_bind_iff]
  constructor
  · rintro ⟨t₁, t₂, a', rfl, h₁, h₂⟩
    obtain rfl := run_request_iff.1 h₁
    obtain ⟨t₂, t₃, b, rfl, hb, h₃⟩ := run_bind_iff.1 h₂
    obtain ⟨rfl, rfl⟩ := (hrest t₃ b).1 h₃
    exact ⟨t₂, rfl, hb⟩
  · rintro ⟨t', rfl, hb⟩
    exact ⟨[.asked (.acquire lock) ()], _, (), rfl, run_request_iff.2 rfl,
      run_bind_iff.2 ⟨t', _, a, rfl, hb, (hrest _ a).2 ⟨rfl, rfl⟩⟩⟩

/-- Every request can be replied to. -/
theorem nonempty_reply (r : Request) : Nonempty r.Reply := by
  cases r <;> first | exact ⟨default⟩ | exact ⟨.inTime⟩

/-- **Every action can come to an end.** -/
theorem exists_run [Inhabited σ] (x : Action σ α) : ∃ t a, Run x t a := by
  induction x with
  | done a => exact ⟨[], a, .start _⟩
  | ask r k ih =>
    obtain ⟨reply⟩ := nonempty_reply r
    obtain ⟨t, a, h⟩ := ih reply
    exact ⟨_, a, .ask reply h⟩
  | atomic u k ih =>
    obtain ⟨t, a, h⟩ := ih default
    exact ⟨_, a, .atomic default h⟩
  | fork other next _ ih =>
    obtain ⟨t, a, h⟩ := ih
    exact ⟨_, a, .fork h⟩

/-! ## Parts of the state -/

theorem inside_change (part : Part σ τ) (f : τ → α × τ) :
    (change f).inside part = change fun s => ((f (part.get s)).1, part.set (f (part.get s)).2 s) :=
  rfl

theorem inside_withLock (part : Part σ τ) (lock : Lock) (body : Action τ α) :
    (withLock lock body).inside part = withLock lock (body.inside part) := by
  simp only [withLock, inside_bind]
  rfl

/-- **A history of an action on a part of the state** has the same requests and replies as one of
the action alone. -/
theorem After.of_inside {part : Part σ τ} {x : Action τ α} {t : List (Deed σ)} {z : Action σ α}
    (h : After (x.inside part) t z) :
    ∃ t' y, After x t' y ∧ z = y.inside part ∧ Deed.exchanges t' = Deed.exchanges t := by
  induction x generalizing t with
  | done a =>
    cases h with
    | start => exact ⟨[], _, .start _, rfl, rfl⟩
  | ask r k ih =>
    cases h with
    | start => exact ⟨[], _, .start _, rfl, rfl⟩
    | ask reply rest =>
      obtain ⟨t', y, hy, rfl, ht⟩ := ih reply rest
      exact ⟨_, y, .ask reply hy, rfl, congrArg (List.cons _) ht⟩
  | atomic u k ih =>
    cases h with
    | start => exact ⟨[], _, .start _, rfl, rfl⟩
    | atomic s rest =>
      obtain ⟨t', y, hy, rfl, ht⟩ := ih _ rest
      exact ⟨_, y, .atomic _ hy, rfl, ht⟩
  | fork other next _ ih =>
    cases h with
    | start => exact ⟨[], _, .start _, rfl, rfl⟩
    | fork rest =>
      obtain ⟨t', y, hy, rfl, ht⟩ := ih rest
      exact ⟨_, y, .fork hy, rfl, ht⟩

theorem exists_run_of_inside {part : Part σ τ} {x : Action τ α} {t : List (Deed σ)} {a : α}
    (h : Run (x.inside part) t a) :
    ∃ t', Run x t' a ∧ Deed.exchanges t' = Deed.exchanges t := by
  obtain ⟨t', y, hy, heq, ht⟩ := After.of_inside h
  cases y with
  | done b =>
    cases heq
    exact ⟨t', hy, ht⟩
  | ask | atomic | fork => exact nomatch heq

/-- **An action succeeds** if its surroundings reply as they may. -/
def Succeeds (answers : (r : Request) → r.Reply → Prop) (x : Action σ (Except ε α)) : Prop :=
  ∀ t result, Run x t result → (∀ r reply, .asked r reply ∈ t → answers r reply) →
    ∃ a, result = .ok a

theorem Succeeds.inside {answers : (r : Request) → r.Reply → Prop} {x : Action τ (Except ε α)}
    (h : x.Succeeds answers) (part : Part σ τ) : (x.inside part).Succeeds answers := by
  intro t result hrun hanswers
  obtain ⟨t', hrun', ht⟩ := exists_run_of_inside hrun
  refine h t' result hrun' fun r reply hmem => hanswers r reply ?_
  rw [← Deed.mem_exchanges_iff, ← ht]
  exact Deed.mem_exchanges_iff.2 hmem

/-! ## Rules that actions obey -/

/-- **All requests and all changes of an action obey rules**, and so do those of the actions that it
lets go on beside it. -/
def Obeys (p : Request → Prop) (q : σ → σ → Prop) {α : Type} : Action σ α → Prop
  | done _ => True
  | ask r k => p r ∧ ∀ reply, (k reply).Obeys p q
  | atomic u k => ∀ s, q s (u s) ∧ (k s).Obeys p q
  | fork other next => other.Obeys p q ∧ next.Obeys p q

variable {p : Request → Prop} {q : σ → σ → Prop}

theorem Obeys.bind {x : Action σ α} {f : α → Action σ β} (hx : x.Obeys p q)
    (hf : ∀ a, (f a).Obeys p q) : (x >>= f).Obeys p q := by
  induction x with
  | done a => exact hf a
  | ask r k ih => exact ⟨hx.1, fun reply => ih reply (hx.2 reply) hf⟩
  | atomic u k ih => exact fun s => ⟨(hx s).1, ih s (hx s).2 hf⟩
  | fork other next _ ih => exact ⟨hx.1, ih hx.2 hf⟩

theorem Obeys.andThen {x : Action σ (Except ε α)} {f : α → Action σ (Except ε β)}
    (hx : x.Obeys p q) (hf : ∀ a, (f a).Obeys p q) : (x.andThen f).Obeys p q :=
  hx.bind fun
    | .ok a => hf a
    | .error _ => trivial

/-- Every action obeys rules that allow everything. -/
theorem obeys_true (x : Action σ α) : x.Obeys (fun _ => True) fun _ _ => True := by
  induction x with
  | done a => trivial
  | ask r k ih => exact ⟨trivial, ih⟩
  | atomic u k ih => exact fun s => ⟨trivial, ih s⟩
  | fork other next ihother ih => exact ⟨ihother, ih⟩

theorem obeys_request {r : Request} (h : p r) : (request r : Action σ r.Reply).Obeys p q :=
  ⟨h, fun _ => trivial⟩

theorem obeys_change {f : σ → α × σ} (h : ∀ s, q s (f s).2) : (change f).Obeys p q :=
  fun s => ⟨h s, trivial⟩

theorem Obeys.withLock {lock : Lock} {body : Action σ α} (hacquire : p (.acquire lock))
    (hrelease : p (.release lock)) (h : body.Obeys p q) : (withLock lock body).Obeys p q :=
  (obeys_request hacquire).bind fun _ => h.bind fun _ => (obeys_request hrelease).bind fun _ =>
    trivial

/-- Weaker rules are obeyed too. -/
theorem Obeys.mono {p' : Request → Prop} {q' : σ → σ → Prop} {x : Action σ α}
    (h : x.Obeys p q) (hp : ∀ r, p r → p' r) (hq : ∀ s s', q s s' → q' s s') : x.Obeys p' q' := by
  induction x with
  | done a => trivial
  | ask r k ih => exact ⟨hp r h.1, fun reply => ih reply (h.2 reply)⟩
  | atomic u k ih => exact fun s => ⟨hq _ _ (h s).1, ih s (h s).2⟩
  | fork other next ihother ih => exact ⟨ihother h.1, ih h.2⟩

/-- An action on a part of the state obeys what its changes of the part come to. -/
theorem Obeys.inside {q' : τ → τ → Prop} (part : Part σ τ) {x : Action τ α} (h : x.Obeys p q')
    (hq : ∀ s u, q' (part.get s) u → q s (part.set u s)) : (x.inside part).Obeys p q := by
  induction x with
  | done a => trivial
  | ask r k ih => exact ⟨h.1, fun reply => ih reply (h.2 reply)⟩
  | atomic u k ih => exact fun s => ⟨hq s _ (h _).1, ih _ (h _).2⟩
  | fork other next ihother ih => exact ⟨ihother h.1, ih h.2⟩

/-- **What obeys rules goes on obeying them**, and so does all that it has done. -/
theorem Obeys.of_after {x y : Action σ α} {t : List (Deed σ)} (h : x.Obeys p q)
    (hafter : After x t y) : (∀ d ∈ t, d.Obeys p q) ∧ y.Obeys p q := by
  induction hafter with
  | start x => exact ⟨fun _ hd => absurd hd List.not_mem_nil, h⟩
  | ask reply _ ih =>
    obtain ⟨ht, hy⟩ := ih (h.2 reply)
    exact ⟨List.forall_mem_cons.2 ⟨h.1, ht⟩, hy⟩
  | atomic s _ ih =>
    obtain ⟨ht, hy⟩ := ih (h s).2
    exact ⟨List.forall_mem_cons.2 ⟨(h s).1, ht⟩, hy⟩
  | fork _ ih =>
    obtain ⟨ht, hy⟩ := ih h.2
    exact ⟨List.forall_mem_cons.2 ⟨trivial, ht⟩, hy⟩

/-- The last deed of a history obeys the rules. -/
theorem Obeys.of_after_snoc {x y : Action σ α} {t : List (Deed σ)} {d : Deed σ} (h : x.Obeys p q)
    (hafter : After x (t ++ [d]) y) : d.Obeys p q :=
  (h.of_after hafter).1 d (List.mem_append_right t (List.mem_singleton.2 rfl))

/-- A change after a request is one of what follows the reply. -/
theorem After.of_request_bind {r : Request} {f : r.Reply → Action σ α} {t : List (Deed σ)}
    {s s' : σ} {y : Action σ α} (h : After (request r >>= f) (t ++ [.changed s s']) y) :
    ∃ reply t', t = .asked r reply :: t' ∧ After (f reply) (t' ++ [.changed s s']) y := by
  obtain ⟨z, hz⟩ | ⟨t₁, t', reply, rfl, hrun, hf⟩ := after_bind_snoc h
  · -- the request itself changes nothing
    have hobeys : (request r : Action σ r.Reply).Obeys (fun _ => True) fun _ _ => False :=
      ⟨trivial, fun _ => trivial⟩
    exact (hobeys.of_after_snoc hz).elim
  · obtain rfl := run_request_iff.1 hrun
    exact ⟨reply, t', rfl, hf⟩

/-! ## Requests that actions make -/

section Requests

variable {γ : Type} {f : Request → Option γ}

/-- An action makes no request of a kind. -/
def Avoids (f : Request → Option γ) (x : Action σ α) : Prop :=
  x.Obeys (fun r => f r = none) fun _ _ => True

/-- **The requests of a kind that an action makes**, whatever happens. -/
def Makes (f : Request → Option γ) (x : Action σ α) (made : List γ) : Prop :=
  ∀ t a, Run x t a → Deed.collect f t = made

theorem Avoids.collect_eq_nil {x : Action σ α} (h : x.Avoids f) {t : List (Deed σ)} {a : α}
    (hrun : Run x t a) : Deed.collect f t = [] :=
  Deed.collect_eq_nil (h.of_after hrun).1

theorem makes_request (r : Request) : (request r : Action σ r.Reply).Makes f (f r).toList := by
  intro t reply hrun
  obtain rfl := run_request_iff.1 hrun
  cases h : f r <;> simp [Deed.collect, h]

/-- What makes no such request before another action adds nothing to it. -/
theorem Avoids.bind_makes {x : Action σ α} {k : α → Action σ β} {made : List γ}
    (hx : x.Avoids f) (hk : ∀ a, (k a).Makes f made) : (x >>= k).Makes f made := by
  intro t b h
  obtain ⟨t₁, t₂, a, rfl, h₁, h₂⟩ := run_bind_iff.1 h
  rw [Deed.collect_append, hx.collect_eq_nil h₁, hk a t₂ b h₂, List.nil_append]

/-- What makes no such request after another action adds nothing to it. -/
theorem Makes.bind_avoids {x : Action σ α} {k : α → Action σ β} {made : List γ}
    (hx : x.Makes f made) (hk : ∀ a, (k a).Avoids f) : (x >>= k).Makes f made := by
  intro t b h
  obtain ⟨t₁, t₂, a, rfl, h₁, h₂⟩ := run_bind_iff.1 h
  rw [Deed.collect_append, hx t₁ a h₁, (hk a).collect_eq_nil h₂, List.append_nil]

theorem avoids_request (r : Request) (h : f r = none) : (request r : Action σ r.Reply).Avoids f :=
  obeys_request h

theorem avoids_event {source : EventSource} {level : Level} {message : String}
    (h : f (.event ⟨source, level, message⟩) = none) :
    (event source level message : Action σ Unit).Avoids f :=
  obeys_request h

end Requests

end Action

end NetUnits
