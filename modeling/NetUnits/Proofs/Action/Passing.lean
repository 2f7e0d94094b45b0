import NetUnits.Proofs.Action.Course
import NetUnits.Proofs.Action.Orderly

/-! # What deeds pass on

Whatever nobody else changes is passed on by a thread from each of its deeds to the next one.

* **`Deed.Passes`** — the deeds of a history pass on what is read from the state.
* **`Action.alone`** — what an action does if nobody else does anything.
* **`System.Reaches.passes`** — a thread passes on what the others do not change.
* **`System.Reaches.passes_past`** — all that is done passes the state on.
* **`System.follow`** — a system that goes on by a schedule; **`System.reaches_follow`** — it may
  go on so. **`Request.usual`** — replies where nothing is amiss.
* **`System.exists_reaches_alone`** — a thread may go on alone. -/

namespace NetUnits

/-! ## Histories -/

namespace Deed

variable {σ τ : Type} {f : σ → τ} {t u : List (Deed σ)} {d : Deed σ} {v v' : τ}

/-- **The deeds of a history pass on what is read from the state**: each change meets what the one
before has left. -/
def Passes (f : σ → τ) : τ → List (Deed σ) → τ → Prop
  | v, [], v' => v' = v
  | v, .changed s s' :: t, v' => f s = v ∧ Passes f (f s') t v'
  | v, .asked _ _ :: t, v' | v, .forked :: t, v' => Passes f v t v'

/-- A deed leaves what is read from the state as it is. -/
def Leaves (f : σ → τ) : Deed σ → Prop
  | .changed s s' => f s' = f s
  | _ => True

theorem passes_append_iff {v' : τ} :
    Passes f v (t ++ u) v' ↔ ∃ w, Passes f v t w ∧ Passes f w u v' := by
  induction t generalizing v with
  | nil => exact ⟨fun h => ⟨v, rfl, h⟩, fun ⟨w, hw, h⟩ => (show w = v from hw) ▸ h⟩
  | cons d t ih =>
    cases d with
    | changed s s' =>
      constructor
      · rintro ⟨hs, h⟩
        obtain ⟨w, ht, hu⟩ := ih.1 h
        exact ⟨w, ⟨hs, ht⟩, hu⟩
      · rintro ⟨w, ⟨hs, ht⟩, hu⟩
        exact ⟨hs, ih.2 ⟨w, ht, hu⟩⟩
    | asked | forked => exact ih

theorem passes_singleton_iff {s s' : σ} :
    Passes f v [.changed s s'] v' ↔ f s = v ∧ v' = f s' :=
  Iff.rfl

/-- Deeds that leave it as it is pass on the same. -/
theorem Passes.eq_of_leaves (h : Passes f v t v') (ht : ∀ d ∈ t, d.Leaves f) : v' = v := by
  induction t generalizing v with
  | nil => exact h
  | cons d t ih =>
    obtain ⟨hd, hrest⟩ := List.forall_mem_cons.1 ht
    cases d with
    | changed s s' =>
      have hs : f s' = f s := hd
      rw [ih h.2 hrest, hs, h.1]
    | asked | forked => exact ih h hrest

/-- **A deed meets what the history before it has left.** -/
theorem Passes.exists_of_mem {s s' : σ} (h : Passes f v (t ++ .changed s s' :: u) v') :
    Passes f v t (f s) ∧ Passes f (f s') u v' := by
  obtain ⟨w, ht, hs, hu⟩ := passes_append_iff.1 h
  exact ⟨hs.symm ▸ ht, hu⟩

/-- **What holds of what is read stays so** along a history if each deed that meets it keeps it. -/
theorem Passes.keeps {K : τ → Prop} {w w' : τ} (ht : Passes f v t w) (hu : Passes f w u w')
    (hK : K w) (hstep : ∀ u₁ d u₂ a b, u = u₁ ++ d :: u₂ → Passes f v (t ++ u₁) a →
      Passes f a [d] b → K a → K b) : K w' := by
  induction u using List.reverseRecOn generalizing w' with
  | nil => exact (show w' = w from hu) ▸ hK
  | append_singleton u d ih =>
    obtain ⟨a, hua, hd⟩ := passes_append_iff.1 hu
    have ha : K a := ih hua fun u₁ e u₂ b b' heq =>
      hstep u₁ e (u₂ ++ [d]) b b' (by rw [heq, List.append_assoc, List.cons_append])
    exact hstep u d [] a w' rfl (passes_append_iff.2 ⟨w, ht, hua⟩) hd ha

/-- An action that leaves what is read as it is does so in all its deeds. -/
theorem leaves_of_after {α : Type} {x y : Action σ α} {p : Request → Prop} {q : σ → σ → Prop}
    (hx : x.Obeys p q) (hq : ∀ s s', q s s' → f s' = f s) (hafter : Action.After x t y) :
    ∀ d ∈ t, d.Leaves f := by
  intro d hd
  have hobeys := (hx.of_after hafter).1 d hd
  cases d with
  | changed s s' => exact hq s s' hobeys
  | asked | forked => trivial

end Deed

/-! ## One action alone -/

namespace Action

variable {σ α β : Type}

/-- **What an action does alone**: its history, its result and the state that it leaves, if each
request gets the reply that is given for it. What it starts does not go on meanwhile. -/
def alone (reply : (r : Request) → r.Reply) {α : Type} : Action σ α → σ → List (Deed σ) × α × σ
  | done a, s => ([], a, s)
  | ask r k, s =>
    let (t, result) := (k (reply r)).alone reply s
    (.asked r (reply r) :: t, result)
  | atomic u k, s =>
    let (t, result) := (k s).alone reply (u s)
    (.changed s (u s) :: t, result)
  | fork _ next, s =>
    let (t, result) := next.alone reply s
    (.forked :: t, result)

theorem run_alone (reply : (r : Request) → r.Reply) (x : Action σ α) (s : σ) :
    Run x (x.alone reply s).1 (x.alone reply s).2.1 := by
  induction x generalizing s with
  | done a => exact .start _
  | ask r k ih => exact .ask _ (ih _ s)
  | atomic u k ih => exact .atomic s (ih s _)
  | fork other next _ ih => exact .fork (ih s)

/-- **What an action does alone before what depends on it.** -/
theorem alone_bind_fst (reply : (r : Request) → r.Reply) (x : Action σ α) (f : α → Action σ β)
    (s : σ) : ((x >>= f).alone reply s).1 =
      (x.alone reply s).1 ++ ((f (x.alone reply s).2.1).alone reply (x.alone reply s).2.2).1 := by
  induction x generalizing s with
  | done a => rfl
  | ask r k ih => exact congrArg (_ :: ·) (ih _ f s)
  | atomic u k ih => exact congrArg (_ :: ·) (ih s f _)
  | fork other next _ ih => exact congrArg (_ :: ·) (ih f s)

theorem alone_andThen_fst {ε : Type} {reply : (r : Request) → r.Reply} {x : Action σ (Except ε α)}
    {s : σ} {a : α} (h : (x.alone reply s).2.1 = .ok a) (f : α → Action σ (Except ε β)) :
    ((x.andThen f).alone reply s).1 =
      (x.alone reply s).1 ++ ((f a).alone reply (x.alone reply s).2.2).1 := by
  rw [andThen, alone_bind_fst, h]

/-- **What comes of an action alone before what depends on it.** -/
theorem alone_bind_snd (reply : (r : Request) → r.Reply) (x : Action σ α) (f : α → Action σ β)
    (s : σ) : ((x >>= f).alone reply s).2 =
      ((f (x.alone reply s).2.1).alone reply (x.alone reply s).2.2).2 := by
  induction x generalizing s with
  | done a => rfl
  | ask r k ih => exact ih _ f s
  | atomic u k ih => exact ih s f _
  | fork other next _ ih => exact ih f s

theorem alone_andThen_snd {ε : Type} {reply : (r : Request) → r.Reply} {x : Action σ (Except ε α)}
    {s : σ} {a : α} (h : (x.alone reply s).2.1 = .ok a) (f : α → Action σ (Except ε β)) :
    ((x.andThen f).alone reply s).2 = ((f a).alone reply (x.alone reply s).2.2).2 := by
  rw [andThen, alone_bind_snd, h]

/-- Each request of an action alone gets the reply that is given for it. -/
theorem eq_of_asked_mem_alone {reply : (r : Request) → r.Reply} {x : Action σ α} {s : σ}
    {r : Request} {a : r.Reply} (h : .asked r a ∈ (x.alone reply s).1) : a = reply r := by
  induction x generalizing s with
  | done => cases h
  | ask r' k ih =>
    obtain heq | hmem := List.mem_cons.1 h
    · cases heq
      rfl
    · exact ih _ hmem
  | atomic u k ih =>
    obtain heq | hmem := List.mem_cons.1 h
    · cases heq
    · exact ih _ hmem
  | fork other next _ ih =>
    obtain heq | hmem := List.mem_cons.1 h
    · cases heq
    · exact ih hmem

/-- An action alone passes on what it has left itself. -/
theorem passes_alone (reply : (r : Request) → r.Reply) (x : Action σ α) (s : σ) :
    Deed.Passes id s (x.alone reply s).1 (x.alone reply s).2.2 := by
  induction x generalizing s with
  | done a => rfl
  | ask r k ih => exact ih _ s
  | atomic u k ih => exact ⟨rfl, ih s _⟩
  | fork other next _ ih => exact ih s

end Action

/-! ## Systems -/

namespace System

open NetUnits.Action NetUnits.Deed

variable {σ τ : Type} {answers : Answers} {sys sys' : System σ} {s : σ}
  {threads : List (Action σ Unit)} {f : σ → τ} {i j : Nat}

/-- A deed passes on what is read from the state. -/
theorem passes_after {c : Scene σ} {d : Deed σ} (h : c.May answers j d) :
    Passes f (f c.state) [d] (f (c.after j d).state) := by
  cases d with
  | changed before after =>
    obtain rfl : before = c.state := h
    exact ⟨rfl, rfl⟩
  | asked | forked => rfl

/-- **All that is done passes the state on.** -/
theorem Reaches.passes_past (h : Reaches answers (start s threads) sys) :
    Passes f (f s) (sys.scene.past.map Prod.snd) (f sys.scene.state) := by
  induction h with
  | refl => rfl
  | tail _ hstep ih =>
    obtain ⟨j, @⟨x, y, d, started, -, -, hmay⟩⟩ := hstep
    rw [Scene.past_after, List.map_append]
    exact passes_append_iff.2 ⟨_, ih, passes_after hmay⟩

/-- **A thread passes on what the others leave as it is.** -/
theorem Reaches.passes (h : Reaches answers (start s threads) sys)
    (hother : ∀ j, j ≠ i → ∀ d ∈ sys.scene.pastOf j, d.Leaves f) :
    Passes f (f s) (sys.scene.pastOf i) (f sys.scene.state) := by
  induction h with
  | refl => rfl
  | tail hreach hstep ih =>
    rename_i sys₁ sys₂
    obtain ⟨j, @⟨x, y, d, started, -, -, hmay⟩⟩ := hstep
    have hold : ∀ k, k ≠ i → ∀ e ∈ sys₁.scene.pastOf k, e.Leaves f := fun k hk e he => by
      refine hother k hk e (Scene.mem_pastOf_iff.2 ?_)
      rw [Scene.past_after]
      exact List.mem_append_left _ (Scene.mem_pastOf_iff.1 he)
    by_cases hji : j = i
    · subst hji
      rw [Scene.pastOf_after_self]
      exact passes_append_iff.2 ⟨_, ih hold, passes_after hmay⟩
    · rw [Scene.pastOf_after_of_ne hji]
      have hd : d.Leaves f := hother j hji d (by
        rw [Scene.pastOf_after_self]
        exact List.mem_append_right _ (List.mem_singleton.2 rfl))
      have hleft := (passes_after (f := f) hmay).eq_of_leaves fun e he =>
        List.mem_singleton.1 he ▸ hd
      exact hleft ▸ ih hold

/-- **What follows the first thread does not matter** as long as the thread is not done. -/
theorem Reaches.exists_bind {x : Action σ Unit} {rest : List (Action σ Unit)}
    (h : Reaches answers (start s (x :: rest)) sys) (k : Unit → Action σ Unit) :
    ∃ y others, sys.threads = y :: others ∧
      Reaches answers (start s ((x >>= k) :: rest)) ⟨sys.scene, (y >>= k) :: others⟩ := by
  induction h with
  | refl => exact ⟨x, rest, rfl, .refl⟩
  | tail _ hstep ih =>
    obtain ⟨i, @⟨z, z', d, started, hthread, hnext, hmay⟩⟩ := hstep
    obtain ⟨y, others, hthreads, hreach⟩ := ih
    rw [hthreads] at hthread ⊢
    cases i with
    | zero =>
      obtain rfl : y = z := Option.some.inj hthread
      have hnext' : (y >>= k).Next d started (z' >>= k) := by
        cases hnext with
        | ask reply => exact .ask reply
        | atomic s => exact .atomic s
        | fork => exact .fork
      exact ⟨z', others ++ started, rfl, hreach.tail ⟨0, .deed rfl hnext' hmay⟩⟩
    | succ i =>
      exact ⟨y, others.set i z' ++ started, rfl,
        hreach.tail ⟨i + 1, .deed (by simpa using hthread) hnext hmay⟩⟩

/-- A thread that is done has done all that it had to do. -/
theorem Reaches.run {x : Action σ Unit} (h : Reaches answers (start s threads) sys)
    (hget : threads[i]? = some x) (hdone : sys.threads[i]? = some (done ())) :
    Run x (sys.scene.pastOf i) () := by
  obtain ⟨t, y, hy, hpast, hafter⟩ := h.exists_after hget
  obtain rfl := Option.some.inj (hy.symm.trans hdone)
  rw [hpast]
  exact hafter

/-! ## Schedules -/

end System

/-- **The reply of surroundings in which nothing is amiss**, and nothing is there. -/
def Request.usual : (r : Request) → r.Reply
  | environment _ => none
  | processId => 0
  | clock => ""
  | input => .empty
  | output _ | report _ | event _ => ()
  | isPresent _ => false
  | entries _ => .ok []
  | load _ => .ok .empty
  | save _ _ | append _ _ | makeDirs _ | remove _ => .ok ()
  | findProgram _ => true
  | run _ _ _ => .ok {}
  | connect _ => .ok 0
  | exec _ _ _ => .ok {}
  | isAlive _ => true
  | startWorker _ => .ok ()
  | awaitWorker _ => .inTime
  | acquire _ | release _ => ()

namespace System

open NetUnits.Action NetUnits.Deed

variable {σ : Type} {answers : Answers} {sys : System σ} {i j : Nat}

/-- A thread goes on, if the locks allow it, with a reply to what it asks for. -/
def goOn (sys : System σ) (i : Nat) (reply : (r : Request) → r.Reply) : System σ :=
  match sys.threads[i]? with
  | some (.ask (.acquire lock) k) =>
    if sys.scene.holder lock = none then
      ⟨sys.scene.after i (.asked (.acquire lock) ()), sys.threads.set i (k ())⟩
    else sys
  | some (.ask (.release lock) k) =>
    if sys.scene.holder lock = some i then
      ⟨sys.scene.after i (.asked (.release lock) ()), sys.threads.set i (k ())⟩
    else sys
  | some (.ask r k) => ⟨sys.scene.after i (.asked r (reply r)), sys.threads.set i (k (reply r))⟩
  | some (.atomic u k) =>
    ⟨sys.scene.after i (.changed sys.scene.state (u sys.scene.state)),
      sys.threads.set i (k sys.scene.state)⟩
  | some (.fork other next) =>
    ⟨sys.scene.after i .forked, sys.threads.set i next ++ [other]⟩
  | _ => sys

/-- **A system that goes on by a schedule**: it says which thread goes on, and what the reply to it
is. -/
def follow (sys : System σ) : List (Nat × ((r : Request) → r.Reply)) → System σ
  | [] => sys
  | (i, reply) :: rest => (sys.goOn i reply).follow rest

theorem reaches_goOn {reply : (r : Request) → r.Reply} (h : ∀ r, answers i r (reply r)) :
    Reaches answers sys (sys.goOn i reply) := by
  unfold goOn
  split
  · rename_i lock k hget
    split
    · rename_i hfree
      exact (Step.ask () hget ⟨hfree, h (.acquire lock)⟩).reaches
    · exact .refl
  · rename_i lock k hget
    split
    · rename_i hheld
      exact (Step.ask () hget ⟨hheld, h (.release lock)⟩).reaches
    · exact .refl
  · rename_i r k hacquire hrelease hget
    refine (Step.ask (reply r) hget ⟨?_, h r⟩).reaches
    cases r with
    | acquire lock => exact (hacquire lock k rfl HEq.rfl).elim
    | release lock => exact (hrelease lock k rfl HEq.rfl).elim
    | _ => trivial
  · rename_i u k hget
    exact (Step.atomic hget).reaches
  · rename_i other next hget
    exact (Step.deed hget .fork trivial).reaches
  · exact .refl

/-- What a thread has done stays so while another one goes on. -/
theorem pastOf_goOn_of_ne {reply : (r : Request) → r.Reply} (h : j ≠ i) :
    (sys.goOn j reply).scene.pastOf i = sys.scene.pastOf i := by
  unfold goOn
  split
  · split
    · exact Scene.pastOf_after_of_ne h
    · rfl
  · split
    · exact Scene.pastOf_after_of_ne h
    · rfl
  · exact Scene.pastOf_after_of_ne h
  · exact Scene.pastOf_after_of_ne h
  · exact Scene.pastOf_after_of_ne h
  · rfl

/-- **A system may go on by a schedule** whose replies are those of the surroundings. -/
theorem reaches_follow {schedule : List (Nat × ((r : Request) → r.Reply))}
    (h : ∀ p ∈ schedule, ∀ r, answers p.1 r (p.2 r)) :
    Reaches answers sys (sys.follow schedule) := by
  induction schedule generalizing sys with
  | nil => exact .refl
  | cons p rest ih =>
    obtain ⟨hp, hrest⟩ := List.forall_mem_cons.1 h
    exact (reaches_goOn hp).trans (ih hrest)

theorem exists_reaches_of_step {d : Deed σ} {threads : List (Action σ Unit)} {t : List (Deed σ)}
    (hstep : Step answers i sys ⟨sys.scene.after i d, threads⟩)
    (h : ∃ sys', Reaches answers ⟨sys.scene.after i d, threads⟩ sys' ∧
      sys'.scene.pastOf i = (sys.scene.after i d).pastOf i ++ t) :
    ∃ sys', Reaches answers sys sys' ∧ sys'.scene.pastOf i = sys.scene.pastOf i ++ d :: t := by
  obtain ⟨sys', hreach, hpast⟩ := h
  refine ⟨sys', hstep.reaches.trans hreach, ?_⟩
  rw [hpast, Scene.pastOf_after_self, List.append_assoc, List.singleton_append]

/-- **A thread may go on alone** if nobody else holds a lock. -/
theorem exists_reaches_alone {α : Type} {x : Action σ α} {f : α → Action σ Unit}
    {held held' : List Lock} (reply : (r : Request) → r.Reply) (h : ∀ r, answers i r (reply r))
    (hget : sys.threads[i]? = some (x >>= f)) (horderly : x.Orderly held held')
    (hholds : sys.scene.Holds i held) (hfree : ∀ lock j, sys.scene.holder lock = some j → j = i) :
    ∃ sys', Reaches answers sys sys' ∧
      sys'.scene.pastOf i = sys.scene.pastOf i ++ (x.alone reply sys.scene.state).1 := by
  have hset : ∀ {threads : List (Action σ Unit)} {y z : Action σ Unit}, threads[i]? = some y →
      (threads.set i z)[i]? = some z :=
    fun hy => List.getElem?_set_self (List.getElem?_eq_some_iff.1 hy).1
  induction x generalizing sys held with
  | done a => exact ⟨sys, .refl, (List.append_nil _).symm⟩
  | ask r k ih =>
    obtain ⟨held₁, hr, hk⟩ := horderly
    have hgrants : Scene.Grants sys.scene.holder i r := by
      refine (hholds.grants_or_waits hr).resolve_right ?_
      rintro ⟨lock, j, hj, hrank⟩
      obtain rfl := hfree lock j hj
      exact lt_irrefl _ (hrank lock ((hholds.holder_iff lock).1 hj))
    have hmay : sys.scene.May answers i (.asked r (reply r)) := ⟨hgrants, h r⟩
    have hfree' : ∀ lock j, (sys.scene.after i (.asked r (reply r))).holder lock = some j → j = i :=
      fun lock j hj => by_contra fun hne =>
        hne (hfree lock j (Scene.holder_after_eq_some hj (Ne.symm hne)))
    exact exists_reaches_of_step (Step.ask (reply r) hget hmay)
      (ih (reply r) (hset hget) (hk _) (hholds.after_asked hr hmay) hfree')
  | atomic u k ih =>
    exact exists_reaches_of_step (Step.atomic hget)
      (ih sys.scene.state (hset hget) (horderly _) ⟨hholds.nodup, hholds.holder_iff⟩ hfree)
  | fork other rest _ ih =>
    have hi : i < (sys.threads.set i (rest >>= f)).length :=
      (List.getElem?_eq_some_iff.1 (hset hget)).1
    exact exists_reaches_of_step (Step.deed hget .fork trivial)
      (ih ((List.getElem?_append_left hi).trans (hset hget)) horderly.2
        ⟨hholds.nodup, hholds.holder_iff⟩ hfree)

/-- A thread may go on alone if no lock is held. -/
theorem exists_reaches_alone_of_free {α : Type} {x : Action σ α} {f : α → Action σ Unit}
    {held : List Lock} (reply : (r : Request) → r.Reply) (h : ∀ r, answers i r (reply r))
    (hget : sys.threads[i]? = some (x >>= f)) (horderly : x.Orderly [] held)
    (hfree : ∀ lock, sys.scene.holder lock = none) :
    ∃ sys', Reaches answers sys sys' ∧
      sys'.scene.pastOf i = sys.scene.pastOf i ++ (x.alone reply sys.scene.state).1 :=
  exists_reaches_alone reply h hget horderly
    ⟨List.nodup_nil, fun lock => by simp [hfree lock]⟩ fun lock j hj => by simp [hfree lock] at hj

end System

end NetUnits
