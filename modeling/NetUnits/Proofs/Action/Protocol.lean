import NetUnits.Proofs.Action.Interleaving

/-! # Promises of threads

What a thread finds between two of its deeds depends on what the others do. Each thread of a system
therefore **promises** something of each of its deeds, and relies on what the others promise: a
thread that keeps its promises as long as the others keep theirs can be looked at alone.

* **`Protocol`** — what threads promise, in some surroundings.
* **`Protocol.Stable`** — a property of scenes that the others preserve.
* **`Protocol.Safe`** — a thread keeps its promises whatever the others do, and ends well.
* **`Protocol.Triple`** — so it does from all scenes with a property. `Protocol.triple_request`,
  `Protocol.Triple.bind` and so on are its rules; `Protocol.triple_of_after` is the one for an
  action that is known by its histories.
* **`Protocol.safe_of_reaches`** — threads that are safe stay so together, and
  **`Protocol.promise_of_step`** keep all promises. -/

namespace NetUnits

open NetUnits.Action

/-- **What threads promise** of each of their deeds: how the scene before it and the scene after it
are related. -/
structure Protocol (σ : Type) where
  /-- The replies of the surroundings. -/
  answers : Answers
  /-- What a thread promises of the scenes around each of its deeds. -/
  promise : Nat → Scene σ → Scene σ → Prop
  /-- How many threads there are at first; those with higher numbers are started by others. -/
  size : Nat

namespace Protocol

variable {σ α β ε : Type} {P : Protocol σ} {i j : Nat} {c c' : Scene σ}

/-! ## What others do -/

/-- A thread does something, as it has promised. -/
def Acts (P : Protocol σ) (i : Nat) (c c' : Scene σ) : Prop :=
  ∃ d, c.May P.answers i d ∧ P.promise i c c' ∧ c' = c.after i d

/-- **What comes between two deeds of a thread**: others act. -/
def Meanwhile (P : Protocol σ) (i : Nat) : Scene σ → Scene σ → Prop :=
  Relation.ReflTransGen fun c c' => ∃ j, j ≠ i ∧ P.Acts j c c'

/-- **A property of scenes that the other threads preserve.** -/
def Stable (P : Protocol σ) (i : Nat) (A : Scene σ → Prop) : Prop :=
  ∀ j c c', j ≠ i → P.Acts j c c' → A c → A c'

variable {A B : Scene σ → Prop}

theorem Stable.meanwhile (h : P.Stable i A) (hmeanwhile : P.Meanwhile i c c') (hA : A c) :
    A c' := by
  induction hmeanwhile with
  | refl => exact hA
  | tail _ hacts ih =>
    obtain ⟨j, hj, hacts⟩ := hacts
    exact h j _ _ hj hacts ih

theorem Stable.and (hA : P.Stable i A) (hB : P.Stable i B) : P.Stable i fun c => A c ∧ B c :=
  fun j c c' hj hacts h => ⟨hA j c c' hj hacts h.1, hB j c c' hj hacts h.2⟩

theorem Stable.or (hA : P.Stable i A) (hB : P.Stable i B) : P.Stable i fun c => A c ∨ B c :=
  fun j c c' hj hacts h => h.imp (hA j c c' hj hacts) (hB j c c' hj hacts)

theorem stable_forall {ι : Sort*} {A : ι → Scene σ → Prop} (h : ∀ a, P.Stable i (A a)) :
    P.Stable i fun c => ∀ a, A a c :=
  fun j c c' hj hacts hA a => h a j c c' hj hacts (hA a)

theorem stable_exists {ι : Sort*} {A : ι → Scene σ → Prop} (h : ∀ a, P.Stable i (A a)) :
    P.Stable i fun c => ∃ a, A a c := by
  rintro j c c' hj hacts ⟨a, ha⟩
  exact ⟨a, h a j c c' hj hacts ha⟩

theorem stable_const (p : Prop) : P.Stable i fun _ => p :=
  fun _ _ _ _ _ h => h

/-- **A lock that a thread holds stays its own.** -/
theorem stable_holder (lock : Lock) : P.Stable i fun c => c.holder lock = some i := by
  rintro j c c' hj ⟨d, hmay, -, rfl⟩ h
  exact Scene.holder_after_of_ne hmay hj h

/-- What a thread has done is its own affair. -/
theorem stable_pastOf (t : List (Deed σ)) : P.Stable i fun c => c.pastOf i = t := by
  rintro j c c' hj ⟨d, -, -, rfl⟩ h
  rwa [Scene.pastOf_after_of_ne hj]

/-! ## Safe threads -/

/-- **A thread keeps its promises** from a scene on, whatever the others do meanwhile, and so do the
threads that it starts. It ends with a result and in scenes that have a property. -/
def Safe (P : Protocol σ) : (i : Nat) → {α : Type} → Action σ α → (α → Scene σ → Prop) →
    Scene σ → Prop
  | i, _, .done a, Q, c => ∀ c', P.Meanwhile i c c' → Q a c'
  | i, _, .ask r k, Q, c => ∀ c', P.Meanwhile i c c' → ∀ reply,
    c'.May P.answers i (.asked r reply) →
      P.promise i c' (c'.after i (.asked r reply)) ∧
        P.Safe i (k reply) Q (c'.after i (.asked r reply))
  | i, _, .atomic u k, Q, c => ∀ c', P.Meanwhile i c c' →
    P.promise i c' (c'.after i (.changed c'.state (u c'.state))) ∧
      P.Safe i (k c'.state) Q (c'.after i (.changed c'.state (u c'.state)))
  | i, _, .fork other next, Q, c => ∀ c', P.Meanwhile i c c' →
    P.promise i c' (c'.after i .forked) ∧
      (∀ j, P.size ≤ j → (c'.after i .forked).IsNew j →
        P.Safe j other (fun _ _ => True) (c'.after i .forked)) ∧
      P.Safe i next Q (c'.after i .forked)

variable {Q R : α → Scene σ → Prop} {x : Action σ α}

/-- What others do does not matter to a safe thread. -/
theorem Safe.meanwhile (h : P.Safe i x Q c) (hmeanwhile : P.Meanwhile i c c') :
    P.Safe i x Q c' := by
  cases x with
  | done | ask | atomic | fork => exact fun c'' h'' => h c'' (hmeanwhile.trans h'')

theorem Safe.mono (h : P.Safe i x Q c) (hQ : ∀ a c, Q a c → R a c) : P.Safe i x R c := by
  induction x generalizing c with
  | done a => exact fun c' hc' => hQ a c' (h c' hc')
  | ask r k ih =>
    intro c' hc' reply hmay
    obtain ⟨hpromise, hrest⟩ := h c' hc' reply hmay
    exact ⟨hpromise, ih reply hrest hQ⟩
  | atomic u k ih =>
    intro c' hc'
    obtain ⟨hpromise, hrest⟩ := h c' hc'
    exact ⟨hpromise, ih _ hrest hQ⟩
  | fork other next _ ih =>
    intro c' hc'
    obtain ⟨hpromise, hother, hrest⟩ := h c' hc'
    exact ⟨hpromise, hother, ih hrest hQ⟩

theorem Safe.bind {f : α → Action σ β} {R : β → Scene σ → Prop} (h : P.Safe i x Q c)
    (hf : ∀ a c, Q a c → P.Safe i (f a) R c) : P.Safe i (x >>= f) R c := by
  induction x generalizing c with
  | done a => exact hf a c (h c .refl)
  | ask r k ih =>
    intro c' hc' reply hmay
    obtain ⟨hpromise, hrest⟩ := h c' hc' reply hmay
    exact ⟨hpromise, ih reply hrest hf⟩
  | atomic u k ih =>
    intro c' hc'
    obtain ⟨hpromise, hrest⟩ := h c' hc'
    exact ⟨hpromise, ih _ hrest hf⟩
  | fork other next _ ih =>
    intro c' hc'
    obtain ⟨hpromise, hother, hrest⟩ := h c' hc'
    exact ⟨hpromise, hother, ih hrest hf⟩

theorem Meanwhile.pastOf_after {t : List (Deed σ)} {d : Deed σ} (h : P.Meanwhile i c c')
    (hpast : c.pastOf i = t) : (c'.after i d).pastOf i = t ++ [d] := by
  rw [Scene.pastOf_after_self, (stable_pastOf t).meanwhile h hpast]

/-- What a thread does until its end goes on with what is left of it after a deed. -/
theorem exists_run_of_after {x y : Action σ α} {d : Deed σ} {t : List (Deed σ)} {a : α}
    (hafter : After x [d] y) (h : ∃ t', Run y t' a ∧ c.pastOf i = t ++ [d] ++ t') :
    ∃ t', Run x t' a ∧ c.pastOf i = t ++ t' := by
  obtain ⟨t', hrun, hpast⟩ := h
  exact ⟨[d] ++ t', hafter.trans hrun, by rw [hpast, List.append_assoc]⟩

/-- **What a safe thread does until its end** is a history of it. -/
theorem Safe.run {t : List (Deed σ)} (h : P.Safe i x Q c) (hpast : c.pastOf i = t) :
    P.Safe i x (fun a c => Q a c ∧ ∃ t', Run x t' a ∧ c.pastOf i = t ++ t') c := by
  induction x generalizing c t with
  | done a =>
    intro c' hc'
    have hsame : c'.pastOf i = t := (stable_pastOf t).meanwhile hc' hpast
    exact ⟨h c' hc', [], .start _, by rw [hsame, List.append_nil]⟩
  | ask r k ih =>
    intro c' hc' reply hmay
    obtain ⟨hpromise, hrest⟩ := h c' hc' reply hmay
    exact ⟨hpromise, (ih reply hrest (hc'.pastOf_after hpast)).mono fun _ _ hQ =>
      ⟨hQ.1, exists_run_of_after (.ask reply (.start _)) hQ.2⟩⟩
  | atomic u k ih =>
    intro c' hc'
    obtain ⟨hpromise, hrest⟩ := h c' hc'
    exact ⟨hpromise, (ih _ hrest (hc'.pastOf_after hpast)).mono fun _ _ hQ =>
      ⟨hQ.1, exists_run_of_after (.atomic _ (.start _)) hQ.2⟩⟩
  | fork other next _ ih =>
    intro c' hc'
    obtain ⟨hpromise, hother, hrest⟩ := h c' hc'
    exact ⟨hpromise, hother, (ih hrest (hc'.pastOf_after hpast)).mono fun _ _ hQ =>
      ⟨hQ.1, exists_run_of_after (.fork (.start _)) hQ.2⟩⟩

/-- **The next deed of a safe thread** is as promised, and leaves it safe. -/
theorem Safe.next {d : Deed σ} {started : List (Action σ Unit)} {y : Action σ α}
    (h : P.Safe i x Q c) (hnext : x.Next d started y) (hmay : c.May P.answers i d) :
    P.promise i c (c.after i d) ∧ P.Safe i y Q (c.after i d) ∧
      ∀ z ∈ started, ∀ j, P.size ≤ j → (c.after i d).IsNew j →
        P.Safe j z (fun _ _ => True) (c.after i d) := by
  cases hnext with
  | ask reply =>
    obtain ⟨hpromise, hrest⟩ := h c .refl reply hmay
    exact ⟨hpromise, hrest, by simp⟩
  | atomic s =>
    obtain rfl : s = c.state := hmay
    obtain ⟨hpromise, hrest⟩ := h c .refl
    exact ⟨hpromise, hrest, by simp⟩
  | fork =>
    obtain ⟨hpromise, hother, hrest⟩ := h c .refl
    exact ⟨hpromise, hrest, by simpa using hother⟩

/-! ## Rules -/

/-- **From all scenes with a property, a thread is safe** and ends as another property says. -/
def Triple (P : Protocol σ) (i : Nat) (A : Scene σ → Prop) (x : Action σ α)
    (Q : α → Scene σ → Prop) : Prop :=
  ∀ c, A c → P.Safe i x Q c

theorem Triple.conseq (h : P.Triple i A x Q) (hA : ∀ c, B c → A c)
    (hQ : ∀ a c, Q a c → R a c) : P.Triple i B x R :=
  fun c hB => (h c (hA c hB)).mono hQ

theorem triple_done {a : α} (hstable : P.Stable i A) :
    P.Triple i A (done a) fun b c => b = a ∧ A c :=
  fun _ hA _ hmeanwhile => ⟨rfl, hstable.meanwhile hmeanwhile hA⟩

theorem Triple.bind {f : α → Action σ β} {R : β → Scene σ → Prop} (hx : P.Triple i A x Q)
    (hf : ∀ a, P.Triple i (Q a) (f a) R) : P.Triple i A (x >>= f) R :=
  fun c hA => (hx c hA).bind fun a c hQ => hf a c hQ

theorem Triple.andThen {x : Action σ (Except ε α)} {f : α → Action σ (Except ε β)}
    {Q : Except ε α → Scene σ → Prop} {R : Except ε β → Scene σ → Prop} (hx : P.Triple i A x Q)
    (hf : ∀ a, P.Triple i (Q (.ok a)) (f a) R)
    (herror : ∀ e, P.Triple i (Q (.error e)) (done (.error e)) R) :
    P.Triple i A (x.andThen f) R :=
  hx.bind fun
    | .ok a => hf a
    | .error e => herror e

theorem triple_request {r : Request} {B : r.Reply → Scene σ → Prop} (hA : P.Stable i A)
    (hB : ∀ reply, P.Stable i (B reply))
    (h : ∀ c reply, A c → c.May P.answers i (.asked r reply) →
      P.promise i c (c.after i (.asked r reply)) ∧ B reply (c.after i (.asked r reply))) :
    P.Triple i A (request r) B := by
  intro c hc c' hmeanwhile reply hmay
  obtain ⟨hpromise, hafter⟩ := h c' reply (hA.meanwhile hmeanwhile hc) hmay
  exact ⟨hpromise, fun c'' h'' => (hB reply).meanwhile h'' hafter⟩

theorem triple_change {f : σ → α × σ} {B : α → Scene σ → Prop} (hA : P.Stable i A)
    (hB : ∀ a, P.Stable i (B a))
    (h : ∀ c, A c → P.promise i c (c.after i (.changed c.state (f c.state).2)) ∧
      B (f c.state).1 (c.after i (.changed c.state (f c.state).2))) :
    P.Triple i A (change f) B := by
  intro c hc c' hmeanwhile
  obtain ⟨hpromise, hafter⟩ := h c' (hA.meanwhile hmeanwhile hc)
  exact ⟨hpromise, fun c'' h'' => (hB _).meanwhile h'' hafter⟩

theorem triple_fork {other : Action σ Unit} {next : Action σ α} (hA : P.Stable i A)
    (h : ∀ c, A c → P.promise i c (c.after i .forked) ∧ B (c.after i .forked))
    (hother : ∀ j, P.size ≤ j → P.Triple j (fun c => B c ∧ c.IsNew j) other fun _ _ => True)
    (hnext : P.Triple i B next Q) : P.Triple i A (fork other next) Q := by
  intro c hc c' hmeanwhile
  obtain ⟨hpromise, hafter⟩ := h c' (hA.meanwhile hmeanwhile hc)
  exact ⟨hpromise, fun j hj hnew => hother j hj _ ⟨hafter, hnew⟩, hnext _ hafter⟩

theorem triple_withLock {lock : Lock} {body : Action σ α} {B : Scene σ → Prop}
    (hA : P.Stable i A) (hB : P.Stable i B) (hR : ∀ a, P.Stable i (R a))
    (hacquire : ∀ c, A c → c.May P.answers i (.asked (.acquire lock) ()) →
      P.promise i c (c.after i (.asked (.acquire lock) ())) ∧
        B (c.after i (.asked (.acquire lock) ())))
    (hbody : P.Triple i B body Q) (hQ : ∀ a, P.Stable i (Q a))
    (hrelease : ∀ a c, Q a c → c.May P.answers i (.asked (.release lock) ()) →
      P.promise i c (c.after i (.asked (.release lock) ())) ∧
        R a (c.after i (.asked (.release lock) ()))) :
    P.Triple i A (withLock lock body) R := by
  refine Triple.bind (Q := fun _ => B) (triple_request hA (fun _ => hB) fun c _ hc hmay =>
    hacquire c hc hmay) fun _ => hbody.bind fun a => ?_
  refine Triple.bind (Q := fun _ => R a) (triple_request (hQ a) (fun _ => hR a)
    fun c _ hc hmay => hrelease a c hc hmay) fun _ => ?_
  exact (triple_done (hR a)).conseq (fun _ h => h) fun b c ⟨hb, hc⟩ => hb ▸ hc

/-- **An action that is known by its histories**: what is true of a scene may depend on what the
action has done so far. -/
theorem triple_of_after {A : List (Deed σ) → Scene σ → Prop} (hstable : ∀ t, P.Stable i (A t))
    (h : ∀ t y d started z c, After x t y → y.Next d started z → A t c →
      c.May P.answers i d → P.promise i c (c.after i d) ∧ A (t ++ [d]) (c.after i d) ∧
        ∀ z ∈ started, ∀ j, P.size ≤ j →
          P.Triple j (fun c' => c' = c.after i d ∧ c'.IsNew j) z fun _ _ => True) :
    P.Triple i (A []) x fun a c => ∃ t, Run x t a ∧ A t c := by
  -- the induction is on what is left, for any history that has led there
  suffices hsafe : ∀ y t c, After x t y → A t c →
      P.Safe i y (fun a c => ∃ t, Run x t a ∧ A t c) c from
    fun c hc => hsafe x [] c (.start x) hc
  intro y t c hafter hc
  induction y generalizing t c with
  | done a => exact fun c' hc' => ⟨t, hafter, (hstable t).meanwhile hc' hc⟩
  | ask r k ih =>
    intro c' hc' reply hmay
    obtain ⟨hpromise, hA, -⟩ :=
      h t _ _ _ _ c' hafter (.ask reply) ((hstable t).meanwhile hc' hc) hmay
    exact ⟨hpromise, ih reply h _ _ (hafter.snoc (.ask reply)) hA⟩
  | atomic u k ih =>
    intro c' hc'
    obtain ⟨hpromise, hA, -⟩ :=
      h t _ _ _ _ c' hafter (.atomic c'.state) ((hstable t).meanwhile hc' hc) rfl
    exact ⟨hpromise, ih _ h _ _ (hafter.snoc (.atomic c'.state)) hA⟩
  | fork other next _ ih =>
    intro c' hc'
    obtain ⟨hpromise, hA, hother⟩ :=
      h t _ _ _ _ c' hafter .fork ((hstable t).meanwhile hc' hc) trivial
    exact ⟨hpromise, fun j hj hnew =>
      hother other (List.mem_singleton.2 rfl) j hj _ ⟨rfl, hnew⟩,
      ih h _ _ (hafter.snoc .fork) hA⟩

/-- **An action that obeys rules**, which are enough for what some threads promise, those that are
started among them. -/
theorem triple_of_obeys {p : Request → Prop} {q : σ → σ → Prop} {R : Nat → Prop}
    (hx : x.Obeys p q) (hR : ∀ j, P.size ≤ j → R j) (hstable : ∀ j, P.Stable j A)
    (hask : ∀ j c r reply, R j → p r → A c → c.May P.answers j (.asked r reply) →
      P.promise j c (c.after j (.asked r reply)) ∧ A (c.after j (.asked r reply)))
    (hchange : ∀ j c s, R j → q c.state s → A c →
      P.promise j c (c.after j (.changed c.state s)) ∧ A (c.after j (.changed c.state s)))
    (hfork : ∀ j c, R j → A c → P.promise j c (c.after j .forked) ∧ A (c.after j .forked))
    (hi : R i) : P.Triple i A x fun _ => A := by
  intro c hc
  induction x generalizing i c with
  | done a => exact fun c' hc' => (hstable i).meanwhile hc' hc
  | ask r k ih =>
    intro c' hc' reply hmay
    obtain ⟨hpromise, hA⟩ := hask i c' r reply hi hx.1 ((hstable i).meanwhile hc' hc) hmay
    exact ⟨hpromise, ih reply (hx.2 reply) hi _ hA⟩
  | atomic u k ih =>
    intro c' hc'
    obtain ⟨hpromise, hA⟩ := hchange i c' _ hi (hx c'.state).1 ((hstable i).meanwhile hc' hc)
    exact ⟨hpromise, ih _ (hx c'.state).2 hi _ hA⟩
  | fork other next ihother ih =>
    intro c' hc'
    obtain ⟨hpromise, hA⟩ := hfork i c' hi ((hstable i).meanwhile hc' hc)
    exact ⟨hpromise, fun j hj _ => (ihother hx.1 (hR j hj) _ hA).mono fun _ _ _ => trivial,
      ih hx.2 hi _ hA⟩

/-! ## Systems of safe threads -/

section System

variable {s : σ} {threads : List (Action σ Unit)} {sys sys' : System σ} {Q : Nat → Scene σ → Prop}

/-- **Threads that are safe stay safe together.** -/
theorem safe_of_reaches (hsize : threads.length = P.size)
    (hsafe : ∀ i x, threads[i]? = some x →
      P.Safe i x (fun _ => Q i) (System.start s threads).scene)
    (hQ : ∀ i, threads.length ≤ i → ∀ c, Q i c)
    (hreaches : System.Reaches P.answers (System.start s threads) sys) {x : Action σ Unit}
    (hget : sys.threads[i]? = some x) : P.Safe i x (fun _ => Q i) sys.scene := by
  refine hreaches.forall_threads (I := fun i x c => P.Safe i x (fun _ => Q i) c) hsafe ?_ ?_ ?_ hget
  · rintro c i x d started y hx hnext hmay
    exact (hx.next hnext hmay).2.1
  · -- what another thread does comes between two deeds of this one
    rintro c i j x y d started z hij hx hy hnext hmay
    exact hx.meanwhile (.single ⟨j, Ne.symm hij, d, hmay, (hy.next hnext hmay).1, rfl⟩)
  · rintro c i j x d started y hx hnext hmay hi hisnew z hz
    exact ((hx.next hnext hmay).2.2 z hz i (hsize ▸ hi) hisnew).mono fun _ c _ => hQ i hi c

/-- **All promises are kept.** -/
theorem promise_of_step (hsize : threads.length = P.size)
    (hsafe : ∀ i x, threads[i]? = some x →
      P.Safe i x (fun _ => Q i) (System.start s threads).scene)
    (hQ : ∀ i, threads.length ≤ i → ∀ c, Q i c)
    (hreaches : System.Reaches P.answers (System.start s threads) sys)
    (hstep : System.Step P.answers i sys sys') : P.promise i sys.scene sys'.scene := by
  obtain @⟨x, y, d, started, hthread, hnext, hmay⟩ := hstep
  exact ((safe_of_reaches hsize hsafe hQ hreaches hthread).next hnext hmay).1

end System

end Protocol

end NetUnits
