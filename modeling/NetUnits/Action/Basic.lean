import NetUnits.Action.Request

/-!
# Actions

An **action** is a program with effects, written as data: it is done, or it makes a request and
goes on with the reply, or it reads and changes the state that it shares with other actions in one
indivisible step, or it lets another action go on beside it. What an action does on its own is
`Action.interpret`; because each step is visible, it can also be interleaved with others.

* **`Action`** — actions with a shared state and a result; a lawful monad.
* **`Action.interpret`** — carries an action out, in any monad that answers requests.
* **`Action.inside`** — an action on a part of the state.
* **`Action.traced`** — an action whose events are handled by an action.
* **`Action.withLock`** — an action while holding a lock.
-/

namespace NetUnits

/-- **An action** on a state shared with other actions, with a result. -/
inductive Action (σ : Type) : Type → Type 1 where
  /-- The end, with a result. -/
  | done {α : Type} (result : α) : Action σ α
  /-- A request, and what follows its reply. -/
  | ask {α : Type} (request : Request) (next : request.Reply → Action σ α) : Action σ α
  /-- A change of the state in one step, and what follows for the state before it. -/
  | atomic {α : Type} (update : σ → σ) (next : σ → Action σ α) : Action σ α
  /-- An action that goes on beside what follows. -/
  | fork {α : Type} (other : Action σ Unit) (next : Action σ α) : Action σ α

namespace Action

variable {σ τ α β γ : Type}

/-- One action, and then another with its result. -/
protected def bind : Action σ α → (α → Action σ β) → Action σ β
  | done a, f => f a
  | ask r k, f => ask r fun x => (k x).bind f
  | atomic u k, f => atomic u fun s => (k s).bind f
  | fork other next, f => fork other (next.bind f)

instance : Monad (Action σ) where
  pure := done
  bind := Action.bind

instance : Inhabited (Action σ Unit) := ⟨done ()⟩

@[simp] theorem pure_eq (a : α) : (pure a : Action σ α) = done a := rfl

@[simp] theorem done_bind (a : α) (f : α → Action σ β) : (done a >>= f) = f a := rfl

@[simp] theorem ask_bind (r : Request) (k : r.Reply → Action σ α) (f : α → Action σ β) :
    (ask r k >>= f) = ask r fun x => k x >>= f := rfl

@[simp] theorem atomic_bind (u : σ → σ) (k : σ → Action σ α) (f : α → Action σ β) :
    (atomic u k >>= f) = atomic u fun s => k s >>= f := rfl

@[simp] theorem fork_bind (other : Action σ Unit) (next : Action σ α) (f : α → Action σ β) :
    (fork other next >>= f) = fork other (next >>= f) := rfl

theorem bind_done (x : Action σ α) : (x >>= done) = x := by
  induction x with
  | done a => rfl
  | ask r k ih => simp [ih]
  | atomic u k ih => simp [ih]
  | fork other next _ ih => simp [ih]

theorem bind_assoc' (x : Action σ α) (f : α → Action σ β) (g : β → Action σ γ) :
    (x >>= f >>= g) = x >>= fun a => f a >>= g := by
  induction x with
  | done a => rfl
  | ask r k ih => simp [ih]
  | atomic u k ih => simp [ih]
  | fork other next _ ih => simp [ih]

instance : LawfulMonad (Action σ) := LawfulMonad.mk' _ bind_done (fun _ _ => rfl) bind_assoc'

/-! ## Building blocks -/

/-- The reply to a request. -/
def request (r : Request) : Action σ r.Reply :=
  ask r done

/-- An event for the log. -/
def event (source : EventSource) (level : Level) (message : String) : Action σ Unit :=
  request (.event ⟨source, level, message⟩)

/-- The state at this moment. -/
def look : Action σ σ :=
  atomic id done

/-- A change of the state in one step, with a result. -/
def change (f : σ → α × σ) : Action σ α :=
  atomic (fun s => (f s).2) fun s => done (f s).1

/-- **An action while holding a lock.** -/
def withLock (lock : Lock) (body : Action σ α) : Action σ α := do
  request (.acquire lock)
  let result ← body
  request (.release lock)
  return result

/-- An action with a result or an error, and what follows a result. -/
def andThen {ε : Type} (x : Action σ (Except ε α)) (f : α → Action σ (Except ε β)) :
    Action σ (Except ε β) :=
  x >>= fun
    | .ok a => f a
    | .error e => done (.error e)

/-- The results of an action for each item, in order, up to the first error. -/
def forEach {ε : Type} (f : α → Action σ (Except ε β)) : List α → Action σ (Except ε (List β))
  | [] => done (.ok [])
  | a :: rest => (f a).andThen fun b => (forEach f rest).andThen fun bs => done (.ok (b :: bs))

/-! ## Interpretation -/

/-- **An action carried out alone**: requests are answered by `answer`, and what goes on beside an
action comes before what follows. -/
def interpret {m : Type → Type} [Monad m] (answer : (r : Request) → m r.Reply) {α : Type} :
    Action σ α → σ → m (α × σ)
  | done a, s => pure (a, s)
  | ask r k, s => answer r >>= fun x => interpret answer (k x) s
  | atomic u k, s => interpret answer (k s) (u s)
  | fork other next, s => interpret answer other s >>= fun r => interpret answer next r.2

/-- Interpretation goes through an action step by step. -/
theorem interpret_bind {m : Type → Type} [Monad m] [LawfulMonad m]
    (answer : (r : Request) → m r.Reply) (x : Action σ α) (f : α → Action σ β) (s : σ) :
    interpret answer (x >>= f) s =
      interpret answer x s >>= fun r => interpret answer (f r.1) r.2 := by
  induction x generalizing s with
  | done a => simp [interpret]
  | ask r k ih => simp [interpret, ih]
  | atomic u k ih => simp [interpret, ih]
  | fork other next _ ih => simp [interpret, ih]

/-! ## Parts of the state -/

/-- **A part of a state**: how it is read and how it is replaced. -/
structure Part (σ τ : Type) where
  /-- The part of a state. -/
  get : σ → τ
  /-- The state with another part. -/
  set : τ → σ → σ

/-- **An action on a part of the state.** -/
def inside (part : Part σ τ) {α : Type} : Action τ α → Action σ α
  | done a => done a
  | ask r k => ask r fun x => (k x).inside part
  | atomic u k =>
    atomic (fun s => part.set (u (part.get s)) s) fun s => (k (part.get s)).inside part
  | fork other next => fork (other.inside part) (next.inside part)

@[simp] theorem inside_bind (part : Part σ τ) (x : Action τ α) (f : α → Action τ β) :
    (x >>= f).inside part = x.inside part >>= fun a => (f a).inside part := by
  induction x with
  | done a => rfl
  | ask r k ih => simp [inside, ih]
  | atomic u k ih => simp [inside, ih]
  | fork other next _ ih => simp [inside, ih]

/-! ## Events -/

/-- What follows a request, with an event handled by `handle`. -/
def onEvent (handle : Event → Action σ Unit) :
    (r : Request) → (r.Reply → Action σ α) → Action σ α
  | .event event, next => handle event >>= next
  | r, next => ask r next

/-- **An action whose events are handled by an action.** -/
def traced (handle : Event → Action σ Unit) {α : Type} : Action σ α → Action σ α
  | done a => done a
  | ask r k => onEvent handle r fun x => (k x).traced handle
  | atomic u k => atomic u fun s => (k s).traced handle
  | fork other next => fork (other.traced handle) (next.traced handle)

end Action

end NetUnits
