import Mathlib.Data.Set.Functor
import NetUnits.Action.Basic

/-! # What actions may come to

An action that is carried out alone changes the state that it was given and nobody else does. Its
surroundings are a world, in which a request may have any of several replies and may change the
world.

* **`Action.Outcome`** — an action may end with a result, a state and a world.
* **`Action.outcome_bind_iff`** and the other equivalences take an action apart. -/

namespace NetUnits.Action

variable {σ ω α β : Type} {answer : (r : Request) → StateT ω SetM r.Reply}

/-- **An action may end with a result**, from a state and a world in another state and another
world. -/
def Outcome (answer : (r : Request) → StateT ω SetM r.Reply) (x : Action σ α) (s : σ) (w : ω)
    (a : α) (s' : σ) (w' : ω) : Prop :=
  ((a, s'), w') ∈ ((x.interpret answer s).run w).run

/-- A sequence of steps in a world ends as its second step does, from where the first one ends. -/
theorem mem_run_bind_iff {γ δ : Type} {m : StateT ω SetM γ} {f : γ → StateT ω SetM δ} {w : ω}
    {y : δ × ω} : y ∈ ((m >>= f).run w).run ↔ ∃ x ∈ (m.run w).run, y ∈ ((f x.1).run x.2).run :=
  Set.mem_iUnion₂.trans <| by simp only [exists_prop]; rfl

variable {s s' : σ} {w w' : ω} {a : α} {b : β}

@[simp] theorem outcome_done_iff {c : α} :
    Outcome answer (done c) s w a s' w' ↔ a = c ∧ s' = s ∧ w' = w := by
  constructor
  · intro h
    obtain ⟨⟨rfl, rfl⟩, rfl⟩ : ((a, s'), w') = ((c, s), w) := h
    exact ⟨rfl, rfl, rfl⟩
  · rintro ⟨rfl, rfl, rfl⟩
    exact Set.mem_singleton _

@[simp] theorem outcome_ask_iff {r : Request} {k : r.Reply → Action σ α} :
    Outcome answer (ask r k) s w a s' w' ↔
      ∃ reply w₁, (reply, w₁) ∈ ((answer r).run w).run ∧
        Outcome answer (k reply) s w₁ a s' w' := by
  rw [Outcome, interpret, mem_run_bind_iff, Prod.exists]
  rfl

@[simp] theorem outcome_atomic_iff {u : σ → σ} {k : σ → Action σ α} :
    Outcome answer (atomic u k) s w a s' w' ↔ Outcome answer (k s) (u s) w a s' w' :=
  Iff.rfl

/-- **Two actions in sequence end as the second does**, from where the first one ends. -/
theorem outcome_bind_iff {x : Action σ α} {f : α → Action σ β} :
    Outcome answer (x >>= f) s w b s' w' ↔
      ∃ a s₁ w₁, Outcome answer x s w a s₁ w₁ ∧ Outcome answer (f a) s₁ w₁ b s' w' := by
  rw [Outcome, interpret_bind, mem_run_bind_iff, Prod.exists, Prod.exists]
  rfl

/-- Looking at the state does not change it. -/
theorem outcome_look_bind_iff {f : σ → Action σ α} :
    Outcome answer (look >>= f) s w a s' w' ↔ Outcome answer (f s) s w a s' w' :=
  Iff.rfl

@[simp] theorem outcome_change_iff {g : σ → α × σ} :
    Outcome answer (change g) s w a s' w' ↔ a = (g s).1 ∧ s' = (g s).2 ∧ w' = w :=
  outcome_done_iff

/-- What follows a change starts from the new state. -/
theorem outcome_change_bind_iff {g : σ → β × σ} {f : β → Action σ α} :
    Outcome answer (change g >>= f) s w a s' w' ↔
      Outcome answer (f (g s).1) (g s).2 w a s' w' :=
  Iff.rfl

end NetUnits.Action
