import NetUnits.Proofs.Action.Part
import Mathlib.Data.List.Forall2

/-! # What actions fail with

An action on each of several items fails with an error of one of them. Two actions that do the same
up to an error fail alike, and so do those that are built from them in the same way.

* **`Action.forall₂_of_run_forEach_ok`**, **`Action.exists_of_run_forEach_error`** — the results for
  all items, and their error.
* **`Action.FailsAs`** — all errors of an action are errors of another, after the same deeds. -/

namespace NetUnits.Action

variable {σ ε α β : Type} {f : α → Action σ (Except ε β)} {l : List α} {t : List (Deed σ)}

/-! ## Item by item -/

/-- Results for all items are those of each. -/
theorem forall₂_of_run_forEach_ok {bs : List β} (hrun : Run (forEach f l) t (.ok bs)) :
    List.Forall₂ (fun a b => ∃ u, u <:+: t ∧ Run (f a) u (.ok b)) l bs := by
  induction l generalizing t bs with
  | nil =>
    obtain ⟨-, hok⟩ := run_done_iff.1 hrun
    obtain rfl := Except.ok.inj hok
    exact .nil
  | cons a rest ih =>
    obtain ⟨_, -, he⟩ | ⟨t₁, t₂, b, rfl, ha, hrest⟩ := run_andThen_iff.1 hrun
    · cases he
    obtain ⟨_, -, he⟩ | ⟨t₃, t₄, bs', rfl, hothers, hdone⟩ := run_andThen_iff.1 hrest
    · cases he
    obtain ⟨-, hok⟩ := run_done_iff.1 hdone
    obtain rfl := Except.ok.inj hok
    refine .cons ⟨t₁, (List.prefix_append _ _).isInfix, ha⟩ ((ih hothers).imp ?_)
    rintro a b ⟨u, hu, hb⟩
    exact ⟨u, hu.trans ⟨t₁, t₄, by simp⟩, hb⟩

/-- An error for all items is one of them. -/
theorem exists_of_run_forEach_error {e : ε} (hrun : Run (forEach f l) t (.error e)) :
    ∃ a ∈ l, ∃ u, u <:+: t ∧ Run (f a) u (.error e) := by
  induction l generalizing t with
  | nil => cases (run_done_iff.1 hrun).2
  | cons a rest ih =>
    obtain ⟨_, ha, he⟩ | ⟨t₁, t₂, b, rfl, -, hrest⟩ := run_andThen_iff.1 hrun
    · obtain rfl := Except.error.inj he
      exact ⟨a, List.mem_cons_self, t, List.infix_refl t, ha⟩
    obtain ⟨_, hothers, he⟩ | ⟨_, _, _, -, -, hdone⟩ := run_andThen_iff.1 hrest
    · obtain rfl := Except.error.inj he
      obtain ⟨a', ha', u, hu, herror⟩ := ih hothers
      exact ⟨a', List.mem_cons_of_mem a ha', u, hu.trans (List.suffix_append t₁ t₂).isInfix, herror⟩
    · cases (run_done_iff.1 hdone).2

/-! ## Failing alike -/

/-- **Two actions fail alike**: each history of the first to an error is one of the second to the
same error. -/
def FailsAs (x : Action σ (Except ε α)) (y : Action σ (Except ε β)) : Prop :=
  ∀ t e, Run x t (.error e) → Run y t (.error e)

namespace FailsAs

variable {τ ε' γ δ : Type} {x : Action σ (Except ε α)} {y : Action σ (Except ε β)}

theorem error (e : ε) :
    FailsAs (σ := σ) (done (.error e : Except ε α)) (done (.error e : Except ε β)) := by
  intro t e' hrun
  obtain ⟨rfl, he⟩ := run_done_iff.1 hrun
  cases he
  exact run_done_iff.2 ⟨rfl, rfl⟩

theorem bind (z : Action σ γ) {f : γ → Action σ (Except ε α)} {g : γ → Action σ (Except ε β)}
    (h : ∀ c, FailsAs (f c) (g c)) : FailsAs (z >>= f) (z >>= g) := by
  intro t e hrun
  obtain ⟨t₁, t₂, c, rfl, hz, hf⟩ := run_bind_iff.1 hrun
  exact run_bind_iff.2 ⟨t₁, t₂, c, rfl, hz, h c t₂ e hf⟩

/-- Where what follows fails after errors only, the errors of what is done first decide. -/
theorem result (h : FailsAs x y) {f : Except ε α → Action σ (Except ε' γ)}
    {g : Except ε β → Action σ (Except ε' δ)} (hok : ∀ a t e, ¬Run (f (.ok a)) t (.error e))
    (herror : ∀ e, FailsAs (f (.error e)) (g (.error e))) : FailsAs (x >>= f) (y >>= g) := by
  intro t e hrun
  obtain ⟨t₁, t₂, e' | a, rfl, hx, hf⟩ := run_bind_iff.1 hrun
  · exact run_bind_iff.2 ⟨t₁, t₂, .error e', rfl, h t₁ e' hx, herror e' t₂ e hf⟩
  · exact absurd hf (hok a t₂ e)

/-- Where what follows a success never fails, all errors are those of what is done first. -/
theorem andThen (x : Action σ (Except ε α)) {f : α → Action σ (Except ε β)}
    (hf : ∀ a t e, ¬Run (f a) t (.error e)) : FailsAs (x.andThen f) x := by
  intro t e hrun
  obtain ⟨e', hx, he⟩ | ⟨_, t₂, a, -, -, hrest⟩ := run_andThen_iff.1 hrun
  · cases he
    exact hx
  · exact absurd hrest (hf a t₂ e)

/-- What goes on beside does not matter. -/
theorem fork (h : FailsAs x y) (other other' : Action σ Unit) :
    FailsAs (.fork other x) (.fork other' y) := by
  intro t e hrun
  obtain ⟨t', rfl, hx⟩ := run_fork_iff.1 hrun
  exact run_fork_iff.2 ⟨t', rfl, h t' e hx⟩

theorem inside {part : Part σ τ} (hpart : part.IsLawful) {x : Action τ (Except ε α)}
    {y : Action τ (Except ε β)} (h : FailsAs x y) : FailsAs (x.inside part) (y.inside part) := by
  intro t e hrun
  obtain ⟨hx, hstays⟩ := (run_inside_iff hpart).1 hrun
  exact (run_inside_iff hpart).2 ⟨h _ e hx, hstays⟩

end FailsAs

end NetUnits.Action
