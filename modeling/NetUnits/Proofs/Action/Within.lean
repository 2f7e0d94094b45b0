import NetUnits.Proofs.Action.Course

/-! # What actions do in states of a kind

What an action asks for may depend on the states that it meets. Where every thread leaves only
states with a property, all that it meets has the property, and rules that it obeys then are obeyed
always.

* **`Action.Within`** — an action obeys rules as long as it meets states with a property, and leaves
  such states; `Action.Within.bind`, `Action.Obeys.within` and so on are its rules.
* **`Action.Within.of_after`** — so do its histories that meet such states only.
* **`System.Reaches.obeys_of_within`** — threads of this kind meet such states only, and all that
  they do obeys the rules. -/

namespace NetUnits

namespace Action

variable {σ τ α β ε : Type} {K : σ → Prop} {p : Request → Prop} {Q R : α → Prop} {x y : Action σ α}
  {d : Deed σ} {t : List (Deed σ)}

/-- **An action stays within rules** as long as it meets states with a property: all its requests
are allowed, the states that it leaves have the property, and its result is as it should be. So it
is with the actions that it starts, whatever their results are. -/
def Within (K : σ → Prop) (p : Request → Prop) : {α : Type} → Action σ α → (α → Prop) → Prop
  | _, done a, Q => Q a
  | _, ask r k, Q => p r ∧ ∀ reply, (k reply).Within K p Q
  | _, atomic u k, Q => ∀ s, K s → K (u s) ∧ (k s).Within K p Q
  | _, fork other next, Q => other.Within K p (fun _ => True) ∧ next.Within K p Q

/-! ## Rules -/

theorem Within.bind {f : α → Action σ β} {R : β → Prop} (hx : x.Within K p Q)
    (hf : ∀ a, Q a → (f a).Within K p R) : (x >>= f).Within K p R := by
  induction x with
  | done a => exact hf a hx
  | ask r k ih => exact ⟨hx.1, fun reply => ih reply (hx.2 reply) hf⟩
  | atomic u k ih => exact fun s hs => ⟨(hx s hs).1, ih s (hx s hs).2 hf⟩
  | fork other next _ ih => exact ⟨hx.1, ih hx.2 hf⟩

theorem Within.mono (hx : x.Within K p Q) (hQ : ∀ a, Q a → R a) : x.Within K p R := by
  rw [← bind_done x]
  exact hx.bind fun a ha => hQ a ha

/-- **One action after another** stays within rules, if the second does for all that the first may
succeed with. -/
theorem Within.andThen {x : Action σ (Except ε α)} {f : α → Action σ (Except ε β)} {R : β → Prop}
    (hx : x.Within K p fun result => ∀ a, result = .ok a → Q a)
    (hf : ∀ a, Q a → (f a).Within K p fun result => ∀ b, result = .ok b → R b) :
    (x.andThen f).Within K p fun result => ∀ b, result = .ok b → R b :=
  hx.bind fun result hresult => by
    cases result with
    | ok a => exact hf a (hresult a rfl)
    | error e => exact fun _ h => nomatch h

/-- One action after another, if nothing is known of the results. -/
theorem Within.andThen_true {x : Action σ (Except ε α)} {f : α → Action σ (Except ε β)}
    (hx : x.Within K p fun _ => True) (hf : ∀ a, (f a).Within K p fun _ => True) :
    (x.andThen f).Within K p fun _ => True :=
  hx.bind fun result _ => by
    cases result with
    | ok a => exact hf a
    | error e => trivial

theorem within_request {r : Request} (h : p r) :
    (request r : Action σ r.Reply).Within K p fun _ => True :=
  ⟨h, fun _ => trivial⟩

theorem within_change {f : σ → α × σ} (h : ∀ s, K s → K (f s).2 ∧ Q (f s).1) :
    (change f).Within K p Q :=
  fun s hs => h s hs

theorem within_look : (look : Action σ σ).Within K p K :=
  fun _ hs => ⟨hs, hs⟩

theorem Within.withLock {lock : Lock} {body : Action σ α} (hacquire : p (.acquire lock))
    (hrelease : p (.release lock)) (h : body.Within K p Q) :
    (withLock lock body).Within K p Q :=
  (within_request hacquire).bind fun _ _ => h.bind fun _ ha =>
    (within_request hrelease).bind fun _ _ => ha

/-- **Rules that are obeyed in all states** are obeyed in those with a property, if the changes keep
it. -/
theorem Obeys.within {q : σ → σ → Prop} (h : x.Obeys p q) (hq : ∀ s s', q s s' → K s → K s') :
    x.Within K p fun _ => True := by
  induction x with
  | done a => trivial
  | ask r k ih => exact ⟨h.1, fun reply => ih reply (h.2 reply)⟩
  | atomic u k ih => exact fun s hs => ⟨hq s _ (h s).1 hs, ih s (h s).2⟩
  | fork other next ihother ih => exact ⟨ihother h.1, ih h.2⟩

/-- An action on a part of the state stays within rules as it does alone. -/
theorem Within.inside {part : Part σ τ} {K' : τ → Prop} {x : Action τ α} (h : x.Within K' p Q)
    (hget : ∀ s, K s → K' (part.get s)) (hset : ∀ s u, K s → K' u → K (part.set u s)) :
    (x.inside part).Within K p Q := by
  induction x with
  | done a => exact h
  | ask r k ih => exact ⟨h.1, fun reply => ih reply (h.2 reply)⟩
  | atomic u k ih =>
    intro s hs
    obtain ⟨hleft, hrest⟩ := h (part.get s) (hget s hs)
    exact ⟨hset s _ hs hleft, ih _ hrest⟩
  | fork other next ihother ih => exact ⟨ihother h.1, ih h.2⟩

/-! ## Histories -/

/-- **The next deed** in a state with the property is within the rules, and so is all that
follows. -/
theorem Within.of_next {started : List (Action σ Unit)} (h : x.Within K p Q)
    (hnext : x.Next d started y) (hmet : ∀ s s', d = .changed s s' → K s) :
    d.Obeys p (fun _ s' => K s') ∧ y.Within K p Q ∧
      ∀ z ∈ started, z.Within K p fun _ => True := by
  cases hnext with
  | ask reply => exact ⟨h.1, h.2 reply, fun _ hz => absurd hz List.not_mem_nil⟩
  | atomic s =>
    obtain ⟨hleft, hrest⟩ := h s (hmet s _ rfl)
    exact ⟨hleft, hrest, fun _ hz => absurd hz List.not_mem_nil⟩
  | fork => exact ⟨trivial, h.2, fun _ hz => List.mem_singleton.1 hz ▸ h.1⟩

/-- **Histories that meet states with the property only** are within the rules. -/
theorem Within.of_after (h : x.Within K p Q) (hafter : After x t y)
    (hmet : ∀ d ∈ t, d.Meets K) : ∀ d ∈ t, d.Obeys p fun _ _ => True := by
  induction hafter with
  | start x => exact fun _ hd => absurd hd List.not_mem_nil
  | ask reply _ ih =>
    exact List.forall_mem_cons.2 ⟨h.1, ih (h.2 reply) (List.forall_mem_cons.1 hmet).2⟩
  | atomic s _ ih =>
    obtain ⟨hs, hrest⟩ := List.forall_mem_cons.1 hmet
    exact List.forall_mem_cons.2 ⟨trivial, ih (h s hs.1).2 hrest⟩
  | fork _ ih =>
    exact List.forall_mem_cons.2 ⟨trivial, ih h.2 (List.forall_mem_cons.1 hmet).2⟩

end Action

/-! ## Systems -/

open NetUnits.Action in
/-- **Threads that stay within rules do so together**: they meet only states with the property, and
all that they and the threads that they start ever do obeys the rules. -/
theorem System.Reaches.obeys_of_within {σ : Type} {K : σ → Prop} {p : Request → Prop}
    {answers : Answers} {sys : System σ} {s : σ} {threads : List (Action σ Unit)}
    (h : Reaches answers (start s threads) sys) (hs : K s)
    (hthreads : ∀ x ∈ threads, x.Within K p fun _ => True) :
    K sys.scene.state ∧ ∀ i, ∀ d ∈ sys.scene.pastOf i, d.Obeys p fun _ _ => True := by
  suffices hall : K sys.scene.state ∧ (∀ x ∈ sys.threads, x.Within K p fun _ => True) ∧
      ∀ i, ∀ d ∈ sys.scene.pastOf i, d.Obeys p fun _ _ => True from ⟨hall.1, hall.2.2⟩
  induction h with
  | refl => exact ⟨hs, hthreads, fun i d hd => absurd hd List.not_mem_nil⟩
  | tail _ hstep ih =>
    obtain ⟨hstate, hleft, hpast⟩ := ih
    obtain ⟨i, @⟨x, y, d, started, hthread, hnext, hmay⟩⟩ := hstep
    obtain ⟨hdeed, hy, hstarted⟩ := (hleft x (List.mem_of_getElem? hthread)).of_next hnext
      fun s s' hd => by
        subst hd
        exact (hmay : s = _) ▸ hstate
    refine ⟨?_, fun z hz => ?_, fun j e he => ?_⟩
    · cases d with
      | changed s s' => exact hdeed
      | asked | forked => exact hstate
    · rcases List.mem_append.1 hz with hz | hz
      · exact (List.mem_or_eq_of_mem_set hz).elim (hleft z) fun heq => heq ▸ hy
      · exact hstarted z hz
    · by_cases hj : i = j
      · subst hj
        rw [Scene.pastOf_after_self] at he
        rcases List.mem_append.1 he with he | he
        · exact hpast i e he
        · rw [List.mem_singleton.1 he]
          cases d with
          | asked r reply => exact hdeed
          | changed | forked => trivial
      · rw [Scene.pastOf_after_of_ne hj] at he
        exact hpast j e he

end NetUnits
