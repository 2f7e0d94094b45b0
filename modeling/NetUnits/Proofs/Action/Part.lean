import NetUnits.Proofs.Action.Course

/-! # Histories on a part of the state

An action on a part of the state does the same as the action alone, and leaves the rest of the state
as it is.

* **`Action.Part.IsLawful`** — what was put into a part is read from it.
* **`Deed.on`** — what a deed is for a part; **`Deed.StaysIn`** — it changes nothing else.
* **`Action.run_inside_iff`**, **`Action.Each.inside`** — histories of an action on a part are those
  of the action alone; **`Action.Each.keeps_inside`** — what it keeps there. -/

namespace NetUnits

variable {σ τ α : Type} {part : Action.Part σ τ}

/-- **What was put into a part is read from it.** -/
structure Action.Part.IsLawful (part : Part σ τ) : Prop where
  /-- What is read after a replacement is the new part. -/
  get_set : ∀ u s, part.get (part.set u s) = u

/-- **What a deed is for a part of the state.** -/
def Deed.on (part : Action.Part σ τ) : Deed σ → Deed τ
  | asked r reply => asked r reply
  | changed s s' => changed (part.get s) (part.get s')
  | forked => forked

/-- A deed changes nothing but a part of the state. -/
def Deed.StaysIn (part : Action.Part σ τ) : Deed σ → Prop
  | changed s s' => s' = part.set (part.get s') s
  | _ => True

namespace Action

variable {x : Action τ α} {t : List (Deed σ)} {z : Action σ α} {a : α}

/-- **A history of an action on a part of the state** is one of the action alone, and leaves the
rest as it is. -/
theorem after_inside_iff (hpart : part.IsLawful) :
    After (x.inside part) t z ↔
      (∃ y, z = y.inside part ∧ After x (t.map (Deed.on part)) y) ∧ ∀ d ∈ t, d.StaysIn part := by
  constructor
  · intro h
    induction x generalizing t with
    | done a =>
      cases h with
      | start => exact ⟨⟨_, rfl, .start _⟩, by simp⟩
    | ask r k ih =>
      cases h with
      | start => exact ⟨⟨_, rfl, .start _⟩, by simp⟩
      | ask reply rest =>
        obtain ⟨⟨y, rfl, hy⟩, ht⟩ := ih reply rest
        exact ⟨⟨y, rfl, .ask reply hy⟩, List.forall_mem_cons.2 ⟨trivial, ht⟩⟩
    | atomic u k ih =>
      cases h with
      | start => exact ⟨⟨_, rfl, .start _⟩, by simp⟩
      | atomic s rest =>
        obtain ⟨⟨y, rfl, hy⟩, ht⟩ := ih _ rest
        have hget : part.get (part.set (u (part.get s)) s) = u (part.get s) := hpart.get_set _ _
        refine ⟨⟨y, rfl, ?_⟩, List.forall_mem_cons.2 ⟨?_, ht⟩⟩
        · rw [List.map_cons, Deed.on, hget]
          exact .atomic _ hy
        · rw [Deed.StaysIn, hget]
    | fork other next _ ih =>
      cases h with
      | start => exact ⟨⟨_, rfl, .start _⟩, by simp⟩
      | fork rest =>
        obtain ⟨⟨y, rfl, hy⟩, ht⟩ := ih rest
        exact ⟨⟨y, rfl, .fork hy⟩, List.forall_mem_cons.2 ⟨trivial, ht⟩⟩
  · rintro ⟨⟨y, rfl, h⟩, ht⟩
    induction t generalizing x with
    | nil =>
      cases h with
      | start => exact .start _
    | cons d t ih =>
      obtain ⟨hd, hstays⟩ := List.forall_mem_cons.1 ht
      cases d with
      | asked r reply =>
        cases h with
        | ask reply rest => exact .ask reply (ih hstays rest)
      | changed s s' =>
        rw [List.map_cons, Deed.on] at h
        -- the rest of the state is as it was, so the deed is the one of the action
        obtain ⟨u, k, rfl, hu, rest⟩ : ∃ u k, x = atomic u k ∧ part.get s' = u (part.get s) ∧
            After (k (part.get s)) (t.map (Deed.on part)) y := by
          generalize hv : part.get s' = v at h
          cases h with
          | atomic _ rest => exact ⟨_, _, rfl, rfl, rest⟩
        have hs' : s' = part.set (u (part.get s)) s := hu ▸ hd
        rw [hs']
        exact .atomic s (ih hstays rest)
      | forked =>
        cases h with
        | fork rest => exact .fork (ih hstays rest)

/-- **A whole history of an action on a part of the state.** -/
theorem run_inside_iff (hpart : part.IsLawful) :
    Run (x.inside part) t a ↔
      Run x (t.map (Deed.on part)) a ∧ ∀ d ∈ t, d.StaysIn part := by
  rw [Run, after_inside_iff hpart]
  refine and_congr_left fun _ => ⟨?_, fun h => ⟨_, rfl, h⟩⟩
  rintro ⟨y, heq, hy⟩
  cases y with
  | done b => exact Action.done.inj heq ▸ hy
  | ask | atomic | fork => cases heq

/-- **Each deed of an action on a part of the state** is what it is for the part. -/
theorem Each.inside (hpart : part.IsLawful) {P' : List (Deed τ) → Deed τ → Prop}
    {P : List (Deed σ) → Deed σ → Prop} (h : x.Each P')
    (hP : ∀ t d, P' (t.map (Deed.on part)) (d.on part) → d.StaysIn part → P t d) :
    (x.inside part).Each P := by
  intro t d z hafter
  obtain ⟨⟨y, -, hy⟩, hstays⟩ := (after_inside_iff hpart).1 hafter
  rw [List.map_append, List.map_singleton] at hy
  exact hP t d (h _ _ y hy) (hstays d (by simp))

/-- **What an action keeps in a part of the state** it keeps in the state, as long as a replacement
of the part does. -/
theorem Each.keeps_inside (hpart : part.IsLawful) {K : σ → Prop} {K' : τ → Prop}
    (h : x.Each (Deed.Keeps K')) (hget : ∀ s, K s → K' (part.get s))
    (hset : ∀ u s, K s → K' u → K (part.set u s)) : (x.inside part).Each (Deed.Keeps K) := by
  refine h.inside hpart fun t d hkeeps hstays => ?_
  cases d with
  | changed s s' =>
    intro hmet hs
    have hmet' : ∀ e ∈ t.map (Deed.on part), e.Meets K' := by
      intro _ he
      obtain ⟨e, hmem, rfl⟩ := List.mem_map.1 he
      cases e with
      | changed v v' =>
        have hboth : K v ∧ K v' := hmet _ hmem
        exact hboth.imp (hget v) (hget v')
      | asked | forked => trivial
    have heq : s' = part.set (part.get s') s := hstays
    rw [heq]
    exact hset _ s hs (hkeeps hmet' (hget s hs))
  | asked | forked => trivial

theorem inside_andThen {β ε : Type} (part : Part σ τ) (x : Action τ (Except ε α))
    (f : α → Action τ (Except ε β)) :
    (x.andThen f).inside part = (x.inside part).andThen fun a => (f a).inside part := by
  rw [andThen, andThen, inside_bind]
  exact bind_congr fun result => by cases result <;> rfl

/-- What an action without others beside it does on a part has none either. -/
theorem Starts.inside {Q : Action τ Unit → Prop} {Q' : Action σ Unit → Prop} (h : x.Starts Q)
    (hQ : ∀ z, Q z → Q' (z.inside part)) : (x.inside part).Starts Q' := by
  induction x with
  | done a => trivial
  | ask r k ih => exact fun reply => ih reply (h reply)
  | atomic u k ih => exact fun s => ih _ (h _)
  | fork other next _ ih => exact ⟨hQ other h.1, ih h.2⟩

end Action

end NetUnits
