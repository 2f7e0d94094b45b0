import NetUnits.Proofs.Action.Part
import NetUnits.Proofs.Action.Section

/-! # What locks settle

A thread that takes a lock may change what the lock guards several times before it gives the lock
back. Nobody else sees that: what counts for the others is what was left when the lock was last
given back, so it is enough to know what each thread makes of it from taking the lock to giving it
back.

* **`Action.Sections`** — an action changes what a lock guards only while it holds the lock, and all
  that it does until it gives the lock back is of a kind. `Action.sections_withLock`,
  `Action.Sections.bind` and so on are its rules.
* **`System.Reaches.guards`** — in a system of such actions the lock guards it.
* **`System.Settled`** — what a lock has settled; **`System.Reaches.keeps_settled`** — how a
  property of that is kept, whatever the order of steps is. -/

namespace NetUnits

namespace Deed

variable {σ τ : Type} {lock : Lock} {f : σ → τ} {t u : List (Deed σ)}

/-- Since a lock was taken nothing has changed. -/
def Untouched (lock : Lock) (f : σ → τ) (t : List (Deed σ)) : Prop :=
  ∀ u, since lock t = some u → ∀ d ∈ u, d.Leaves f

theorem untouched_of_none (h : since lock t = none) : Untouched lock f t :=
  fun _ hu => nomatch h.symm.trans hu

/-- What changes nothing leaves it so. -/
theorem Untouched.append (h : Untouched lock f t) (hu : ∀ d ∈ u, d.Leaves f) :
    Untouched lock f (t ++ u) := by
  induction u using List.reverseRecOn with
  | nil => rwa [List.append_nil]
  | append_singleton u d ih =>
    obtain ⟨hleaves, hd⟩ := List.forall_mem_append.1 hu
    rw [← List.append_assoc]
    intro v hv
    obtain ⟨-, rfl⟩ | ⟨-, w, hw, rfl⟩ := since_snoc_eq_some hv
    · exact fun e he => absurd he List.not_mem_nil
    · exact List.forall_mem_append.2 ⟨ih hleaves w hw, hd⟩

/-- What was done since a lock was taken, for a part of the state. -/
theorem since_map_on (part : Action.Part σ τ) (t : List (Deed σ)) :
    since lock (t.map (Deed.on part)) = (since lock t).map (List.map (Deed.on part)) := by
  induction t using List.reverseRecOn with
  | nil => rfl
  | append_singleton t d ih =>
    rw [List.map_append, List.map_singleton, since_snoc, since_snoc, ih]
    obtain hd | rfl | rfl := spares_or lock d
    · have hon : (d.on part).Spares lock := by
        cases d with
        | asked r => cases r <;> exact hd
        | changed | forked => trivial
      rw [sinceAfter_of_spares hd, sinceAfter_of_spares hon]
      cases since lock t <;> simp
    · simp [sinceAfter, Deed.on]
    · simp [sinceAfter, Deed.on]

/-- What is passed on of a part of the state. -/
theorem passes_map_on_iff {υ : Type} (part : Action.Part σ τ) {g : τ → υ} {v v' : υ} :
    Passes g v (t.map (Deed.on part)) v' ↔ Passes (fun s => g (part.get s)) v t v' := by
  induction t generalizing v with
  | nil => rfl
  | cons d t ih =>
    cases d with
    | changed s s' => exact and_congr_right fun _ => ih
    | asked | forked => exact ih

/-- **All that is done under a lock**, with taking it and giving it back. -/
def locked (lock : Lock) (u : List (Deed σ)) : List (Deed σ) :=
  .asked (.acquire lock) () :: u ++ [.asked (.release lock) ()]

end Deed

/-! ## Actions -/

namespace Action

open NetUnits.Deed

variable {σ τ α β ε : Type} {lock : Lock} {f : σ → τ} {D : List (Deed σ) → Prop}
  {p : Request → Prop} {q : σ → σ → Prop}

/-- **An action changes what a lock guards only while it holds the lock**, and all that it does
until it gives the lock back is of a kind. It may have done something before, but nothing that
another one must not see. -/
structure Sections (lock : Lock) (f : σ → τ) (D : List (Deed σ) → Prop) (x : Action σ α) :
    Prop where
  /-- It changes nothing without the lock. -/
  guarded : ∀ t₀ t d y, Untouched lock f t₀ → After x (t ++ [d]) y → ¬ d.Leaves f →
    ∃ u, since lock (t₀ ++ t) = some u
  /-- What it has done when it gives the lock back is of the kind. -/
  released : ∀ t₀ t y u, Untouched lock f t₀ → After x (t ++ [.asked (.release lock) ()]) y →
    since lock (t₀ ++ t) = some u → D u
  /-- In the end there is nothing that another one must not see. -/
  untouched : ∀ t₀ t a, Untouched lock f t₀ → Run x t a → Untouched lock f (t₀ ++ t)

/-- What changes nothing has nothing to hide. -/
theorem sections_of_leaves {x : Action σ α} (hD : ∀ u, (∀ d ∈ u, d.Leaves f) → D u)
    (h : x.Obeys p q) (hq : ∀ s s', q s s' → f s' = f s) : x.Sections lock f D where
  guarded := fun _ _ d _ _ hafter hd =>
    absurd (leaves_of_after h hq hafter d (List.mem_append_right _ (List.mem_singleton.2 rfl))) hd
  released := fun _ _ _ u ht₀ hafter hu =>
    hD u (ht₀.append (fun d hd => leaves_of_after h hq hafter d (List.mem_append_left _ hd)) u hu)
  untouched := fun _ _ _ ht₀ hrun => ht₀.append (leaves_of_after h hq hrun)

theorem Sections.bind {x : Action σ α} {g : α → Action σ β} (hx : x.Sections lock f D)
    (hg : ∀ a, (g a).Sections lock f D) : (x >>= g).Sections lock f D where
  guarded := by
    intro t₀ t d y ht₀ hafter hd
    obtain ⟨z, hz⟩ | ⟨t₁, t₂, a, rfl, hrun, hrest⟩ := after_bind_snoc hafter
    · exact hx.guarded t₀ t d z ht₀ hz hd
    · rw [← List.append_assoc]
      exact (hg a).guarded _ t₂ d y (hx.untouched t₀ t₁ a ht₀ hrun) hrest hd
  released := by
    intro t₀ t y u ht₀ hafter hu
    obtain ⟨z, hz⟩ | ⟨t₁, t₂, a, rfl, hrun, hrest⟩ := after_bind_snoc hafter
    · exact hx.released t₀ t z u ht₀ hz hu
    · rw [← List.append_assoc] at hu
      exact (hg a).released _ t₂ y u (hx.untouched t₀ t₁ a ht₀ hrun) hrest hu
  untouched := by
    intro t₀ t b ht₀ hrun
    obtain ⟨t₁, t₂, a, rfl, hrun, hrest⟩ := run_bind_iff.1 hrun
    rw [← List.append_assoc]
    exact (hg a).untouched _ t₂ b (hx.untouched t₀ t₁ a ht₀ hrun) hrest

/-- **What is done under the lock** is of the kind as a whole. -/
theorem sections_withLock {body : Action σ α} (hbody : body.Obeys Request.KeepsLocks q)
    (hD : ∀ u a, Run body u a → D u) : (withLock lock body).Sections lock f D := by
  -- a history is the lock taken, a part of the body, and the lock given back
  have hshape : ∀ {t d y}, After (withLock lock body) (t ++ [d]) y →
      t = [] ∧ d = .asked (.acquire lock) () ∨
        (∃ u, t = .asked (.acquire lock) () :: u ∧ d.Spares lock ∧ ∀ e ∈ u, e.Spares lock) ∨
          ∃ u a, t = .asked (.acquire lock) () :: u ∧ d = .asked (.release lock) () ∧
            Run body u a := by
    intro t d y hafter
    obtain ⟨z, hz⟩ | ⟨t₁, t₂, _, rfl, hacquire, hrest⟩ := after_bind_snoc hafter
    · cases t with
      | nil =>
        cases hz with
        | ask reply rest => exact .inl ⟨rfl, rfl⟩
      | cons e t =>
        cases hz with
        | ask reply rest => exact absurd rest not_after_done_snoc
    obtain rfl := run_request_iff.1 hacquire
    refine .inr ?_
    obtain ⟨z, hz⟩ | ⟨u, t₃, a, rfl, hrun, hrest⟩ := after_bind_snoc hrest
    · have hspares : ∀ e ∈ t₂ ++ [d], e.Spares lock := spares_of_after hbody hz
      exact .inl ⟨t₂, rfl, hspares d (by simp), fun e he => hspares e (by simp [he])⟩
    · obtain ⟨z, hz⟩ | ⟨t₄, t₅, _, rfl, hrelease, hdone⟩ := after_bind_snoc hrest
      · cases t₃ with
        | nil =>
          cases hz with
          | ask reply rest => exact .inr ⟨u, a, by simp, rfl, hrun⟩
        | cons e t =>
          cases hz with
          | ask reply rest => exact absurd rest not_after_done_snoc
      · exact absurd hdone not_after_done_snoc
  have hsince : ∀ {t₀ u : List (Deed σ)}, (∀ e ∈ u, e.Spares lock) →
      since lock (t₀ ++ .asked (.acquire lock) () :: u) = some u := fun hu =>
    since_append_of_some (since_cons_acquire hu)
  constructor
  case guarded =>
    intro t₀ t d y _ hafter hd
    obtain ⟨rfl, rfl⟩ | ⟨u, rfl, -, hspares⟩ | ⟨u, a, rfl, rfl, -⟩ := hshape hafter
    · exact absurd trivial hd
    · exact ⟨u, hsince hspares⟩
    · exact absurd trivial hd
  case released =>
    intro t₀ t y u _ hafter hu
    obtain ⟨rfl, heq⟩ | ⟨v, rfl, hd, -⟩ | ⟨v, a, rfl, -, hrun⟩ := hshape hafter
    · cases heq
    · exact absurd rfl hd
    · rw [hsince (spares_of_after hbody hrun)] at hu
      exact Option.some.inj hu ▸ hD v a hrun
  case untouched =>
    intro t₀ t a _ hrun
    obtain ⟨u, rfl, -⟩ := run_withLock_iff.1 hrun
    rw [← List.append_assoc]
    exact untouched_of_none (since_snoc_release _)

end Action

/-! ## Systems -/

namespace System

open NetUnits.Action NetUnits.Deed

variable {σ τ : Type} {answers : Answers} {sys₀ sys sys' : System σ} {s : σ}
  {threads : List (Action σ Unit)} {lock : Lock} {f : σ → τ} {D : List (Deed σ) → Prop}
  {p : Request → Prop} {q : σ → σ → Prop} {i : Nat} {t u : List (Deed σ)} {d : Deed σ} {v : τ}

/-- **The moment of a deed**: all that a thread has done was done in some step, after what it had
done before. -/
theorem Reaches.exists_moment (h : Reaches answers sys sys')
    (hpast : sys'.scene.pastOf i = sys.scene.pastOf i ++ t ++ d :: u) :
    ∃ sys₁ sys₂, Reaches answers sys sys₁ ∧ Step answers i sys₁ sys₂ ∧
      Reaches answers sys₂ sys' ∧ sys₁.scene.May answers i d ∧
      sys₂.scene = sys₁.scene.after i d ∧ sys₁.scene.pastOf i = sys.scene.pastOf i ++ t := by
  induction h generalizing u with
  | refl => simp at hpast
  | tail hreach hstep ih =>
    rename_i sys₁ sys₂
    obtain ⟨j, hstep⟩ := hstep
    have hstep' := hstep
    obtain @⟨_, _, e, _, -, -, hmay⟩ := hstep'
    by_cases hji : j = i
    · subst hji
      rw [Scene.pastOf_after_self] at hpast
      obtain rfl | ⟨u, e', rfl⟩ := u.eq_nil_or_concat
      · obtain ⟨hold, he⟩ := List.append_inj' hpast rfl
        obtain rfl := List.singleton_inj.1 he
        exact ⟨sys₁, _, hreach, hstep, .refl, hmay, rfl, hold⟩
      · rw [List.concat_eq_append, ← List.cons_append, ← List.append_assoc] at hpast
        obtain ⟨a, b, ha, hab, hb, hrest⟩ := ih (List.append_inj' hpast rfl).1
        exact ⟨a, b, ha, hab, hb.tail ⟨j, hstep⟩, hrest⟩
    · rw [Scene.pastOf_after_of_ne hji] at hpast
      obtain ⟨a, b, ha, hab, hb, hrest⟩ := ih hpast
      exact ⟨a, b, ha, hab, hb.tail ⟨j, hstep⟩, hrest⟩

/-- What a thread has done is a beginning of what it will have done. -/
theorem Reaches.exists_pastOf (h : Reaches answers sys sys') (i : Nat) :
    ∃ t, sys'.scene.pastOf i = sys.scene.pastOf i ++ t := by
  induction h with
  | refl => exact ⟨[], (List.append_nil _).symm⟩
  | tail _ hstep ih =>
    obtain ⟨j, @⟨x, y, d, started, -, -, -⟩⟩ := hstep
    obtain ⟨t, ht⟩ := ih
    by_cases hji : j = i
    · subst hji
      exact ⟨t ++ [d], by rw [Scene.pastOf_after_self, ht, List.append_assoc]⟩
    · exact ⟨t, by rw [Scene.pastOf_after_of_ne hji, ht]⟩

/-- All threads of a system change what a lock guards in sections. -/
theorem Reaches.exists_sections (h : Reaches answers (start s threads) sys)
    (hD : ∀ u, (∀ d ∈ u, d.Leaves f) → D u)
    (hthreads : ∀ x ∈ threads, x.Sections lock f D ∧ x.Starts (·.Obeys p q))
    (hq : ∀ s s', q s s' → f s' = f s) (hd : d ∈ sys.scene.pastOf i) :
    ∃ (x y : Action σ Unit), x.Sections lock f D ∧ After x (sys.scene.pastOf i) y := by
  have hlt := (h.isProper (isProper_start s threads)).1 i d (Scene.mem_pastOf_iff.1 hd)
  obtain ⟨x, hx | hx, hafter⟩ := h.exists_origin (fun x hx => (hthreads x hx).2)
    (List.getElem?_eq_getElem hlt)
  · exact ⟨x, _, (hthreads x (List.mem_of_getElem? hx)).1, hafter⟩
  · exact ⟨x, _, sections_of_leaves hD hx hq, hafter⟩

/-- **In a system of sections the lock guards** what is read from the state. -/
theorem Reaches.guards (h : Reaches answers (start s threads) sys)
    (hD : ∀ u, (∀ d ∈ u, d.Leaves f) → D u)
    (hthreads : ∀ x ∈ threads, x.Sections lock f D ∧ x.Starts (·.Obeys p q))
    (hq : ∀ s s', q s s' → f s' = f s) : Guards lock f sys := by
  intro i t d u hpast hd
  obtain ⟨x, y, hx, hafter⟩ := h.exists_sections hD hthreads hq (i := i) (d := d) (by simp [hpast])
  rw [hpast, List.append_cons] at hafter
  obtain ⟨z, hz, -⟩ := after_append_iff.1 hafter
  exact hx.guarded [] t d z (untouched_of_none since_nil) hz hd

/-- **What is done until the lock is given back** is of the kind. -/
theorem Reaches.released (h : Reaches answers (start s threads) sys)
    (hD : ∀ u, (∀ d ∈ u, d.Leaves f) → D u)
    (hthreads : ∀ x ∈ threads, x.Sections lock f D ∧ x.Starts (·.Obeys p q))
    (hq : ∀ s s', q s s' → f s' = f s) {v : List (Deed σ)}
    (hpast : sys.scene.pastOf i = t ++ .asked (.release lock) () :: u)
    (hv : since lock t = some v) : D v := by
  obtain ⟨x, y, hx, hafter⟩ := h.exists_sections hD hthreads hq (i := i)
    (d := .asked (.release lock) ()) (by simp [hpast])
  rw [hpast, List.append_cons] at hafter
  obtain ⟨z, hz, -⟩ := after_append_iff.1 hafter
  exact hx.released [] t z v (untouched_of_none since_nil) hz hv

/-- **What a lock has settled**: what is there while the lock is free, and what was there when the
lock was taken while it is held. -/
def Settled (lock : Lock) (f : σ → τ) (sys : System σ) (v : τ) : Prop :=
  sys.scene.holder lock = none ∧ v = f sys.scene.state ∨
    ∃ i u, since lock (sys.scene.pastOf i) = some u ∧ Passes f v u (f sys.scene.state)

/-- While a lock is free no thread has done anything under it. -/
theorem Reaches.since_eq_none (hreach : Reaches answers (start s threads) sys)
    (hfree : sys.scene.holder lock = none) (i : Nat) : since lock (sys.scene.pastOf i) = none := by
  cases hsince : since lock (sys.scene.pastOf i) with
  | none => rfl
  | some u => cases hfree.symm.trans (hreach.holder_eq_some_iff.2 ⟨u, hsince⟩)

/-- A deed that does nothing with the lock settles nothing. -/
theorem settled_of_spares (hreach : Reaches answers (start s threads) sys)
    (hguards : Guards lock f sys') (hscene : sys'.scene = sys.scene.after i d)
    (hmay : sys.scene.May answers i d) (hd : d.Spares lock)
    (h : Settled lock f sys' v) : Settled lock f sys v := by
  rw [Settled, hscene] at h
  have hholder : (sys.scene.after i d).holder lock = sys.scene.holder lock :=
    holderAfter_of_spares hd i _
  -- who changes it holds the lock
  have hsame : (sys.scene.holder lock ≠ some i) →
      f (sys.scene.after i d).state = f sys.scene.state := by
    intro hother
    have hleaves : d.Leaves f := by
      by_contra hd
      refine hother (hreach.holder_eq_some_iff.2 (hguards i _ d [] ?_ hd))
      rw [hscene, Scene.pastOf_after_self]
    exact (passes_after hmay).eq_of_leaves fun e he => List.mem_singleton.1 he ▸ hleaves
  obtain ⟨hfree, rfl⟩ | ⟨j, u, hu, hpasses⟩ := h
  · rw [hholder] at hfree
    exact .inl ⟨hfree, hsame (by simp [hfree])⟩
  · refine .inr ⟨j, ?_⟩
    by_cases hij : i = j
    · subst hij
      rw [Scene.pastOf_after_self] at hu
      obtain ⟨rfl, -⟩ | ⟨-, w, hw, rfl⟩ := since_snoc_eq_some hu
      · exact absurd rfl hd
      · obtain ⟨v', hv, hlast⟩ := passes_append_iff.1 hpasses
        refine ⟨w, hw, ?_⟩
        cases d with
        | changed a b =>
          obtain rfl : a = sys.scene.state := hmay
          obtain ⟨rfl, -⟩ := passes_singleton_iff.1 hlast
          exact hv
        | asked | forked =>
          obtain rfl : f sys.scene.state = v' := hlast
          exact hv
    · rw [Scene.pastOf_after_of_ne hij] at hu
      have hheld := hreach.holder_eq_some_iff.2 ⟨u, hu⟩
      rw [hsame fun h => hij (Option.some.inj (h.symm.trans hheld))] at hpasses
      exact ⟨u, hu, hpasses⟩

/-- What is there when a lock is taken was settled. -/
theorem settled_of_acquire (hreach : Reaches answers (start s threads) sys)
    (hscene : sys'.scene = sys.scene.after i (.asked (.acquire lock) ()))
    (hmay : sys.scene.May answers i (.asked (.acquire lock) ()))
    (h : Settled lock f sys' v) : Settled lock f sys v := by
  rw [Settled, hscene] at h
  have hfree : sys.scene.holder lock = none := hmay.1
  obtain ⟨hnone, -⟩ | ⟨j, u, hu, hpasses⟩ := h
  · simp [Scene.holder_after_acquire] at hnone
  · refine .inl ⟨hfree, ?_⟩
    by_cases hij : i = j
    · subst hij
      rw [Scene.pastOf_after_self, since_snoc_acquire] at hu
      obtain rfl := Option.some.inj hu
      exact hpasses.symm
    · rw [Scene.pastOf_after_of_ne hij] at hu
      cases hu.symm.trans (hreach.since_eq_none hfree j)

/-- What is settled while a lock is free is what is there. -/
theorem Settled.eq_of_free (h : Settled lock f sys v)
    (hreach : Reaches answers (start s threads) sys) (hfree : sys.scene.holder lock = none) :
    v = f sys.scene.state := by
  obtain ⟨-, rfl⟩ | ⟨j, u, hu, -⟩ := h
  · rfl
  · cases hu.symm.trans (hreach.since_eq_none hfree j)

/-- **A property of what a lock has settled is kept** if it is kept where the lock is given back,
and does not end otherwise. -/
theorem Reaches.keeps_settled (hstart : Reaches answers (start s threads) sys₀)
    (h : Reaches answers sys₀ sys) (hD : ∀ u, (∀ d ∈ u, d.Leaves f) → D u)
    (hthreads : ∀ x ∈ threads, x.Sections lock f D ∧ x.Starts (·.Obeys p q))
    (hq : ∀ s s', q s s' → f s' = f s) {K : System σ → τ → Prop}
    (hfirst : ∀ v, Settled lock f sys₀ v → K sys₀ v)
    (hlast : ∀ sys₁ sys₂ v, Reaches answers sys₁ sys₂ → K sys₁ v → K sys₂ v)
    (hchange : ∀ sys₁ sys₂ i u v, Reaches answers sys₀ sys₁ → Reaches answers sys₁ sys₂ →
      sys₂.scene = sys₁.scene.after i (.asked (.release lock) ()) →
      since lock (sys₁.scene.pastOf i) = some u → D u → Passes f v u (f sys₁.scene.state) →
        K sys₁ v → K sys₂ (f sys₁.scene.state)) (hv : Settled lock f sys v) :
    K sys v := by
  induction h generalizing v with
  | refl => exact hfirst v hv
  | tail hreach hstep ih =>
    rename_i sys₁ sys₂
    have hreach₁ : Reaches answers (start s threads) sys₁ := hstart.trans hreach
    have hreach₂ : Reaches answers (start s threads) sys₂ := hreach₁.tail hstep
    have hguards := hreach₂.guards hD hthreads hq
    have hsteps : Reaches answers sys₁ sys₂ := .single hstep
    obtain ⟨j, @⟨x, y, d, started, -, -, hmay⟩⟩ := hstep
    obtain hd | rfl | rfl := spares_or lock d
    · exact hlast _ _ _ hsteps (ih (settled_of_spares hreach₁ hguards rfl hmay hd hv))
    · exact hlast _ _ _ hsteps (ih (settled_of_acquire hreach₁ rfl hmay hv))
    · have hfree : (sys₁.scene.after j (.asked (.release lock) ())).holder lock = none := by simp
      obtain rfl := hv.eq_of_free hreach₂ hfree
      -- what was settled before is what the thread has found
      obtain ⟨u, hu⟩ := hreach₁.holder_eq_some_iff.1 hmay.1
      obtain ⟨v, hpasses⟩ := hreach₁.passes_since (hreach₁.guards hD hthreads hq) hu
      have hDu := hreach₂.released hD hthreads hq (u := []) Scene.pastOf_after_self hu
      exact hchange sys₁ _ j u v hreach hsteps rfl hu hDu hpasses (ih (.inr ⟨j, u, hu, hpasses⟩))

end System

end NetUnits
