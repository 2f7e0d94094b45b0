import NetUnits.Proofs.Action.Orderly
import NetUnits.Proofs.Action.Passing

/-! # What is done under a lock

A thread that takes a lock holds it until it gives it back. Meanwhile nobody else changes what may
be changed only by who holds the lock, so the thread passes it on as if it were alone.

* **`Deed.since`** — what a thread has done since it took a lock that it still holds.
* **`System.Reaches.holder_eq_some_iff`** — a thread holds the locks that it has not given back.
* **`System.Guards`** — only who holds a lock changes what is read from the state;
  **`System.Reaches.passes_since`** — such a thread passes it on. -/

namespace NetUnits

/-! ## Histories -/

namespace Deed

variable {σ : Type} {lock : Lock} {t u v : List (Deed σ)} {d : Deed σ}

/-- A deed neither takes a lock nor gives it back. -/
def Spares (lock : Lock) : Deed σ → Prop
  | asked (.acquire l) _ | asked (.release l) _ => l ≠ lock
  | _ => True

theorem spares_or (lock : Lock) (d : Deed σ) :
    d.Spares lock ∨ d = .asked (.acquire lock) () ∨ d = .asked (.release lock) () := by
  by_cases hd : d.Spares lock
  · exact .inl hd
  · unfold Spares at hd
    split at hd
    · exact .inr (.inl (not_not.1 hd ▸ rfl))
    · exact .inr (.inr (not_not.1 hd ▸ rfl))
    · exact absurd trivial hd

theorem holderAfter_of_spares (h : d.Spares lock) (i : Nat) (holder : Lock → Option Nat) :
    d.holderAfter i holder lock = holder lock := by
  unfold Deed.holderAfter
  split
  · exact Function.update_of_ne (Ne.symm h) _ _
  · exact Function.update_of_ne (Ne.symm h) _ _
  · rfl

/-- What was done since a lock was taken, after one more deed. -/
def sinceAfter (lock : Lock) (u : Option (List (Deed σ))) (d : Deed σ) : Option (List (Deed σ)) :=
  match d with
  | asked (.acquire l) _ => if l = lock then some [] else u.map (· ++ [d])
  | asked (.release l) _ => if l = lock then none else u.map (· ++ [d])
  | d => u.map (· ++ [d])

/-- **What was done since a lock was taken**, if it is still held after a history. -/
def since (lock : Lock) (t : List (Deed σ)) : Option (List (Deed σ)) :=
  t.foldl (sinceAfter lock) none

@[simp] theorem since_nil : since lock ([] : List (Deed σ)) = none := rfl

theorem since_snoc (t : List (Deed σ)) (d : Deed σ) :
    since lock (t ++ [d]) = sinceAfter lock (since lock t) d :=
  List.foldl_append

@[simp] theorem since_snoc_acquire (t : List (Deed σ)) {reply : Unit} :
    since lock (t ++ [.asked (.acquire lock) reply]) = some [] := by
  rw [since_snoc, sinceAfter, if_pos rfl]

@[simp] theorem since_snoc_release (t : List (Deed σ)) {reply : Unit} :
    since lock (t ++ [.asked (.release lock) reply]) = none := by
  rw [since_snoc, sinceAfter, if_pos rfl]

theorem sinceAfter_of_spares (h : d.Spares lock) (u : Option (List (Deed σ))) :
    sinceAfter lock u d = u.map (· ++ [d]) := by
  unfold sinceAfter
  split
  · exact if_neg h
  · exact if_neg h
  · rfl

theorem since_append_of_spares (h : ∀ d ∈ u, d.Spares lock) :
    since lock (t ++ u) = (since lock t).map (· ++ u) := by
  induction u using List.reverseRecOn with
  | nil => simp
  | append_singleton u d ih =>
    obtain ⟨hu, hd⟩ := List.forall_mem_append.1 h
    rw [← List.append_assoc, since_snoc, ih hu, sinceAfter_of_spares (hd d (by simp)),
      Option.map_map]
    congr 1
    funext v
    exact List.append_assoc v u [d]

theorem since_cons_acquire {reply : Unit} (h : ∀ d ∈ u, d.Spares lock) :
    since lock (.asked (.acquire lock) reply :: u) = some u := by
  have hsplit := since_append_of_spares (t := [.asked (.acquire lock) reply]) h
  rw [List.singleton_append] at hsplit
  rw [hsplit, ← List.nil_append [Deed.asked (.acquire lock) reply], since_snoc_acquire]
  rfl

/-- What happened before a history matters only where the lock is neither taken nor given back. -/
theorem since_append_of_none (h : since lock t = none) : since lock (t ++ u) = since lock u := by
  rw [since, List.foldl_append]
  change u.foldl (sinceAfter lock) (since lock t) = _
  rw [h]
  rfl

/-- A lock that is held after a deed was taken by it, or held before. -/
theorem since_snoc_eq_some (h : since lock (t ++ [d]) = some u) :
    d = .asked (.acquire lock) () ∧ u = [] ∨
      d.Spares lock ∧ ∃ v, since lock t = some v ∧ u = v ++ [d] := by
  obtain hd | rfl | rfl := spares_or lock d
  · rw [since_snoc, sinceAfter_of_spares hd] at h
    obtain ⟨v, hv, rfl⟩ := Option.map_eq_some_iff.1 h
    exact .inr ⟨hd, v, hv, rfl⟩
  · rw [since_snoc_acquire] at h
    exact .inl ⟨rfl, (Option.some.inj h).symm⟩
  · rw [since_snoc_release] at h
    cases h

/-- **What was done since a lock was taken** comes after taking it, and spares the lock. -/
theorem exists_of_since (h : since lock t = some u) :
    ∃ t₀, t = t₀ ++ .asked (.acquire lock) () :: u ∧ ∀ d ∈ u, d.Spares lock := by
  induction t using List.reverseRecOn generalizing u with
  | nil => cases h
  | append_singleton t d ih =>
    obtain ⟨rfl, rfl⟩ | ⟨hd, v, hv, rfl⟩ := since_snoc_eq_some h
    · exact ⟨t, rfl, by simp⟩
    · obtain ⟨t₀, rfl, hspares⟩ := ih hv
      exact ⟨t₀, by simp, List.forall_mem_append.2 ⟨hspares, by simpa using hd⟩⟩

theorem since_append_of_some (h : since lock u = some v) : since lock (t ++ u) = some v := by
  obtain ⟨u₀, rfl, hspares⟩ := exists_of_since h
  rw [List.append_cons, ← List.append_assoc, ← List.append_assoc,
    since_append_of_spares hspares, since_snoc_acquire]
  rfl

/-- Requests that have nothing to do with locks spare them all. -/
theorem spares_of_obeys {q : σ → σ → Prop} (h : d.Obeys Request.KeepsLocks q) : d.Spares lock := by
  unfold Spares
  split
  · rename_i l reply
    simpa [Request.held?] using (h : Request.KeepsLocks (.acquire l)) []
  · rename_i l reply
    simpa [Request.held?] using (h : Request.KeepsLocks (.release l)) []
  · trivial

theorem spares_of_after {α : Type} {x y : Action σ α} {q : σ → σ → Prop}
    (hx : x.Obeys Request.KeepsLocks q) (hafter : Action.After x t y) :
    ∀ d ∈ t, d.Spares lock :=
  fun d hd => spares_of_obeys ((hx.of_after hafter).1 d hd)

end Deed

/-! ## Systems -/

namespace System

open NetUnits.Action NetUnits.Deed

variable {σ τ : Type} {answers : Answers} {sys sys' : System σ} {s : σ}
  {threads : List (Action σ Unit)} {f : σ → τ} {lock : Lock} {i j : Nat} {t u : List (Deed σ)}

/-- **A thread holds the locks that it has taken and not given back.** -/
theorem Reaches.holder_eq_some_iff (h : Reaches answers (start s threads) sys) :
    sys.scene.holder lock = some i ↔ ∃ u, since lock (sys.scene.pastOf i) = some u := by
  induction h with
  | refl => exact iff_of_false (fun h => nomatch h) fun ⟨_, h⟩ => nomatch h
  | tail _ hstep ih =>
    obtain ⟨j, @⟨x, y, d, started, -, -, hmay⟩⟩ := hstep
    by_cases hji : j = i
    · subst hji
      rw [Scene.pastOf_after_self]
      obtain hd | rfl | rfl := spares_or lock d
      · have hsame := holderAfter_of_spares hd j
        rw [since_snoc, sinceAfter_of_spares hd]
        change d.holderAfter j _ lock = some j ↔ _
        rw [hsame, ih]
        simp
      · simp
      · simp
    · rw [Scene.pastOf_after_of_ne hji, ← ih]
      exact ⟨fun hlock => Scene.holder_after_eq_some hlock hji, Scene.holder_after_of_ne hmay hji⟩

/-- **A lock guards what is read from the state**: only who holds it has changed that. -/
def Guards (lock : Lock) (f : σ → τ) (sys : System σ) : Prop :=
  ∀ i t d u, sys.scene.pastOf i = t ++ d :: u → ¬ d.Leaves f → ∃ v, since lock t = some v

theorem Guards.of_step (h : Guards lock f sys') (hstep : Step answers i sys sys') :
    Guards lock f sys := by
  obtain @⟨x, y, e, started, -, -, -⟩ := hstep
  intro j t d u hpast hd
  by_cases hij : i = j
  · subst hij
    refine h i t d (u ++ [e]) ?_ hd
    rw [Scene.pastOf_after_self, hpast, List.append_assoc, List.cons_append]
  · refine h j t d u ?_ hd
    rw [Scene.pastOf_after_of_ne hij, hpast]

/-- **A thread that holds a lock passes on what the lock guards**, whatever the others do. -/
theorem Reaches.passes_since (h : Reaches answers (start s threads) sys)
    (hguards : Guards lock f sys) (hu : since lock (sys.scene.pastOf i) = some u) :
    ∃ v, Passes f v u (f sys.scene.state) := by
  induction h generalizing u with
  | refl => cases hu
  | tail hreach hstep ih =>
    rename_i sys₁ sys₂
    obtain ⟨j, hstep⟩ := hstep
    have hguards₁ := hguards.of_step hstep
    obtain @⟨x, y, d, started, -, -, hmay⟩ := hstep
    by_cases hji : j = i
    · subst hji
      rw [Scene.pastOf_after_self] at hu
      obtain ⟨-, rfl⟩ | ⟨-, w, hw, rfl⟩ := since_snoc_eq_some hu
      · exact ⟨_, rfl⟩
      · obtain ⟨v, hv⟩ := ih hguards₁ hw
        exact ⟨v, passes_append_iff.2 ⟨_, hv, passes_after hmay⟩⟩
    · rw [Scene.pastOf_after_of_ne hji] at hu
      obtain ⟨v, hv⟩ := ih hguards₁ hu
      -- another thread that changed it would hold the lock
      have hleaves : d.Leaves f := by
        by_contra hd
        have hj := hguards j _ d [] Scene.pastOf_after_self hd
        have hholder := (Reaches.holder_eq_some_iff hreach).2 hj
        have hholder' := (Reaches.holder_eq_some_iff hreach).2 ⟨u, hu⟩
        exact hji (Option.some.inj (hholder.symm.trans hholder'))
      have hsame := (passes_after (f := f) hmay).eq_of_leaves fun e he =>
        List.mem_singleton.1 he ▸ hleaves
      exact ⟨v, hsame ▸ hv⟩

end System

end NetUnits
