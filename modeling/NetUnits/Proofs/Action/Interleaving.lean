import Mathlib.Logic.Hydra
import Mathlib.Logic.Relation
import Mathlib.Tactic.Abel
import NetUnits.Proofs.Action.History

/-! # Actions beside each other

Several actions go on beside each other as **threads** that share a state. At each moment one of
them does the next thing: nobody knows which one, and what the others do comes between any two
deeds of a thread.

* **`Scene`** — the state, who holds the locks, and all that was done so far; **`Scene.May`** what
  a thread may do there.
* **`System.Step`** — one thread goes on; **`System.Reaches`** — any number of them do, in any
  order.
* **`System.Reaches.exists_after`** — the deeds of a thread are a history of it.
* **`System.Reaches.exists_step`** — all that was done was done in some scene on the way.
* **`System.wellFounded_step`** — no system goes on for ever. -/

namespace NetUnits

/-! ## Scenes -/

/-- **The replies** that surroundings may give to the requests of each thread. -/
abbrev Answers : Type := Nat → (r : Request) → r.Reply → Prop

/-- **What threads find**: the state that they share, who holds each lock, and all that was done so
far, with who did it. -/
structure Scene (σ : Type) where
  /-- The shared state. -/
  state : σ
  /-- The thread that holds a lock. -/
  holder : Lock → Option Nat := fun _ => none
  /-- All that was done so far, in order. -/
  past : List (Nat × Deed σ) := []

section Scene

variable {σ : Type}

/-- The state after a deed. -/
def Deed.stateAfter (s : σ) : Deed σ → σ
  | changed _ after => after
  | _ => s

/-- Who holds the locks after a deed of a thread. -/
def Deed.holderAfter (i : Nat) (holder : Lock → Option Nat) : Deed σ → Lock → Option Nat
  | asked (.acquire lock) _ => Function.update holder lock (some i)
  | asked (.release lock) _ => Function.update holder lock none
  | _ => holder

namespace Scene

variable {answers : Answers} {c : Scene σ} {i j : Nat} {d : Deed σ} {lock : Lock}

/-- The scene after a deed of a thread. -/
def after (c : Scene σ) (i : Nat) (d : Deed σ) : Scene σ where
  state := d.stateAfter c.state
  holder := d.holderAfter i c.holder
  past := c.past ++ [(i, d)]

/-- The locks allow a request of a thread: it takes only free ones and gives back only its own. -/
def Grants (holder : Lock → Option Nat) (i : Nat) : Request → Prop
  | .acquire lock => holder lock = none
  | .release lock => holder lock = some i
  | _ => True

/-- **What a thread may do**: it makes requests that the locks allow, gets replies of the
surroundings, and changes the state as it is. -/
def May (answers : Answers) (c : Scene σ) (i : Nat) : Deed σ → Prop
  | .asked r reply => Grants c.holder i r ∧ answers i r reply
  | .changed before _ => before = c.state
  | .forked => True

/-- What a thread has done. -/
def pastOf (c : Scene σ) (i : Nat) : List (Deed σ) :=
  c.past.filterMap fun p => if p.1 = i then some p.2 else none

@[simp] theorem past_after : (c.after i d).past = c.past ++ [(i, d)] := rfl

@[simp] theorem state_after_asked {r : Request} {reply : r.Reply} :
    (c.after i (.asked r reply)).state = c.state := rfl

@[simp] theorem state_after_changed {s s' : σ} : (c.after i (.changed s s')).state = s' := rfl

@[simp] theorem state_after_forked : (c.after i .forked).state = c.state := rfl

@[simp] theorem holder_after_changed {s s' : σ} :
    (c.after i (.changed s s')).holder = c.holder := rfl

@[simp] theorem holder_after_forked : (c.after i .forked).holder = c.holder := rfl

@[simp] theorem holder_after_acquire {reply : Unit} :
    (c.after i (.asked (.acquire lock) reply)).holder =
      Function.update c.holder lock (some i) :=
  rfl

@[simp] theorem holder_after_release {reply : Unit} :
    (c.after i (.asked (.release lock) reply)).holder = Function.update c.holder lock none :=
  rfl

theorem pastOf_after_self : (c.after i d).pastOf i = c.pastOf i ++ [d] := by
  simp [pastOf]

theorem pastOf_after_of_ne (h : j ≠ i) : (c.after j d).pastOf i = c.pastOf i := by
  simp [pastOf, h]

theorem mem_pastOf_iff : d ∈ c.pastOf i ↔ (i, d) ∈ c.past := by
  simp only [pastOf, List.mem_filterMap, Prod.exists]
  constructor
  · rintro ⟨j, e, hmem, h⟩
    obtain ⟨rfl, rfl⟩ : j = i ∧ e = d := by simpa using h
    exact hmem
  · exact fun hmem => ⟨i, d, hmem, if_pos rfl⟩

/-- **Only its holder gives a lock back.** -/
theorem holder_after_of_ne (hmay : c.May answers j d) (h : j ≠ i) (hlock : c.holder lock = some i) :
    (c.after j d).holder lock = some i := by
  change d.holderAfter j c.holder lock = some i
  unfold Deed.holderAfter
  split
  · rename_i l _
    have hfree : c.holder l = none := hmay.1
    rwa [Function.update_of_ne (by rintro rfl; simp [hfree] at hlock)]
  · rename_i l _
    have hheld : c.holder l = some j := hmay.1
    rwa [Function.update_of_ne (by rintro rfl; simp [hheld, h] at hlock)]
  · exact hlock

/-- **Only a free lock is taken**, and only by the thread that acts. -/
theorem holder_after_eq_some (hholder : (c.after j d).holder lock = some i) (h : j ≠ i) :
    c.holder lock = some i := by
  change d.holderAfter j c.holder lock = some i at hholder
  unfold Deed.holderAfter at hholder
  split at hholder
  · rename_i l _
    by_cases hl : lock = l
    · subst hl
      simp [h] at hholder
    · rwa [Function.update_of_ne hl] at hholder
  · rename_i l _
    by_cases hl : lock = l
    · subst hl
      simp at hholder
    · rwa [Function.update_of_ne hl] at hholder
  · exact hholder

/-- **A thread that is not there yet** has done nothing and holds nothing. -/
structure IsNew (c : Scene σ) (i : Nat) : Prop where
  /-- It has done nothing. -/
  pastOf_eq_nil : c.pastOf i = []
  /-- It holds nothing. -/
  holder_ne : ∀ lock, c.holder lock ≠ some i

theorem IsNew.after (h : c.IsNew i) (hj : j ≠ i) : (c.after j d).IsNew i where
  pastOf_eq_nil := by rw [pastOf_after_of_ne hj, h.pastOf_eq_nil]
  holder_ne := fun lock hlock => h.holder_ne lock (holder_after_eq_some hlock hj)

end Scene

end Scene

/-! ## Next deeds -/

namespace Action

variable {σ α β : Type}

/-- **What an action does next**: a deed, the actions that go on beside it from then on, and what is
left of it. -/
inductive Next {σ : Type} : {α : Type} → Action σ α → Deed σ → List (Action σ Unit) →
    Action σ α → Prop where
  /-- A request is made. -/
  | ask {α : Type} {r : Request} {k : r.Reply → Action σ α} (reply : r.Reply) :
    Next (ask r k) (.asked r reply) [] (k reply)
  /-- The state is changed. -/
  | atomic {α : Type} {u : σ → σ} {k : σ → Action σ α} (s : σ) :
    Next (atomic u k) (.changed s (u s)) [] (k s)
  /-- Another action goes on beside what follows. -/
  | fork {α : Type} {other : Action σ Unit} {next : Action σ α} :
    Next (fork other next) .forked [other] next

variable {x y z : Action σ α} {d : Deed σ} {t : List (Deed σ)} {started : List (Action σ Unit)}

theorem Next.after (h : x.Next d started y) : After x [d] y := by
  cases h with
  | ask reply => exact .ask reply (.start _)
  | atomic s => exact .atomic s (.start _)
  | fork => exact .fork (.start _)

/-- A history goes on with the next deed. -/
theorem After.snoc (h : After x t y) (hnext : y.Next d started z) : After x (t ++ [d]) z :=
  h.trans hnext.after

/-- An action comes straight from another one: it is left of it after a deed, or goes on beside it
from then on. -/
def Follows (y x : Action σ Unit) : Prop :=
  ∃ d started z, x.Next d started z ∧ (y = z ∨ y ∈ started)

/-- **No action goes on for ever**, and neither do those that it starts. -/
theorem wellFounded_follows : WellFounded (Follows : Action σ Unit → Action σ Unit → Prop) := by
  -- the induction is over actions with any result, so the result is forgotten in the end
  have hacc : ∀ {α : Type} (x : Action σ α), Acc Follows (x >>= fun _ => done ()) := by
    intro α x
    induction x with
    | done a =>
      refine ⟨_, ?_⟩
      rintro y ⟨d, started, z, hnext, -⟩
      exact nomatch hnext
    | ask r k ih =>
      refine ⟨_, ?_⟩
      rintro y ⟨d, started, z, hnext, h⟩
      cases hnext with
      | ask reply => simpa using h.elim (· ▸ ih reply) (absurd · List.not_mem_nil)
    | atomic u k ih =>
      refine ⟨_, ?_⟩
      rintro y ⟨d, started, z, hnext, h⟩
      cases hnext with
      | atomic s => simpa using h.elim (· ▸ ih s) (absurd · List.not_mem_nil)
    | fork other next ihother ih =>
      refine ⟨_, ?_⟩
      rintro y ⟨d, started, z, hnext, h⟩
      cases hnext with
      | fork =>
        obtain rfl | h := h
        · exact ih
        · obtain rfl := List.mem_singleton.1 h
          rwa [show (fun _ : Unit => done ()) = (done : Unit → Action σ Unit) from rfl,
            bind_done] at ihother
  refine ⟨fun x => ?_⟩
  rw [← bind_done x]
  exact hacc x

/-- What an action that obeys rules starts obeys them too. -/
theorem Next.obeys {p : Request → Prop} {q : σ → σ → Prop} (hnext : x.Next d started y)
    (h : x.Obeys p q) : ∀ z ∈ started, z.Obeys p q := by
  cases hnext with
  | ask reply => simp
  | atomic s => simp
  | fork => simpa using h.1

end Action

/-! ## Systems -/

/-- **Threads and what they find.** -/
structure System (σ : Type) where
  /-- What they find. -/
  scene : Scene σ
  /-- What is left of each thread. -/
  threads : List (Action σ Unit)

namespace System

variable {σ : Type} {answers : Answers} {sys sys' sys₁ : System σ} {i : Nat}
  {x y : Action σ Unit}

/-- **Threads before they do anything**, with a state. -/
def start (s : σ) (threads : List (Action σ Unit)) : System σ where
  scene := { state := s }
  threads := threads

/-- **A thread goes on**: it does what is next and may be done. What it starts is a new thread. -/
inductive Step (answers : Answers) (i : Nat) (sys : System σ) : System σ → Prop where
  /-- A deed of the thread. -/
  | deed {x y : Action σ Unit} {d : Deed σ} {started : List (Action σ Unit)}
      (thread : sys.threads[i]? = some x) (next : x.Next d started y)
      (may : sys.scene.May answers i d) :
      Step answers i sys ⟨sys.scene.after i d, sys.threads.set i y ++ started⟩

/-- A thread makes a request. -/
theorem Step.ask {r : Request} {k : r.Reply → Action σ Unit} (reply : r.Reply)
    (hthread : sys.threads[i]? = some (.ask r k))
    (hmay : sys.scene.May answers i (.asked r reply)) :
    Step answers i sys ⟨sys.scene.after i (.asked r reply), sys.threads.set i (k reply)⟩ := by
  have hstep := Step.deed hthread (.ask reply) hmay
  rwa [List.append_nil] at hstep

/-- A thread changes the state. -/
theorem Step.atomic {u : σ → σ} {k : σ → Action σ Unit}
    (hthread : sys.threads[i]? = some (.atomic u k)) :
    Step answers i sys ⟨sys.scene.after i (.changed sys.scene.state (u sys.scene.state)),
      sys.threads.set i (k sys.scene.state)⟩ := by
  have hmay : sys.scene.May answers i (.changed sys.scene.state (u sys.scene.state)) := rfl
  have hstep := Step.deed hthread (.atomic sys.scene.state) hmay
  rwa [List.append_nil] at hstep

/-- **Threads go on**, in any order. -/
def Reaches (answers : Answers) : System σ → System σ → Prop :=
  Relation.ReflTransGen fun sys sys' => ∃ i, Step answers i sys sys'

theorem Step.reaches (h : Step answers i sys sys') : Reaches answers sys sys' :=
  .single ⟨i, h⟩

/-- What a step does to any thread. -/
theorem Step.exists_after (h : Step answers i sys sys') {j : Nat}
    (hget : sys.threads[j]? = some x) :
    ∃ t y, sys'.threads[j]? = some y ∧ sys'.scene.pastOf j = sys.scene.pastOf j ++ t ∧
      Action.After x t y := by
  obtain @⟨x', y', d, started, hthread, hnext, -⟩ := h
  have hlt : j < sys.threads.length := (List.getElem?_eq_some_iff.1 hget).1
  have hlt' : j < (sys.threads.set i y').length := by rwa [List.length_set]
  by_cases hij : i = j
  · subst hij
    obtain rfl : x' = x := Option.some.inj (hthread.symm.trans hget)
    refine ⟨[d], y', ?_, Scene.pastOf_after_self, hnext.after⟩
    rw [List.getElem?_append_left hlt', List.getElem?_set_self hlt]
  · refine ⟨[], x, ?_, ?_, .start _⟩
    · rwa [List.getElem?_append_left hlt', List.getElem?_set_ne hij]
    · rw [List.append_nil, Scene.pastOf_after_of_ne hij]

/-- **The deeds of a thread are a history of it.** -/
theorem Reaches.exists_after (h : Reaches answers sys sys') (hget : sys.threads[i]? = some x) :
    ∃ t y, sys'.threads[i]? = some y ∧ sys'.scene.pastOf i = sys.scene.pastOf i ++ t ∧
      Action.After x t y := by
  induction h with
  | refl => exact ⟨[], x, hget, (List.append_nil _).symm, .start _⟩
  | tail _ hstep ih =>
    obtain ⟨j, hstep⟩ := hstep
    obtain ⟨t, y, hy, hpast, hafter⟩ := ih
    obtain ⟨t', y', hy', hpast', hafter'⟩ := hstep.exists_after hy
    exact ⟨t ++ t', y', hy', by rw [hpast', hpast, List.append_assoc], hafter.trans hafter'⟩

theorem Reaches.length_le (h : Reaches answers sys sys') :
    sys.threads.length ≤ sys'.threads.length := by
  induction h with
  | refl => exact le_rfl
  | tail _ hstep ih =>
    obtain ⟨j, ⟨_, _, _⟩⟩ := hstep
    rw [List.length_append, List.length_set]
    omega

/-- **All that a thread has done was done in some scene on the way**, in which it could be done. -/
theorem Reaches.exists_step (h : Reaches answers sys sys') {t : List (Deed σ)}
    (hpast : sys'.scene.pastOf i = sys.scene.pastOf i ++ t) {d : Deed σ} (hd : d ∈ t) :
    ∃ sys₁ sys₂, Reaches answers sys sys₁ ∧ Step answers i sys₁ sys₂ ∧
      Reaches answers sys₂ sys' ∧ sys₁.scene.May answers i d ∧
      sys₂.scene = sys₁.scene.after i d := by
  induction h generalizing t with
  | refl =>
    obtain rfl : t = [] := by simpa using hpast
    exact absurd hd List.not_mem_nil
  | tail hreach hstep ih =>
    rename_i sys₁ sys₂
    obtain ⟨j, hstep⟩ := hstep
    have hstep' := hstep
    obtain @⟨_, _, e, _, -, -, hmay⟩ := hstep'
    by_cases hji : j = i
    · subst hji
      rw [Scene.pastOf_after_self] at hpast
      obtain rfl | ⟨t', e', rfl⟩ := t.eq_nil_or_concat
      · exact absurd hd List.not_mem_nil
      rw [List.concat_eq_append] at hpast hd
      rw [← List.append_assoc] at hpast
      obtain ⟨hold, he⟩ := List.append_inj' hpast rfl
      obtain rfl := List.singleton_inj.1 he
      obtain hd | hd := List.mem_append.1 hd
      · obtain ⟨a, b, ha, hab, hb, hrest⟩ := ih hold hd
        exact ⟨a, b, ha, hab, hb.tail ⟨j, hstep⟩, hrest⟩
      · obtain rfl := List.mem_singleton.1 hd
        exact ⟨sys₁, _, hreach, hstep, .refl, hmay, rfl⟩
    · rw [Scene.pastOf_after_of_ne hji] at hpast
      obtain ⟨a, b, ha, hab, hb, hrest⟩ := ih hpast hd
      exact ⟨a, b, ha, hab, hb.tail ⟨j, hstep⟩, hrest⟩

/-- **The time when a thread had done a part of what it has done.** -/
theorem Reaches.exists_split (h : Reaches answers sys sys') {t t₁ t₂ : List (Deed σ)}
    (hsys : sys.scene.pastOf i = t) (hpast : sys'.scene.pastOf i = t ++ t₁ ++ t₂) :
    ∃ sys₁, Reaches answers sys sys₁ ∧ Reaches answers sys₁ sys' ∧
      sys₁.scene.pastOf i = t ++ t₁ := by
  induction h generalizing t₂ with
  | refl =>
    obtain ⟨rfl, rfl⟩ : t₁ = [] ∧ t₂ = [] := by simpa [hsys] using hpast
    exact ⟨sys, .refl, .refl, by rw [hsys, List.append_nil]⟩
  | tail hreach hstep ih =>
    rename_i sys₁ sys₂
    obtain ⟨j, hstep⟩ := hstep
    obtain rfl | ⟨t₂, d, rfl⟩ := t₂.eq_nil_or_concat
    · exact ⟨sys₂, hreach.tail ⟨j, hstep⟩, .refl, by rw [hpast, List.append_nil]⟩
    · have hstep' := hstep
      obtain @⟨x, y, e, started, -, -, -⟩ := hstep'
      -- the last deed of the thread is done in this step, or was done before
      have hold : ∃ t₂', sys₁.scene.pastOf i = t ++ t₁ ++ t₂' := by
        by_cases hji : j = i
        · subst hji
          rw [Scene.pastOf_after_self, List.concat_eq_append, ← List.append_assoc] at hpast
          exact ⟨t₂, (List.append_inj' hpast rfl).1⟩
        · rw [Scene.pastOf_after_of_ne hji] at hpast
          exact ⟨_, hpast⟩
      obtain ⟨t₂', hold⟩ := hold
      obtain ⟨sys₀, h₀, h₁, hpast₀⟩ := ih hold
      exact ⟨sys₀, h₀, h₁.tail ⟨j, hstep⟩, hpast₀⟩

/-! ## New threads -/

/-- Nothing was done by threads that are not there, and they hold nothing. -/
def IsProper (sys : System σ) : Prop :=
  (∀ i d, (i, d) ∈ sys.scene.past → i < sys.threads.length) ∧
    ∀ lock i, sys.scene.holder lock = some i → i < sys.threads.length

theorem isProper_start (s : σ) (threads : List (Action σ Unit)) : (start s threads).IsProper :=
  ⟨fun _ _ h => absurd h List.not_mem_nil, fun _ _ h => nomatch h⟩

theorem Step.isProper (h : Step answers i sys sys') (hsys : sys.IsProper) : sys'.IsProper := by
  obtain @⟨x, y, d, started, hthread, -, -⟩ := h
  have hi : i < sys.threads.length := (List.getElem?_eq_some_iff.1 hthread).1
  have hle : sys.threads.length ≤ (sys.threads.set i y ++ started).length := by simp
  refine ⟨fun j e hmem => ?_, fun lock j hlock => ?_⟩
  · rw [Scene.past_after, List.mem_append, List.mem_singleton] at hmem
    obtain hmem | hmem := hmem
    · exact (hsys.1 j e hmem).trans_le hle
    · exact ((Prod.mk.inj hmem).1 ▸ hi).trans_le hle
  · by_cases hij : i = j
    · exact (hij ▸ hi).trans_le hle
    · exact (hsys.2 lock j (Scene.holder_after_eq_some hlock hij)).trans_le hle

theorem Reaches.isProper (h : Reaches answers sys sys') (hsys : sys.IsProper) : sys'.IsProper := by
  induction h with
  | refl => exact hsys
  | tail _ hstep ih =>
    obtain ⟨j, hstep⟩ := hstep
    exact hstep.isProper ih

theorem IsProper.isNew (h : sys.IsProper) (hi : sys.threads.length ≤ i) : sys.scene.IsNew i where
  pastOf_eq_nil := by
    refine List.eq_nil_iff_forall_not_mem.2 fun d hd => ?_
    have hlt := h.1 i d (Scene.mem_pastOf_iff.1 hd)
    omega
  holder_ne := fun lock hlock => by
    have hlt := h.2 lock i hlock
    omega

/-- **What holds of every thread**: it holds at the start, each deed of a thread keeps it for that
thread, for the others and for those that it starts. -/
theorem Reaches.forall_threads {s : σ} {threads : List (Action σ Unit)}
    {I : Nat → Action σ Unit → Scene σ → Prop} (h : Reaches answers (start s threads) sys)
    (hstart : ∀ i x, threads[i]? = some x → I i x { state := s })
    (hself : ∀ c i x d started y, I i x c → x.Next d started y → c.May answers i d →
      I i y (c.after i d))
    (hother : ∀ c i j x y d started z, i ≠ j → I i x c → I j y c → y.Next d started z →
      c.May answers j d → I i x (c.after j d))
    (hnew : ∀ c i j x d started y, I j x c → x.Next d started y → c.May answers j d →
      threads.length ≤ i → (c.after j d).IsNew i → ∀ z ∈ started, I i z (c.after j d))
    {i : Nat} {x : Action σ Unit} (hget : sys.threads[i]? = some x) : I i x sys.scene := by
  induction h generalizing i x with
  | refl => exact hstart i x hget
  | tail hreach hstep ih =>
    rename_i sys₁ sys₂
    obtain ⟨j, hstep⟩ := hstep
    have hproper := Reaches.isProper hreach (isProper_start s threads)
    have hle : threads.length ≤ sys₁.threads.length := Reaches.length_le hreach
    obtain @⟨y, y', d, started, hthread, hnext, hmay⟩ := hstep
    have hj : j < sys₁.threads.length := (List.getElem?_eq_some_iff.1 hthread).1
    have hy := ih hthread
    by_cases hold : i < (sys₁.threads.set j y').length
    · rw [List.getElem?_append_left hold] at hget
      by_cases hij : i = j
      · subst hij
        obtain rfl : y' = x := by rwa [List.getElem?_set_self hj, Option.some.injEq] at hget
        exact hself _ _ _ _ _ _ hy hnext hmay
      · rw [List.getElem?_set_ne (Ne.symm hij)] at hget
        exact hother _ _ _ _ _ _ _ _ hij (ih hget) hy hnext hmay
    · -- a thread that this step has started
      rw [List.length_set] at hold
      have hmem : x ∈ started := by
        rw [List.getElem?_append_right (by rw [List.length_set]; omega)] at hget
        exact List.mem_of_getElem? hget
      have hisnew : (sys₁.scene.after j d).IsNew i := (hproper.isNew (by omega)).after (by omega)
      exact hnew _ _ _ _ _ _ _ hy hnext hmay (by omega) hisnew x hmem

/-- **Rules that all threads obey are obeyed in every step.** -/
theorem Reaches.exists_obeys {s : σ} {threads : List (Action σ Unit)} {p : Request → Prop}
    {q : σ → σ → Prop} (h : Reaches answers (start s threads) sys)
    (hobeys : ∀ x ∈ threads, x.Obeys p q) (hstep : Step answers i sys sys') :
    ∃ d, sys.scene.May answers i d ∧ d.Obeys p q ∧ sys'.scene = sys.scene.after i d := by
  obtain @⟨x, y, d, started, hthread, hnext, hmay⟩ := hstep
  have hx : x.Obeys p q := by
    refine h.forall_threads (I := fun _ x _ => x.Obeys p q) ?_ ?_ ?_ ?_ hthread
    · exact fun _ x hx => hobeys x (List.mem_of_getElem? hx)
    · exact fun _ _ _ _ _ _ hx hnext _ => (hx.of_after hnext.after).2
    · exact fun _ _ _ _ _ _ _ _ _ hx _ _ _ => hx
    · exact fun _ _ _ _ _ _ _ hx hnext _ _ _ z hz => hnext.obeys hx z hz
  exact ⟨d, hmay, (hx.of_after hnext.after).1 d (List.mem_singleton.2 rfl), rfl⟩

/-! ## The end -/

/-- **No system goes on for ever.** -/
theorem wellFounded_step :
    WellFounded fun sys' sys : System σ => ∃ i, Step answers i sys sys' := by
  -- each step replaces one thread by finitely many that come straight from it
  refine Subrelation.wf ?_
    (InvImage.wf (fun sys : System σ => (sys.threads : Multiset (Action σ Unit)))
      Action.wellFounded_follows.cutExpand)
  rintro sys' sys ⟨i, @⟨x, y, d, started, hthread, hnext, -⟩⟩
  obtain ⟨hi, rfl⟩ := List.getElem?_eq_some_iff.1 hthread
  refine ⟨y ::ₘ (started : Multiset (Action σ Unit)), sys.threads[i], ?_, ?_⟩
  · intro z hz
    obtain rfl | hz := Multiset.mem_cons.1 hz
    · exact ⟨d, started, z, hnext, .inl rfl⟩
    · exact ⟨d, started, y, hnext, .inr hz⟩
  · have hset : (sys.threads.set i y).Perm (y :: sys.threads.eraseIdx i) := by
      have hlt : i < (sys.threads.set i y).length := by rwa [List.length_set]
      have hperm := List.getElem_cons_eraseIdx_perm hlt
      rw [List.getElem_set_self, List.eraseIdx_set_eq] at hperm
      exact hperm.symm
    have hthreads := (List.getElem_cons_eraseIdx_perm hi).symm
    change ((sys.threads.set i y ++ started : List _) : Multiset _) + {sys.threads[i]} =
      (sys.threads : Multiset _) + (y ::ₘ (started : Multiset _))
    rw [← Multiset.coe_add, Multiset.coe_eq_coe.2 hset, Multiset.coe_eq_coe.2 hthreads,
      ← Multiset.cons_coe, ← Multiset.cons_coe]
    simp only [← Multiset.singleton_add]
    abel

end System

end NetUnits
