import NetUnits.Host.Registry
import NetUnits.Proofs.Action.Settled
import NetUnits.Proofs.Dict

/-! # How registered hosts change

A host is added or removed under the lock of the registry: an entry is held or taken away, and what
cannot be written is undone before the lock is given back.

* **`Registry.Turns`** — what an action makes of the hosts if nobody else changes them;
  **`Registry.Turns.eq_of_putBack`** — an addition that is undone.
* **`Registry.passes_of_run_addition`**, **`Registry.passes_of_run_removal`** — what is made of the
  hosts under the lock, whether it succeeds or not. -/

namespace NetUnits.Registry

open NetUnits.Action NetUnits.Deed

variable {e : HostEntry} {name : String} {t : List (Deed Registry)}
  {v v' : Dict HostEntry}

/-! ## Writing -/

theorem persist_obeys : persist.Obeys Request.KeepsLocks fun r r' => r' = r := by
  refine Obeys.bind (x := look) (fun r => ⟨rfl, trivial⟩) fun r => ?_
  refine (obeys_request fun _ => rfl).bind fun made => ?_
  cases made with
  | error fault => trivial
  | ok =>
    have hsave : (saveText r.path (textOf r.hosts) : Action Registry _).Obeys Request.KeepsLocks
      fun r r' => r' = r := obeys_request fun _ => rfl
    exact hsave.bind fun saved => by cases saved <;> trivial

theorem writes_obeys : persist.Obeys Request.KeepsLocks fun _ _ => True :=
  persist_obeys.mono (fun _ h => h) fun _ _ _ => trivial

theorem put_obeys (name : String) (e : HostEntry) :
    (put name e).Obeys Request.KeepsLocks fun _ _ => True :=
  obeys_change fun _ => trivial

theorem take_obeys (name : String) : (take name).Obeys Request.KeepsLocks fun _ _ => True :=
  obeys_change fun _ => trivial

theorem putBack_obeys (name : String) (previous : Option HostEntry) :
    (putBack name previous).Obeys Request.KeepsLocks fun _ _ => True := by
  cases previous with
  | some old => exact put_obeys name old
  | none => exact take_obeys name

/-! ## What becomes of the hosts -/

/-- **An action makes other hosts of the hosts**, if nobody else changes them. -/
def Turns {α : Type} (x : Action Registry α) (v : Dict HostEntry) (a : α) (v' : Dict HostEntry) :
    Prop :=
  ∃ t, Run x t a ∧ Passes hosts v t v'

section Turns

variable {α β : Type} {x : Action Registry α} {f : α → Action Registry β} {a : α} {b : β}
  {previous : Option HostEntry}

theorem Turns.of_done {c : α} (h : Turns (done c) v a v') : a = c ∧ v' = v := by
  obtain ⟨t, hrun, ht⟩ := h
  obtain ⟨rfl, rfl⟩ := run_done_iff.1 hrun
  exact ⟨rfl, ht⟩

/-- What follows an action begins with the hosts that the action has left. -/
theorem Turns.exists_of_bind (h : Turns (x >>= f) v b v') :
    ∃ a w, Turns x v a w ∧ Turns (f a) w b v' := by
  obtain ⟨t, hrun, ht⟩ := h
  obtain ⟨t₁, t₂, a, rfl, hx, hf⟩ := run_bind_iff.1 hrun
  obtain ⟨w, h₁, h₂⟩ := passes_append_iff.1 ht
  exact ⟨a, w, ⟨t₁, hx, h₁⟩, ⟨t₂, hf, h₂⟩⟩

/-- What leaves the registry as it is makes no other hosts. -/
theorem Turns.eq_of_obeys {p : Request → Prop} (h : Turns x v a v')
    (hx : x.Obeys p fun r r' => r' = r) : v' = v := by
  obtain ⟨t, hrun, ht⟩ := h
  exact ht.eq_of_leaves (leaves_of_after hx (fun _ _ hq => congrArg hosts hq) hrun)

/-- **Holding an entry gives the one that it replaces.** -/
theorem Turns.of_put (h : Turns (put name e) v previous v') :
    previous = v.get? name ∧ v' = v.insert name e := by
  obtain ⟨t, hrun, ht⟩ := h
  obtain ⟨r, rfl, rfl⟩ := run_change_iff.1 hrun
  obtain ⟨rfl, rfl⟩ := ht
  exact ⟨rfl, rfl⟩

/-- **Taking an entry away gives it.** -/
theorem Turns.of_take (h : Turns (take name) v previous v') :
    previous = v.get? name ∧ v' = v.erase name := by
  obtain ⟨t, hrun, ht⟩ := h
  obtain ⟨r, rfl, rfl⟩ := run_change_iff.1 hrun
  obtain ⟨rfl, rfl⟩ := ht
  exact ⟨rfl, rfl⟩

/-- **An addition that is undone** leaves the hosts of before. -/
theorem Turns.eq_of_putBack (h : Turns (putBack name (v.get? name)) (v.insert name e) previous v') :
    v' = v := by
  cases hprevious : v.get? name with
  | some old =>
    rw [hprevious, putBack] at h
    rw [h.of_put.2, Dict.insert_insert_of_get? hprevious]
  | none =>
    rw [hprevious, putBack] at h
    rw [h.of_take.2, Dict.erase_insert_of_get?_none hprevious]

theorem Turns.eq_of_event {source : EventSource} {level : Level} {message : String} {u : Unit}
    (h : Turns (event source level message) v u v') : v' = v :=
  h.eq_of_obeys (p := fun _ => True) (obeys_request trivial)

end Turns

/-! ## Adding -/

theorem add_of_validate (h : e.validate = .ok ()) : add e = withLock .registry (addition e) := by
  rw [add, h]

theorem add_of_not_validate {why : HostError} (h : e.validate = .error why) :
    add e = done (.error why) := by
  rw [add, h]
  rfl

theorem addition_obeys (e : HostEntry) :
    (addition e).Obeys Request.KeepsLocks fun _ _ => True := by
  refine (put_obeys _ _).bind fun previous => writes_obeys.bind fun written => ?_
  cases written with
  | error why => exact (putBack_obeys _ _).bind fun _ => trivial
  | ok => exact (obeys_request fun _ => rfl).bind fun _ => trivial

/-- **A host is added, or nothing changes.** -/
theorem passes_of_run_addition {result : Except HostError Unit} (hrun : Run (addition e) t result)
    (ht : Passes hosts v t v') :
    result = .ok () ∧ v' = v.insert e.name e ∨ (∃ why, result = .error why) ∧ v' = v := by
  have h : Turns (addition e) v result v' := ⟨t, hrun, ht⟩
  obtain ⟨previous, v₁, hput, h⟩ := h.exists_of_bind
  obtain ⟨rfl, rfl⟩ := hput.of_put
  obtain ⟨written, v₂, hpersist, h⟩ := h.exists_of_bind
  obtain rfl := hpersist.eq_of_obeys persist_obeys
  cases written with
  | error why =>
    obtain ⟨_, v₃, hundo, hdone⟩ := h.exists_of_bind
    obtain rfl := hundo.eq_of_putBack
    obtain ⟨rfl, rfl⟩ := hdone.of_done
    exact .inr ⟨⟨why, rfl⟩, rfl⟩
  | ok =>
    obtain ⟨_, v₃, htold, hdone⟩ := h.exists_of_bind
    obtain rfl := htold.eq_of_event
    obtain ⟨rfl, rfl⟩ := hdone.of_done
    exact .inl ⟨rfl, rfl⟩

/-! ## Removing -/

theorem remove_eq (name : String) : remove name = withLock .registry (removal name) :=
  rfl

theorem removal_obeys (name : String) :
    (removal name).Obeys Request.KeepsLocks fun _ _ => True := by
  refine (take_obeys name).bind fun taken => ?_
  cases taken with
  | none => trivial
  | some removed =>
    refine writes_obeys.bind fun written => ?_
    cases written with
    | error why => exact (put_obeys name removed).bind fun _ => trivial
    | ok => exact (obeys_request fun _ => rfl).bind fun _ => trivial

/-- **A host that is there is removed, or nothing changes.** -/
theorem passes_of_run_removal {result : Except HostError Bool} (hrun : Run (removal name) t result)
    (ht : Passes hosts v t v') :
    result = .ok true ∧ v.contains name = true ∧ v' = v.erase name ∨
      result ≠ .ok true ∧ v' = v := by
  have h : Turns (removal name) v result v' := ⟨t, hrun, ht⟩
  obtain ⟨taken, v₁, htake, h⟩ := h.exists_of_bind
  obtain ⟨rfl, rfl⟩ := htake.of_take
  cases htaken : v.get? name with
  | none =>
    rw [htaken] at h
    obtain ⟨rfl, rfl⟩ := h.of_done
    exact .inr ⟨by simp, Dict.erase_of_get?_none htaken⟩
  | some removed =>
    rw [htaken] at h
    obtain ⟨written, v₂, hpersist, h⟩ := h.exists_of_bind
    obtain rfl := hpersist.eq_of_obeys persist_obeys
    cases written with
    | error why =>
      obtain ⟨_, v₃, hundo, hdone⟩ := h.exists_of_bind
      obtain ⟨-, rfl⟩ := hundo.of_put
      obtain ⟨rfl, rfl⟩ := hdone.of_done
      exact .inr ⟨by simp, Dict.insert_erase_of_get? htaken⟩
    | ok =>
      obtain ⟨_, v₃, htold, hdone⟩ := h.exists_of_bind
      obtain rfl := htold.eq_of_event
      obtain ⟨rfl, rfl⟩ := hdone.of_done
      exact .inl ⟨rfl, by rw [Dict.contains, htaken]; rfl, rfl⟩

/-! ## What goes on beside -/

section Starts

variable {Q : Action Registry Unit → Prop}

theorem persist_starts : persist.Starts Q := by
  refine Starts.bind (x := look) (fun _ => trivial) fun r => ?_
  refine (starts_request _).bind fun made => ?_
  cases made with
  | error fault => trivial
  | ok =>
    have hsave : (saveText r.path (textOf r.hosts)).Starts Q := starts_request _
    exact hsave.bind fun saved => by cases saved <;> trivial

theorem putBack_starts (name : String) (previous : Option HostEntry) :
    (putBack name previous).Starts Q := by
  cases previous <;> exact starts_change _

/-- **Nothing goes on beside adding a host**, nor beside removing or listing hosts. -/
theorem add_starts (e : HostEntry) : (add e).Starts Q := by
  rw [add]
  split
  · trivial
  · refine Starts.withLock (Starts.bind (starts_change _) fun previous => ?_)
    refine persist_starts.bind fun written => ?_
    cases written with
    | error why => exact (putBack_starts _ _).bind fun _ => trivial
    | ok => exact (starts_request _).bind fun _ => trivial

theorem remove_starts (name : String) : (remove name).Starts Q := by
  refine Starts.withLock (Starts.bind (starts_change _) fun taken => ?_)
  cases taken with
  | none => trivial
  | some removed =>
    refine persist_starts.bind fun written => ?_
    cases written with
    | error why => exact Starts.bind (starts_change _) fun _ => trivial
    | ok => exact (starts_request _).bind fun _ => trivial

theorem list_starts : list.Starts Q :=
  Starts.withLock (Starts.bind (x := look) (fun _ => trivial) fun _ => trivial)

end Starts

end NetUnits.Registry
