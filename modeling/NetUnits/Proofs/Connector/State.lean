import NetUnits.Connector.State
import NetUnits.Proofs.Dict

/-! # What becomes of connectors

Every connector has a number of its own, which tells it from all others that there ever were. The
state of a pool changes in three ways only: what belongs to connectors changes, a new connector is
kept, or one is kept no longer.

* **`PoolState.session?`** — the session of a connector.
* **`PoolState.Quiet`** — nothing changes but what belongs to some connectors.
* **`PoolState.Change`** — the changes that there are.
* **`PoolState.Numbered`** — the numbers of kept connectors are their own;
  **`PoolState.Grows`** — a number that is not used any more is never used again.
* **`PoolState.Apart`** — nothing changes for a host. -/

namespace NetUnits.PoolState

variable {s s' s'' : PoolState} {host h h' : String} {c k k' : RemoteConnector} {m n : Nat}
  {p : Nat → Prop}

/-- **The session of a connector**, by its number. -/
def session? (s : PoolState) (n : Nat) : Option Session :=
  (s.slots[n]?).bind ConnectorSlot.session

/-! ## What belongs to connectors -/

/-- **Nothing changes but sessions and users**, and the sessions only of some connectors. -/
structure Quiet (p : Nat → Prop) (s s' : PoolState) : Prop where
  /-- The registry is the same. -/
  registry : s'.registry = s.registry
  /-- The same connectors are kept. -/
  kept : s'.kept = s.kept
  /-- There are no new connectors. -/
  length : s'.slots.length = s.slots.length
  /-- Other sessions are the same. -/
  session? : ∀ n, ¬ p n → s'.session? n = s.session? n

theorem Quiet.refl (s : PoolState) : Quiet p s s :=
  ⟨rfl, rfl, rfl, fun _ _ => rfl⟩

theorem Quiet.trans (h : Quiet p s s') (h' : Quiet p s' s'') : Quiet p s s'' where
  registry := h'.registry.trans h.registry
  kept := h'.kept.trans h.kept
  length := h'.length.trans h.length
  session? := fun n hn => (h'.session? n hn).trans (h.session? n hn)

theorem Quiet.mono {q : Nat → Prop} (h : Quiet p s s') (hq : ∀ n, p n → q n) : Quiet q s s' :=
  { h with session? := fun n hn => h.session? n fun hp => hn (hq n hp) }

/-- Sessions after a change of what belongs to one connector. -/
theorem bind_session_modify (slots : List ConnectorSlot) (f : ConnectorSlot → ConnectorSlot)
    (m n : Nat) :
    ((slots.modify m f)[n]?).bind ConnectorSlot.session =
      if m = n then (slots[n]?).bind fun slot => (f slot).session
      else (slots[n]?).bind ConnectorSlot.session := by
  rw [List.getElem?_modify]
  by_cases hmn : m = n
  · rw [if_pos hmn]
    cases slots[n]? <;> simp [hmn]
  · rw [if_neg hmn]
    cases slots[n]? <;> simp [hmn]

theorem quiet_withUsers (s : PoolState) (m : Nat) (f : Nat → Nat) :
    Quiet (fun _ => False) s (s.withUsers m f) where
  registry := rfl
  kept := rfl
  length := List.length_modify _ _ _
  session? := fun n _ => by
    rw [session?, withUsers, bind_session_modify]
    exact ite_self _

theorem quiet_wire (s : PoolState) (m : Nat) (w : Wire) : Quiet (· = m) s ((wire m).set w s) where
  registry := rfl
  kept := rfl
  length := List.length_modify _ _ _
  session? := fun n hn => by
    have hset : ((wire m).set w s).session? n = _ := bind_session_modify s.slots _ m n
    rw [hset, if_neg (Ne.symm hn)]
    rfl

/-- A replacement with the same session changes no session. -/
theorem quiet_wire_of_session {w : Wire} (h : w.session = s.session? m) :
    Quiet p s ((wire m).set w s) := by
  refine { s.quiet_wire m w with session? := fun n _ => ?_ }
  have hset : ((wire m).set w s).session? n = _ := bind_session_modify s.slots _ m n
  rw [hset]
  split
  · subst n
    rw [h, session?]
    cases s.slots[m]? <;> rfl
  · rfl

/-- What a connector holds after it was replaced. -/
theorem session?_wire (w : Wire) (h : m < s.slots.length) :
    ((wire m).set w s).session? m = w.session := by
  have hset : ((wire m).set w s).session? m = _ := bind_session_modify s.slots _ m m
  rw [hset, if_pos rfl, List.getElem?_eq_getElem h]
  rfl

theorem quiet_retire (s : PoolState) (m : Nat) : Quiet (· = m) s (s.retire m).2 := by
  rw [retire]
  split
  · exact .refl s
  · refine ⟨rfl, rfl, List.length_modify _ _ _, fun n hn => ?_⟩
    rw [session?, bind_session_modify, if_neg (Ne.symm hn)]
    rfl

theorem quiet_release (s : PoolState) (m : Nat) : Quiet (· = m) s (s.release m).2 :=
  ((s.quiet_withUsers m (· - 1)).mono fun _ hn => hn.elim).trans (quiet_retire _ m)

@[simp] theorem fst_take (s : PoolState) (host : String) :
    (s.take host).1 = s.kept.get? host := by
  rw [take]
  split <;> rename_i heq <;> rw [heq]

theorem snd_take_of_none (h : s.kept.get? host = none) : (s.take host).2 = s := by
  rw [take, h]

theorem quiet_take (s : PoolState) (host : String) :
    Quiet (fun _ => False) s (s.take host).2 := by
  rw [take]
  split
  · exact s.quiet_withUsers _ _
  · exact .refl s

/-! ## Kept connectors -/

/-- **A change of a pool**: it concerns what belongs to connectors only, or a new connector is kept,
or a connector is kept no longer. -/
inductive Change (s : PoolState) : PoolState → Prop where
  /-- Only what belongs to connectors changes. -/
  | quiet {p : Nat → Prop} {s' : PoolState} (h : Quiet p s s') : Change s s'
  /-- A new connector is kept for a host. -/
  | create (host : String) {make : Nat → RemoteConnector} (h : ∀ n, (make n).number = n) :
    Change s (s.create host make).2
  /-- No connector is kept for a host any more. -/
  | remove (host : String) {p : Nat → Prop} {s' : PoolState}
    (h : Quiet p { s with kept := s.kept.erase host } s') : Change s s'

theorem slots_evict (s : PoolState) (host : String) (c : RemoteConnector) :
    (s.evict host c).2.slots = s.slots := by
  rw [evict]
  split <;> rfl

theorem change_evict (s : PoolState) (host : String) (c : RemoteConnector) :
    Change s (s.evict host c).2 := by
  rw [evict]
  split
  · exact .remove host (.refl _) (p := fun _ => False)
  · exact .quiet (.refl s) (p := fun _ => False)

/-- **What is evicted is that very connector**, and only if it is kept for the host. -/
theorem get?_kept_evict_iff :
    (s.evict host c).2.kept.get? h = some k ↔
      s.kept.get? h = some k ∧ ¬ (h = host ∧ k.number = c.number) := by
  rw [evict]
  split
  · rename_i hany
    obtain ⟨k₀, hk₀, hnumber⟩ := (Option.any_eq_true _ _).1 hany
    have hnumber : k₀.number = c.number := beq_iff_eq.1 hnumber
    rw [Dict.get?_erase]
    by_cases hh : host = h
    · subst hh
      rw [if_pos rfl]
      refine iff_of_false (fun h => nomatch h) fun ⟨hk, hne⟩ => hne ⟨rfl, ?_⟩
      rw [← Option.some.inj (hk₀.symm.trans hk), hnumber]
    · rw [if_neg hh]
      exact ⟨fun hk => ⟨hk, fun hne => hh hne.1.symm⟩, And.left⟩
  · rename_i hany
    refine ⟨fun hk => ⟨hk, ?_⟩, And.left⟩
    rintro ⟨rfl, hnumber⟩
    exact hany ((Option.any_eq_true _ _).2 ⟨k, hk, beq_iff_eq.2 hnumber⟩)

theorem quiet_forget (hk : s.kept.get? host = some k) :
    Quiet (· = k.number) { s with kept := s.kept.erase host } (s.forget host).2 := by
  have hforget : (s.forget host).2 = ({ s with kept := s.kept.erase host }.retire k.number).2 := by
    rw [forget, hk]
  rw [hforget]
  exact quiet_retire _ _

theorem forget_of_none (hk : s.kept.get? host = none) : (s.forget host).2 = s := by
  rw [forget, hk]

theorem change_forget (s : PoolState) (host : String) : Change s (s.forget host).2 := by
  cases hk : s.kept.get? host with
  | none => exact .quiet (by rw [forget_of_none hk]; exact .refl s) (p := fun _ => False)
  | some k => exact .remove host (quiet_forget hk)

theorem get?_kept_forget_iff :
    (s.forget host).2.kept.get? h = some k ↔ s.kept.get? h = some k ∧ h ≠ host := by
  cases hk₀ : s.kept.get? host with
  | none =>
    rw [forget_of_none hk₀]
    refine ⟨fun hk => ⟨hk, ?_⟩, And.left⟩
    rintro rfl
    simp [hk₀] at hk
  | some k₀ =>
    rw [(quiet_forget hk₀).kept, Dict.get?_erase]
    by_cases hh : host = h
    · simp [hh]
    · rw [if_neg hh]
      exact ⟨fun hk => ⟨hk, Ne.symm hh⟩, And.left⟩

/-! ## Numbers -/

/-- **The number of a kept connector is its own**: no other host has a connector with it, and no new
connector will get it. -/
structure Numbered (s : PoolState) : Prop where
  /-- The number was given out. -/
  lt : ∀ h k, s.kept.get? h = some k → k.number < s.slots.length
  /-- It was given out once. -/
  eq : ∀ h h' k k', s.kept.get? h = some k → s.kept.get? h' = some k' → k.number = k'.number →
    h = h'

theorem numbered_of_kept_empty (h : s.kept = ∅) : s.Numbered :=
  ⟨fun h' k hk => by simp [h] at hk, fun h' _ k _ hk => by simp [h] at hk⟩

/-- **Numbers are given out once**: a connector that is kept with a number that was given out before
was kept then. -/
structure Grows (s s' : PoolState) : Prop where
  /-- Numbers that were given out stay so. -/
  length_le : s.slots.length ≤ s'.slots.length
  /-- What is kept with such a number was kept before. -/
  kept_of_lt : ∀ h k, s'.kept.get? h = some k → k.number < s.slots.length →
    s.kept.get? h = some k

theorem Grows.refl (s : PoolState) : Grows s s :=
  ⟨Nat.le_refl _, fun _ _ hk _ => hk⟩

theorem Grows.trans (h : Grows s s') (h' : Grows s' s'') : Grows s s'' where
  length_le := Nat.le_trans h.length_le h'.length_le
  kept_of_lt := fun host k hk hlt =>
    h.kept_of_lt host k (h'.kept_of_lt host k hk (Nat.lt_of_lt_of_le hlt h.length_le)) hlt

theorem get?_kept_create {make : Nat → RemoteConnector} :
    (s.create host make).2.kept.get? h =
      if host = h then some (make s.slots.length) else s.kept.get? h :=
  Dict.get?_insert _ _ _ _

theorem length_create (s : PoolState) (host : String) (make : Nat → RemoteConnector) :
    (s.create host make).2.slots.length = s.slots.length + 1 :=
  List.length_append

theorem Change.grows (hchange : Change s s') : Grows s s' := by
  cases hchange with
  | quiet h => exact ⟨Nat.le_of_eq h.length.symm, fun host k hk _ => h.kept ▸ hk⟩
  | create host hmake =>
    refine ⟨by rw [length_create]; omega, fun h k hk hlt => ?_⟩
    rw [get?_kept_create] at hk
    split at hk
    · -- the new connector has a new number
      rw [← Option.some.inj hk, hmake] at hlt
      omega
    · exact hk
  | remove host h =>
    refine ⟨Nat.le_of_eq h.length.symm, fun h' k hk _ => ?_⟩
    rw [h.kept, Dict.get?_erase] at hk
    exact (Option.ite_none_left_eq_some.1 hk).2

theorem Change.numbered (hchange : Change s s') (hs : s.Numbered) : s'.Numbered := by
  have hgrows := hchange.grows
  have hlt : ∀ h k, s'.kept.get? h = some k → k.number < s'.slots.length := by
    intro h k hk
    cases hchange with
    | quiet hq => exact hq.length ▸ hs.lt h k (hq.kept ▸ hk)
    | create host hmake =>
      rw [get?_kept_create] at hk
      rw [length_create]
      split at hk
      · rw [← Option.some.inj hk, hmake]
        omega
      · have hlt := hs.lt h k hk
        omega
    | remove host hq =>
      rw [hq.kept, Dict.get?_erase] at hk
      exact hq.length ▸ hs.lt h k (Option.ite_none_left_eq_some.1 hk).2
  refine ⟨hlt, fun h h' k k' hk hk' heq => ?_⟩
  by_cases hold : k.number < s.slots.length
  · exact hs.eq h h' k k' (hgrows.kept_of_lt h k hk hold) (hgrows.kept_of_lt h' k' hk' (heq ▸ hold))
      heq
  · -- both are the new one
    cases hchange with
    | quiet hq => exact absurd (hq.length ▸ hlt h k hk) hold
    | create host hmake =>
      rw [get?_kept_create] at hk hk'
      split at hk
      · rename_i hhost
        split at hk'
        · rename_i hhost'
          exact hhost.symm.trans hhost'
        · exact absurd (heq ▸ hs.lt h' k' hk') hold
      · exact absurd (hs.lt h k hk) hold
    | remove host hq => exact absurd (hq.length ▸ hlt h k hk) hold

theorem Change.registry (hchange : Change s s') : s'.registry = s.registry := by
  cases hchange with
  | quiet h => exact h.registry
  | create => rfl
  | remove host h => exact h.registry

/-! ## Other hosts -/

/-- **Nothing changes for a host**: the same connector is kept for it, with the same session. -/
structure Apart (host : String) (s s' : PoolState) : Prop where
  /-- It is one of the changes that there are. -/
  change : Change s s'
  /-- The same connector is kept. -/
  kept : s'.kept.get? host = s.kept.get? host
  /-- It has the same session. -/
  session? : ∀ k, s.kept.get? host = some k → s'.session? k.number = s.session? k.number

theorem Quiet.toApart (h : Quiet p s s') (hp : ∀ k, s.kept.get? host = some k → ¬ p k.number) :
    Apart host s s' where
  change := .quiet h
  kept := by rw [h.kept]
  session? := fun k hk => h.session? k.number (hp k hk)

theorem Apart.refl (host : String) (s : PoolState) : Apart host s s :=
  (Quiet.refl s (p := fun _ => False)).toApart fun _ _ hp => hp

theorem apart_evict (s : PoolState) (c : RemoteConnector) (hne : h ≠ host) :
    Apart host s (s.evict h c).2 where
  change := change_evict s h c
  kept := by
    ext k
    rw [get?_kept_evict_iff]
    exact and_iff_left fun heq => hne heq.1.symm
  session? := fun k _ => by rw [session?, session?, slots_evict]

theorem apart_forget (hs : s.Numbered) (hne : h ≠ host) : Apart host s (s.forget h).2 where
  change := change_forget s h
  kept := by
    ext k
    rw [get?_kept_forget_iff]
    exact and_iff_left hne.symm
  session? := by
    intro k hk
    cases hk' : s.kept.get? h with
    | none => rw [forget_of_none hk']
    | some k' =>
      have hnumber : k.number ≠ k'.number := fun heq => hne (hs.eq h host k' k hk' hk heq.symm)
      exact (quiet_forget hk').session? k.number hnumber

theorem apart_create {make : Nat → RemoteConnector} (hs : s.Numbered)
    (hmake : ∀ n, (make n).number = n) (hne : h ≠ host) :
    Apart host s (s.create h make).2 where
  change := .create h hmake
  kept := by rw [get?_kept_create, if_neg hne]
  session? := fun k hk => by
    have hslot : (s.create h make).2.slots[k.number]? = s.slots[k.number]? :=
      List.getElem?_append_left (hs.lt host k hk)
    rw [session?, session?, hslot]

end NetUnits.PoolState
