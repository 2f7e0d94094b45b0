import NetUnits.Proofs.Action.Passing

/-! # Actions that nobody disturbs

Where nobody else does anything, an action meets the state as it has left it itself. What its
surroundings reply depends on the **world** that the request meets, and the request may change it.

* **`Surroundings`** — what becomes of requests in a world.
* **`Action.Undisturbed`** — what an action comes to if nobody else does anything;
  `Action.undisturbed_bind_iff` and so on take it apart.
* **`Action.Undisturbed.keeps`** — what all requests and changes keep is kept.
* **`Action.Undisturbed.exists_of_inside`** — an action on a part of the state does the same.
* **`Action.exists_undisturbed`** — every action comes to an end if all requests are replied to.
* **`Action.aloneIn`** — what an action does in a world that replies in one way. -/

namespace NetUnits

/-- **What becomes of a request in a world**: the replies to it, and the worlds after it. -/
abbrev Surroundings (ω : Type) : Type := (r : Request) → ω → r.Reply → ω → Prop

/-- **All requests of a kind are replied to**, by a reply of a kind. -/
def Surroundings.Answer {ω : Type} (may : Surroundings ω) (good : (r : Request) → r.Reply → Prop) :
    Prop :=
  ∀ r w, ∃ reply w', may r w reply w' ∧ good r reply

namespace Action

variable {σ τ ω α β ε : Type} {may : Surroundings ω} {s s' : σ} {w w' : ω} {t : List (Deed σ)}
  {a : α} {b : β}

/-- **What an action comes to if nobody else does anything**: from a state and a world, by a
history, to a result, a state and a world. What it starts does not go on meanwhile. -/
inductive Undisturbed {σ ω α : Type} (may : Surroundings ω) :
    Action σ α → σ → ω → List (Deed σ) → α → σ → ω → Prop where
  /-- Nothing is left to do. -/
  | done (a : α) (s : σ) (w : ω) : Undisturbed may (done a) s w [] a s w
  /-- A request is replied to, and leaves a world. -/
  | ask {r : Request} {k : r.Reply → Action σ α} {s s' : σ} {w w₁ w' : ω} {reply : r.Reply}
      {t : List (Deed σ)} {a : α} (replied : may r w reply w₁)
      (rest : Undisturbed may (k reply) s w₁ t a s' w') :
      Undisturbed may (ask r k) s w (.asked r reply :: t) a s' w'
  /-- The state is changed. -/
  | atomic {u : σ → σ} {k : σ → Action σ α} {s s' : σ} {w w' : ω} {t : List (Deed σ)} {a : α}
      (rest : Undisturbed may (k s) (u s) w t a s' w') :
      Undisturbed may (atomic u k) s w (.changed s (u s) :: t) a s' w'
  /-- Another action is left for later. -/
  | fork {other : Action σ Unit} {next : Action σ α} {s s' : σ} {w w' : ω} {t : List (Deed σ)}
      {a : α} (rest : Undisturbed may next s w t a s' w') :
      Undisturbed may (fork other next) s w (.forked :: t) a s' w'

/-- What an action does undisturbed is a history of it. -/
theorem Undisturbed.run {x : Action σ α} (h : x.Undisturbed may s w t a s' w') : Run x t a := by
  induction h with
  | done => exact .start _
  | ask _ _ ih => exact .ask _ ih
  | atomic _ ih => exact .atomic _ ih
  | fork _ ih => exact .fork ih

/-- Nobody else changes the state. -/
theorem Undisturbed.passes {x : Action σ α} (h : x.Undisturbed may s w t a s' w') :
    Deed.Passes id s t s' := by
  induction h with
  | done => rfl
  | ask _ _ ih | fork _ ih => exact ih
  | atomic _ ih => exact ⟨rfl, ih⟩

/-! ## Taking apart -/

@[simp] theorem undisturbed_done_iff {b : α} :
    (done a : Action σ α).Undisturbed may s w t b s' w' ↔ t = [] ∧ b = a ∧ s = s' ∧ w = w' := by
  constructor
  · intro h
    cases h
    exact ⟨rfl, rfl, rfl, rfl⟩
  · rintro ⟨rfl, rfl, rfl, rfl⟩
    exact .done _ _ _

/-- **Two actions in sequence** do one thing after the other. -/
theorem undisturbed_bind_iff {x : Action σ α} {f : α → Action σ β} :
    (x >>= f).Undisturbed may s w t b s' w' ↔
      ∃ t₁ t₂ a s₁ w₁, t = t₁ ++ t₂ ∧ x.Undisturbed may s w t₁ a s₁ w₁ ∧
        (f a).Undisturbed may s₁ w₁ t₂ b s' w' := by
  constructor
  · intro h
    induction x generalizing s w t with
    | done a => exact ⟨[], t, a, s, w, rfl, .done a s w, h⟩
    | ask r k ih =>
      cases h with
      | ask replied rest =>
        obtain ⟨t₁, t₂, a, s₁, w₁, rfl, hx, hf⟩ := ih _ rest
        exact ⟨_, t₂, a, s₁, w₁, rfl, .ask replied hx, hf⟩
    | atomic u k ih =>
      cases h with
      | atomic rest =>
        obtain ⟨t₁, t₂, a, s₁, w₁, rfl, hx, hf⟩ := ih _ rest
        exact ⟨_, t₂, a, s₁, w₁, rfl, .atomic hx, hf⟩
    | fork other next _ ih =>
      cases h with
      | fork rest =>
        obtain ⟨t₁, t₂, a, s₁, w₁, rfl, hx, hf⟩ := ih rest
        exact ⟨_, t₂, a, s₁, w₁, rfl, .fork hx, hf⟩
  · rintro ⟨t₁, t₂, a, s₁, w₁, rfl, hx, hf⟩
    induction hx with
    | done => exact hf
    | ask replied _ ih => exact .ask replied (ih hf)
    | atomic _ ih => exact .atomic (ih hf)
    | fork _ ih => exact .fork (ih hf)

theorem undisturbed_andThen_iff {x : Action σ (Except ε α)} {f : α → Action σ (Except ε β)}
    {b : Except ε β} :
    (x.andThen f).Undisturbed may s w t b s' w' ↔
      (∃ e, x.Undisturbed may s w t (.error e) s' w' ∧ b = .error e) ∨
        ∃ t₁ t₂ a s₁ w₁, t = t₁ ++ t₂ ∧ x.Undisturbed may s w t₁ (.ok a) s₁ w₁ ∧
          (f a).Undisturbed may s₁ w₁ t₂ b s' w' := by
  rw [andThen, undisturbed_bind_iff]
  constructor
  · rintro ⟨t₁, t₂, e | a, s₁, w₁, rfl, hx, hf⟩
    · obtain ⟨rfl, rfl, rfl, rfl⟩ := undisturbed_done_iff.1 hf
      exact .inl ⟨e, by rwa [List.append_nil], rfl⟩
    · exact .inr ⟨t₁, t₂, a, s₁, w₁, rfl, hx, hf⟩
  · rintro (⟨e, hx, rfl⟩ | ⟨t₁, t₂, a, s₁, w₁, rfl, hx, hf⟩)
    · exact ⟨t, [], .error e, s', w', (List.append_nil t).symm, hx, .done _ _ _⟩
    · exact ⟨t₁, t₂, .ok a, s₁, w₁, rfl, hx, hf⟩

theorem undisturbed_ask_iff {r : Request} {k : r.Reply → Action σ α} :
    (ask r k).Undisturbed may s w t a s' w' ↔
      ∃ reply w₁ t', t = .asked r reply :: t' ∧ may r w reply w₁ ∧
        (k reply).Undisturbed may s w₁ t' a s' w' := by
  constructor
  · intro h
    cases h with
    | ask replied rest => exact ⟨_, _, _, rfl, replied, rest⟩
  · rintro ⟨reply, w₁, t', rfl, replied, rest⟩
    exact .ask replied rest

theorem undisturbed_request_iff {r : Request} {reply : r.Reply} :
    (request r : Action σ r.Reply).Undisturbed may s w t reply s' w' ↔
      t = [.asked r reply] ∧ s = s' ∧ may r w reply w' := by
  rw [request, undisturbed_ask_iff]
  constructor
  · rintro ⟨reply', w₁, t', rfl, hreply, h⟩
    obtain ⟨rfl, rfl, rfl, rfl⟩ := undisturbed_done_iff.1 h
    exact ⟨rfl, rfl, hreply⟩
  · rintro ⟨rfl, rfl, hreply⟩
    exact ⟨reply, w', [], rfl, hreply, .done _ _ _⟩

theorem undisturbed_change_iff {f : σ → α × σ} :
    (change f).Undisturbed may s w t a s' w' ↔
      t = [.changed s (f s).2] ∧ a = (f s).1 ∧ (f s).2 = s' ∧ w = w' := by
  constructor
  · intro h
    cases h with
    | atomic rest =>
      obtain ⟨rfl, rfl, rfl, rfl⟩ := undisturbed_done_iff.1 rest
      exact ⟨rfl, rfl, rfl, rfl⟩
  · rintro ⟨rfl, rfl, rfl, rfl⟩
    exact .atomic (.done _ _ _)

theorem undisturbed_fork_iff {other : Action σ Unit} {next : Action σ α} :
    (fork other next).Undisturbed may s w t a s' w' ↔
      ∃ t', t = .forked :: t' ∧ next.Undisturbed may s w t' a s' w' := by
  constructor
  · intro h
    cases h with
    | fork rest => exact ⟨_, rfl, rest⟩
  · rintro ⟨t', rfl, rest⟩
    exact .fork rest

/-- What follows a look at the state sees it as it is. -/
theorem undisturbed_look_bind_iff {f : σ → Action σ α} :
    (look >>= f).Undisturbed may s w t a s' w' ↔
      ∃ t', t = .changed s s :: t' ∧ (f s).Undisturbed may s w t' a s' w' := by
  constructor
  · intro h
    cases h with
    | atomic rest => exact ⟨_, rfl, rest⟩
  · rintro ⟨t', rfl, rest⟩
    exact .atomic (u := id) rest

/-- What is done under a lock comes between taking it and giving it back. -/
theorem undisturbed_withLock_iff {lock : Lock} {body : Action σ α} :
    (withLock lock body).Undisturbed may s w t a s' w' ↔
      ∃ t' w₁ w₂, t = .asked (.acquire lock) () :: t' ++ [.asked (.release lock) ()] ∧
        may (.acquire lock) w () w₁ ∧ body.Undisturbed may s w₁ t' a s' w₂ ∧
          may (.release lock) w₂ () w' := by
  rw [withLock, undisturbed_bind_iff]
  constructor
  · rintro ⟨_, _, _, _, _, rfl, h₁, hrest⟩
    obtain ⟨rfl, rfl, hacquire⟩ := undisturbed_request_iff.1 h₁
    obtain ⟨t', _, a', _, _, rfl, hbody, hrest⟩ := undisturbed_bind_iff.1 hrest
    obtain ⟨_, _, _, _, _, rfl, h₂, hdone⟩ := undisturbed_bind_iff.1 hrest
    obtain ⟨rfl, rfl, hrelease⟩ := undisturbed_request_iff.1 h₂
    obtain ⟨rfl, rfl, rfl, rfl⟩ := undisturbed_done_iff.1 hdone
    exact ⟨t', _, _, rfl, hacquire, hbody, hrelease⟩
  · rintro ⟨t', w₁, w₂, rfl, hacquire, hbody, hrelease⟩
    refine ⟨[_], _, (), s, w₁, rfl, undisturbed_request_iff.2 ⟨rfl, rfl, hacquire⟩, ?_⟩
    refine undisturbed_bind_iff.2 ⟨t', _, a, s', w₂, rfl, hbody, ?_⟩
    exact undisturbed_bind_iff.2 ⟨[_], [], (), s', w', rfl,
      undisturbed_request_iff.2 ⟨rfl, rfl, hrelease⟩, .done _ _ _⟩

/-! ## What is kept -/

/-- **What all requests and changes of an action keep is kept.** -/
theorem Undisturbed.keeps {K : σ → ω → Prop} {p : Request → Prop} {q : σ → σ → Prop}
    {x : Action σ α} (h : x.Undisturbed may s w t a s' w') (hx : x.Obeys p q)
    (hask : ∀ r s w reply w', p r → may r w reply w' → K s w → K s w')
    (hchange : ∀ s s' w, q s s' → K s w → K s' w) (hK : K s w) : K s' w' := by
  induction h with
  | done => exact hK
  | ask replied _ ih => exact ih (hx.2 _) (hask _ _ _ _ _ hx.1 replied hK)
  | atomic _ ih => exact ih (hx _).2 (hchange _ _ _ (hx _).1 hK)
  | fork _ ih => exact ih hx.2 hK

/-- An action that changes nothing leaves the state as it was. -/
theorem Undisturbed.state_eq {p : Request → Prop} {x : Action σ α}
    (h : x.Undisturbed may s w t a s' w') (hx : x.Obeys p fun s s' => s' = s) : s' = s :=
  h.keeps (K := fun s₁ _ => s₁ = s) hx (fun _ _ _ _ _ _ _ hs => hs)
    (fun _ _ _ heq hs => heq.trans hs) rfl

/-- **An action on a part of the state does the same as the action alone**, with the same requests
and replies, as long as what is put into the part is read from it. -/
theorem Undisturbed.exists_of_inside {part : Part σ τ} {K : σ → Prop} {x : Action τ α}
    (h : (x.inside part).Undisturbed may s w t a s' w')
    (hK : ∀ s u, K s → part.get (part.set u s) = u ∧ K (part.set u s)) (hs : K s) :
    K s' ∧ ∃ t', x.Undisturbed may (part.get s) w t' a (part.get s') w' ∧
      Deed.exchanges t' = Deed.exchanges t := by
  induction x generalizing s w t with
  | done a =>
    cases h
    exact ⟨hs, [], .done _ _ _, rfl⟩
  | ask r k ih =>
    cases h with
    | ask replied rest =>
      obtain ⟨hs', t', h, ht⟩ := ih _ rest hs
      exact ⟨hs', _, .ask replied h, congrArg (List.cons _) ht⟩
  | atomic u k ih =>
    cases h with
    | atomic rest =>
      obtain ⟨hget, hset⟩ := hK s (u (part.get s)) hs
      obtain ⟨hs', t', h, ht⟩ := ih _ rest hset
      exact ⟨hs', _, .atomic (hget ▸ h), ht⟩
  | fork other next _ ih =>
    cases h with
    | fork rest =>
      obtain ⟨hs', t', h, ht⟩ := ih rest hs
      exact ⟨hs', _, .fork h, ht⟩

/-! ## Coming to an end -/

/-- **Every action comes to an end undisturbed** if all requests are replied to, and its history has
only replies that they may be replied to with. -/
theorem exists_undisturbed {good : (r : Request) → r.Reply → Prop} (hanswer : may.Answer good)
    (x : Action σ α) (s : σ) (w : ω) :
    ∃ t a s' w', x.Undisturbed may s w t a s' w' ∧
      ∀ r reply, .asked r reply ∈ t → good r reply := by
  induction x generalizing s w with
  | done a => exact ⟨[], a, s, w, .done a s w, fun _ _ h => absurd h List.not_mem_nil⟩
  | ask r k ih =>
    obtain ⟨reply, w₁, hreply, hgood⟩ := hanswer r w
    obtain ⟨t, a, s', w', h, ht⟩ := ih reply s w₁
    refine ⟨_, a, s', w', .ask hreply h, fun r' reply' hmem => ?_⟩
    obtain heq | hmem := List.mem_cons.1 hmem
    · cases heq
      exact hgood
    · exact ht r' reply' hmem
  | atomic u k ih =>
    obtain ⟨t, a, s', w', h, ht⟩ := ih s (u s) w
    exact ⟨_, a, s', w', .atomic h, fun r reply hmem =>
      ht r reply ((List.mem_cons.1 hmem).resolve_left nofun)⟩
  | fork other next _ ih =>
    obtain ⟨t, a, s', w', h, ht⟩ := ih s w
    exact ⟨_, a, s', w', .fork h, fun r reply hmem =>
      ht r reply ((List.mem_cons.1 hmem).resolve_left nofun)⟩

/-- **What an action does in a world that replies in one way**: its history, its result, and the
state and the world that it leaves. -/
def aloneIn (respond : (r : Request) → ω → r.Reply × ω) {α : Type} :
    Action σ α → σ → ω → List (Deed σ) × α × σ × ω
  | done a, s, w => ([], a, s, w)
  | ask r k, s, w =>
    let (reply, w) := respond r w
    let (t, result) := (k reply).aloneIn respond s w
    (.asked r reply :: t, result)
  | atomic u k, s, w =>
    let (t, result) := (k s).aloneIn respond (u s) w
    (.changed s (u s) :: t, result)
  | fork _ next, s, w =>
    let (t, result) := next.aloneIn respond s w
    (.forked :: t, result)

theorem undisturbed_aloneIn (respond : (r : Request) → ω → r.Reply × ω) (x : Action σ α) (s : σ)
    (w : ω) :
    x.Undisturbed (fun r w reply w' => respond r w = (reply, w')) s w (x.aloneIn respond s w).1
      (x.aloneIn respond s w).2.1 (x.aloneIn respond s w).2.2.1 (x.aloneIn respond s w).2.2.2 := by
  induction x generalizing s w with
  | done a => exact .done a s w
  | ask r k ih => exact .ask rfl (ih _ s _)
  | atomic u k ih => exact .atomic (ih s _ w)
  | fork other next _ ih => exact .fork (ih s w)

end Action

end NetUnits
