import NetUnits.Proofs.Action.History
import NetUnits.Schema.Store

/-! # What loading schemas asks for

A generation is loaded under the lock of the schemas. Its documents are read from files, and the log
is told what becomes of them; nothing else is asked for.

* **`SchemaStore.loadGeneration_obeys`** — the requests of loading a generation.
* **`SchemaStore.exists_generation_eq`**, **`SchemaStore.generation_obeys`** — those of getting one,
  under the lock and with it. -/

namespace NetUnits

open NetUnits.Action

/-- What is done for each item of a list obeys the rules that each step obeys. -/
theorem Action.obeys_forIn {σ α β : Type} {p : Request → Prop} {q : σ → σ → Prop} (items : List α)
    {step : α → β → Action σ (ForInStep β)} (h : ∀ a b, (step a b).Obeys p q) (first : β) :
    (forIn items first step).Obeys p q := by
  induction items generalizing first with
  | nil => trivial
  | cons a rest ih =>
    rw [List.forIn_cons]
    refine (h a first).bind fun next => ?_
    cases next with
    | done b => trivial
    | yield b => exact ih b

namespace SchemaStore

section Requests

variable {σ : Type} {p : Request → Prop} {q : σ → σ → Prop} (store : SchemaStore)
  (hevent : ∀ event, p (.event event)) (hload : ∀ version (kind : Kind),
    p (.load (Path.join (store.directoryOf version) kind.schemaFile)))

include hevent

theorem reportIndex_obeys (kind : Kind) (document : Json) :
    (reportIndex kind document : Action σ _).Obeys p q := by
  have htold : ∀ level message, (event .schemaIndex level message : Action σ _).Obeys p q :=
    fun _ _ => obeys_request (hevent _)
  unfold reportIndex
  split
  · exact htold _ _
  · refine Obeys.bind (obeys_forIn _ (fun _ _ => ?_) _) fun _ => htold _ _
    exact (htold _ _).bind fun _ => trivial

theorem reportDocuments_obeys (documents : PerKind (Option Json)) :
    (reportDocuments documents : Action σ _).Obeys p q := by
  refine Obeys.bind (obeys_forIn _ (fun kind _ => ?_) _) fun _ => trivial
  cases documents.get kind with
  | none => trivial
  | some document => exact (reportIndex_obeys hevent kind document).bind fun _ => trivial

include hload

theorem loadDocument_obeys (version : Nat) (kind : Kind) :
    (store.loadDocument version kind : Action σ _).Obeys p q := by
  have hfile : (loadText (Path.join (store.directoryOf version) kind.schemaFile) :
      Action σ _).Obeys p q := ⟨hload _ _, fun _ => trivial⟩
  refine hfile.bind fun content => ?_
  split
  · trivial
  · exact (obeys_request (hevent _)).bind fun _ => trivial

theorem loadDocuments_obeys (version : Nat) :
    (store.loadDocuments version : Action σ _).Obeys p q :=
  (store.loadDocument_obeys hevent hload version _).bind fun _ =>
    (store.loadDocument_obeys hevent hload version _).bind fun _ =>
      (store.loadDocument_obeys hevent hload version _).bind fun _ =>
        (store.loadDocument_obeys hevent hload version _).bind fun _ => trivial

end Requests

variable {p : Request → Prop} (store : SchemaStore) (hevent : ∀ event, p (.event event))
  (hload : ∀ version (kind : Kind),
    p (.load (Path.join (store.directoryOf version) kind.schemaFile)))

include hevent hload

/-- **Loading a generation** reads files of the store and tells the log. -/
theorem loadGeneration_obeys (version : Nat) :
    (store.loadGeneration version).Obeys p fun _ _ => True :=
  (store.loadDocuments_obeys hevent hload version).bind fun documents =>
    (reportDocuments_obeys hevent documents).bind fun _ =>
      (obeys_request (hevent _)).bind fun _ => obeys_change fun _ => trivial

omit hevent hload in
/-- **A generation is got under the lock of the schemas**, by reading files and telling the log. -/
theorem exists_generation_eq {version : Nat} (h : store.available.contains version = true) :
    ∃ body, store.generation version = withLock .schemas body ∧
      ∀ {p : Request → Prop}, (∀ event, p (.event event)) →
        (∀ version (kind : Kind),
          p (.load (Path.join (store.directoryOf version) kind.schemaFile))) →
        body.Obeys p fun _ _ => True := by
  refine ⟨_, if_pos h, fun hevent hload => ?_⟩
  refine Obeys.bind (x := look) (fun _ => ⟨trivial, trivial⟩) fun loaded => ?_
  split
  · exact (obeys_request (hevent _)).bind fun _ => trivial
  · exact (store.loadGeneration_obeys hevent hload version).bind fun _ => trivial

/-- **Getting a generation** asks for nothing else but the lock. -/
theorem generation_obeys (hacquire : p (.acquire .schemas)) (hrelease : p (.release .schemas))
    (version : Nat) : (store.generation version).Obeys p fun _ _ => True := by
  by_cases h : store.available.contains version = true
  · obtain ⟨body, heq, hbody⟩ := store.exists_generation_eq h
    exact heq ▸ Obeys.withLock hacquire hrelease (hbody hevent hload)
  · rw [generation, if_neg h]
    trivial

end SchemaStore

end NetUnits
