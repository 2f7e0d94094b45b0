import NetUnits.Proofs.Connector.Order
import NetUnits.Proofs.Host.Change
import NetUnits.Proofs.Schema.Loading
import NetUnits.Proofs.Service.Generation
import NetUnits.Proofs.Service.Task

/-! # Services do not wait for ever

Whatever a service is asked to do takes locks in one order: that of the kept connectors before that
of the registry, and no other lock while one of the registry, of the schemas or of a session is
held. So threads of a service never wait for each other, and all that it is asked comes to an end.

* **`Service.Built.orderly`** — what services do takes locks in order.
* **`Service.perform_orderly`** — so do tasks, one after the other. -/

namespace NetUnits.Service

open NetUnits.Action NetUnits.ConnectorPool NetUnits.ServiceState

variable {s : Service} {forgotten : String → Prop} {α : Type} {x : Action ServiceState α}

theorem call_orderly (host : String) {operation : Operation α}
    (h : ∀ c, Orderly [] (operation.on c) []) : Orderly [] (s.call host operation.on) [] := by
  have hcall : Orderly [] (s.pool.call host operation.on) [] :=
    (s.pool.get_orderly host).andThen fun c => runOn_orderly host _ (h c)
  exact (hcall.inside poolPart).bind fun result => by cases result <;> rfl

theorem hostGeneration_orderly (host : String) : Orderly [] (s.hostGeneration host) [] := by
  refine Orderly.bind (x := look) (fun _ => rfl) fun σ => ?_
  cases σ.generations.get? (hostKey host) with
  | some g => rfl
  | none =>
    have hversion : ∀ c, Orderly [] (Operation.version.on c) [] := fun c =>
      (Connector.Method.version.serves c).orderly.bind fun _ => rfl
    refine (call_orderly host hversion).andThen fun output => ?_
    exact (generationOf_obeys (q := fun _ _ => True) (fun _ _ => rfl) (hostKey host)
      output).orderly.bind fun g => orderly_change.bind fun _ => rfl

theorem schemasOf_orderly (version : Nat) : Orderly [] (s.schemasOf version) [] := by
  unfold schemasOf
  split
  · exact orderly_event.bind fun _ => rfl
  · have hgeneration : Orderly [] (s.store.generation version) [] := by
      by_cases h : s.store.available.contains version = true
      · obtain ⟨body, heq, hbody⟩ := s.store.exists_generation_eq h
        rw [heq]
        exact Orderly.withLock (fun _ hl => absurd hl List.not_mem_nil)
          (hbody (fun _ _ => rfl) fun _ _ _ => rfl).orderly
      · rw [SchemaStore.generation, if_neg h]
        rfl
    exact (hgeneration.inside schemaPart).bind fun result => by cases result <;> rfl

/-- An action on the registry under its lock. -/
theorem onRegistry_orderly {body : Action Registry α} {q : Registry → Registry → Prop}
    (h : body.Obeys Request.KeepsLocks q) :
    Orderly [] (onRegistry (withLock .registry body)) [] := by
  have hlocked : Orderly [] (withLock .registry body) [] :=
    Orderly.withLock (fun _ hl => absurd hl List.not_mem_nil) h.orderly
  exact (hlocked.inside PoolState.registryPart).inside poolPart

theorem add_orderly (entry : HostEntry) : Orderly [] (onRegistry (Registry.add entry)) [] := by
  cases hvalid : entry.validate with
  | error why =>
    rw [Registry.add_of_not_validate hvalid]
    rfl
  | ok =>
    rw [Registry.add_of_validate hvalid]
    exact onRegistry_orderly (Registry.addition_obeys entry)

theorem remove_orderly (name : String) : Orderly [] (onRegistry (Registry.remove name)) [] := by
  rw [Registry.remove_eq]
  exact onRegistry_orderly (Registry.removal_obeys name)

/-- **What services do takes locks in order.** -/
theorem Built.orderly (h : Built s forgotten x) : Orderly [] x [] := by
  induction h with
  | done a => rfl
  | ask request _ ih => exact ⟨[], request [], ih⟩
  | call host operation orderly _ ih => exact (call_orderly host orderly).bind ih
  | generation host _ ih => exact (hostGeneration_orderly host).bind ih
  | schemas version _ ih => exact (schemasOf_orderly version).bind ih
  | registered _ ih =>
    have hlist : Orderly [] (onRegistry Registry.list) [] :=
      onRegistry_orderly (q := fun _ _ => True) fun _ => ⟨trivial, trivial⟩
    exact hlist.bind ih
  | add entry _ ih => exact (add_orderly entry).bind ih
  | remove name _ ih => exact (remove_orderly name).bind ih
  | invalidate host _ _ ih =>
    have hinvalidate : Orderly [] (Service.invalidate host) [] :=
      ((ConnectorPool.invalidate_orderly host).inside poolPart).bind fun _ => orderly_change
    exact hinvalidate.bind ih

/-- **Tasks take locks in order.** -/
theorem perform_orderly (tasks : List Task) : Orderly [] (s.perform tasks) [] := by
  have hbuilt : Built s (fun _ => True) (s.perform tasks) :=
    perform_built fun _ _ _ _ => trivial
  exact hbuilt.orderly

end NetUnits.Service
