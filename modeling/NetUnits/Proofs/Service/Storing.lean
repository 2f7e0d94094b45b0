import NetUnits.Proofs.Connector.Storing
import NetUnits.Proofs.Document.RoundTrip
import NetUnits.Proofs.Kind
import NetUnits.Proofs.Schema.Contents
import NetUnits.Proofs.Service.Probe
import NetUnits.Proofs.Service.Remembered

/-! # Writing and reading documents

A service that writes a document first looks at the name of the file, finds out the generation for
the host, gets its schemas and makes the text. Only then it writes. So nothing is written if one of
these fails; and what was written is read back with the same schemas.

* **`Service.Unwritten`** — no file has been changed so far;
  **`Service.unwritten_of_hostGeneration`**, **`Service.unwritten_of_schemasOf`** — so it is while a
  service prepares to write.
* **`Service.schemasIn?`** — the schemas of a generation that are there.
* **`Service.ReadsBack`** — what a service that reads a file is given.
* **`Service.Writes`** — what becomes of a document that is written; **`Service.writes`** — it does
  so on every host that stores files. -/

namespace NetUnits

open NetUnits.Action NetUnits.ConnectorPool

/-- **An operation is refused** for what it was given: the name of the file, the schemas or the
text. -/
def ServiceError.IsRefusal : ServiceError → Prop
  | schema _ | unitFile _ | invalidFilename _ => True
  | _ => False

namespace Service

variable {ω α : Type} {may : Surroundings ω} {files : ω → String → Option ByteArray}
  {stands : ω → Session → Prop} {s : Service} {host : String} {c : Connector}
  {σ σ' σ₁ σ₂ : ServiceState} {w w' w₁ w₂ : ω} {t t₁ t₂ : List (Deed ServiceState)} {g : Nat}

/-! ## Calls -/

/-- **A call of a service is one of its pool**, and changes nothing else. -/
theorem of_undisturbed_call {operation : Operation α} {result : Except ServiceError α}
    (h : (s.call host operation.on).Undisturbed may σ w t result σ' w') :
    ∃ t' r, (s.pool.call host operation.on).Undisturbed may σ.pool w t' r σ'.pool w' ∧
      Deed.exchanges t' = Deed.exchanges t ∧ σ'.generations = σ.generations ∧
        σ'.schemas = σ.schemas ∧ ((∃ a, r = .ok a ∧ result = .ok a) ∨
          ∃ e, r = .error e ∧ result = .error (.connector e)) := by
  obtain ⟨t₁, _, r, σ₁, w₁, rfl, hinside, hrest⟩ := undisturbed_bind_iff.1 h
  obtain ⟨⟨hgenerations, hschemas⟩, t', hcall, hsame⟩ := hinside.exists_of_inside
    (K := fun σ₁ : ServiceState => σ₁.generations = σ.generations ∧ σ₁.schemas = σ.schemas)
    (fun _ _ h => ⟨rfl, h⟩) ⟨rfl, rfl⟩
  cases r with
  | ok a =>
    obtain ⟨rfl, rfl, rfl, rfl⟩ := undisturbed_done_iff.1 hrest
    exact ⟨t', _, hcall, by rwa [List.append_nil], hgenerations, hschemas, .inl ⟨a, rfl, rfl⟩⟩
  | error e =>
    obtain ⟨rfl, rfl, rfl, rfl⟩ := undisturbed_done_iff.1 hrest
    exact ⟨t', _, hcall, by rwa [List.append_nil], hgenerations, hschemas, .inr ⟨e, rfl, rfl⟩⟩

/-! ## Before anything is written -/

/-- **Nothing has been written**: no file is changed and nothing is handed over, and the connector
for the host is the same. -/
structure Unwritten (s : Service) (files : ω → String → Option ByteArray) (host : String)
    (σ : ServiceState) (w : ω) (t : List (Deed ServiceState)) (σ' : ServiceState) (w' : ω) :
    Prop where
  /-- The files are the same. -/
  files_eq : files w' = files w
  /-- Nothing is handed over to a file or a program. -/
  content : Deed.collect Request.content? t = []
  /-- The same connector is handed out for the host. -/
  handed : s.pool.handed host σ'.pool = s.pool.handed host σ.pool
  /-- The numbers of connectors stay their own. -/
  numbered : σ.pool.Numbered → σ'.pool.Numbered

theorem Unwritten.trans (h : Unwritten s files host σ w t₁ σ₁ w₁)
    (h' : Unwritten s files host σ₁ w₁ t₂ σ₂ w₂) :
    Unwritten s files host σ w (t₁ ++ t₂) σ₂ w₂ where
  files_eq := h'.files_eq.trans h.files_eq
  content := by rw [Deed.collect_append, h.content, h'.content, List.append_nil]
  handed := h'.handed.trans h.handed
  numbered := fun hσ => h'.numbered (h.numbered hσ)

theorem Unwritten.of_pool_eq (hpool : σ'.pool = σ.pool) (hfiles : files w' = files w)
    (ht : Deed.collect Request.content? t = []) : Unwritten s files host σ w t σ' w' where
  files_eq := hfiles
  content := ht
  handed := by rw [hpool]
  numbered := fun hσ => hpool ▸ hσ

/-- What is asked for aside, with no change of the pool, writes nothing. -/
theorem unwritten_of_aside {x : Action ServiceState α} {a : α} (hc : c.Stores may files stands)
    (h : x.Undisturbed may σ w t a σ' w')
    (hx : x.Obeys Request.IsAside fun σ σ' => σ'.pool = σ.pool) :
    Unwritten s files host σ w t σ' w' := by
  have hpool : σ'.pool = σ.pool := h.keeps (K := fun (σ₁ : ServiceState) _ => σ₁.pool = σ.pool) hx
    (fun _ _ _ _ _ _ _ hp => hp) (fun _ _ _ heq hp => heq.trans hp) rfl
  exact .of_pool_eq hpool (h.spares hx (hc.aside (files w)) rfl)
    (hx.avoids_content.collect_eq_nil h.run)

/-- **Asking a host for its version** writes nothing. -/
theorem unwritten_of_version {output : String} (hσ : σ.pool.Numbered)
    (hhanded : s.pool.handed host σ.pool = some c) (hc : c.Stores may files stands)
    (h : (s.call host Operation.version.on).Undisturbed may σ w t (.ok output) σ' w') :
    Unwritten s files host σ w t σ' w' := by
  obtain ⟨t', r, hpool, hsame, -, -, ⟨_, rfl, -⟩ | ⟨_, -, he⟩⟩ := of_undisturbed_call h
  · obtain ⟨hfiles, hsameHost, hcontent⟩ := of_undisturbed_version hσ hhanded hc hpool
    refine ⟨hfiles, ?_, hsameHost, fun hσ => ?_⟩
    · rw [Deed.collect_eq_filterMap, ← hsame, ← Deed.collect_eq_filterMap]
      exact hcontent
    · exact numbered_of_undisturbed hpool (s.pool.callWithin_obeys _ host _) hσ
  · cases he

/-- **Finding out the generation for a host** writes nothing, and the generation is remembered. -/
theorem unwritten_of_hostGeneration (hσ : σ.pool.Numbered)
    (hhanded : s.pool.handed host σ.pool = some c) (hc : c.Stores may files stands)
    (h : (s.hostGeneration host).Undisturbed may σ w t (.ok g) σ' w') :
    Unwritten s files host σ w t σ' w' ∧ σ'.generations.get? (hostKey host) = some g := by
  obtain ⟨_, rfl, hlooked⟩ := undisturbed_look_bind_iff.1 h
  have hlook : Unwritten s files host σ w [.changed σ σ] σ w := .of_pool_eq rfl rfl rfl
  cases hknown : σ.generations.get? (hostKey host) with
  | some g' =>
    rw [hknown] at hlooked
    obtain ⟨rfl, hg, rfl, rfl⟩ := undisturbed_done_iff.1 hlooked
    exact ⟨hlook, hknown.trans (congrArg some (Except.ok.inj hg).symm)⟩
  | none =>
    rw [hknown] at hlooked
    obtain ⟨_, -, he⟩ | ⟨_, _, output, σ₁, w₁, rfl, hcall, hrest⟩ :=
      undisturbed_andThen_iff.1 hlooked
    · cases he
    obtain ⟨_, _, g', σ₂, w₂, rfl, hgeneration, hlast⟩ := undisturbed_bind_iff.1 hrest
    obtain ⟨_, _, _, _, _, rfl, hremember, hdone⟩ := undisturbed_bind_iff.1 hlast
    obtain ⟨rfl, -, rfl, rfl⟩ := undisturbed_change_iff.1 hremember
    obtain ⟨rfl, hg, rfl, rfl⟩ := undisturbed_done_iff.1 hdone
    obtain rfl := Except.ok.inj hg
    have hasked := unwritten_of_version hσ hhanded hc hcall
    have htold : Unwritten s files host σ₁ w₁ _ σ₂ w₂ :=
      unwritten_of_aside hc hgeneration (generationOf_obeys (fun _ => trivial) _ _)
    have hremembered : Unwritten s files host σ₂ w₂
        [.changed σ₂ { σ₂ with generations := σ₂.generations.insert (hostKey host) g }]
        { σ₂ with generations := σ₂.generations.insert (hostKey host) g } w₂ :=
      .of_pool_eq rfl rfl rfl
    refine ⟨hlook.trans (hasked.trans (htold.trans hremembered)), ?_⟩
    rw [Dict.get?_insert, if_pos rfl]

/-- Finding it out fails only for the connector. -/
theorem exists_eq_connector_of_hostGeneration {e : ServiceError}
    (h : (s.hostGeneration host).Undisturbed may σ w t (.error e) σ' w') :
    ∃ e', e = .connector e' := by
  obtain ⟨_, rfl, hlooked⟩ := undisturbed_look_bind_iff.1 h
  cases hknown : σ.generations.get? (hostKey host) with
  | some g =>
    rw [hknown] at hlooked
    exact nomatch (undisturbed_done_iff.1 hlooked).2.1
  | none =>
    rw [hknown] at hlooked
    obtain ⟨e', hcall, he⟩ | ⟨_, _, _, _, _, -, -, hrest⟩ := undisturbed_andThen_iff.1 hlooked
    · obtain rfl := Except.error.inj he
      have hversion : (s.call host Operation.version.on).Undisturbed may σ w _ (.error e) σ' w' :=
        hcall
      obtain ⟨_, _, -, -, -, -, ⟨_, -, hok⟩ | ⟨e', -, he⟩⟩ := of_undisturbed_call hversion
      · cases hok
      · exact ⟨e', Except.error.inj he⟩
    · obtain ⟨_, _, _, _, _, -, -, hlast⟩ := undisturbed_bind_iff.1 hrest
      obtain ⟨_, _, _, _, _, -, -, hdone⟩ := undisturbed_bind_iff.1 hlast
      exact nomatch (undisturbed_done_iff.1 hdone).2.1

/-- A generation that is remembered is taken. -/
theorem of_undisturbed_hostGeneration_known {result : Except ServiceError Nat}
    (hknown : σ.generations.get? (hostKey host) = some g)
    (h : (s.hostGeneration host).Undisturbed may σ w t result σ' w') :
    result = .ok g ∧ σ' = σ ∧ w' = w := by
  obtain ⟨_, rfl, hlooked⟩ := undisturbed_look_bind_iff.1 h
  rw [hknown] at hlooked
  obtain ⟨rfl, rfl, rfl, rfl⟩ := undisturbed_done_iff.1 hlooked
  exact ⟨rfl, rfl, rfl⟩

/-! ## Schemas -/

/-- **The schemas of a generation that are there**: those that are loaded, or none at all if none
are installed. -/
def schemasIn? (s : Service) (loaded : LoadedSchemas) (version : Nat) : Option Generation :=
  if s.store.available.isEmpty then some (untyped version)
  else if version ∈ s.store.available then loaded.find? (·.version == version)
  else none

/-- **Schemas that were got are there** afterwards, and those that are there are got. -/
theorem of_undisturbed_schemasOf {result : Except ServiceError Generation}
    (h : (s.schemasOf g).Undisturbed may σ w t result σ' w') :
    ((∃ e, result = .error (.schema e)) ∧ s.schemasIn? σ.schemas g = none) ∨
      ∃ generation, result = .ok generation ∧ s.schemasIn? σ'.schemas g = some generation ∧
        ∀ known, s.schemasIn? σ.schemas g = some known → known = generation := by
  rw [schemasOf] at h
  split at h
  · rename_i hempty
    have hin : ∀ loaded, s.schemasIn? loaded g = some (untyped g) := fun _ => if_pos hempty
    obtain ⟨_, _, _, _, _, rfl, -, hdone⟩ := undisturbed_bind_iff.1 h
    obtain ⟨-, rfl, -, -⟩ := undisturbed_done_iff.1 hdone
    exact .inr ⟨untyped g, rfl, hin _, fun known hknown =>
      Option.some.inj (hknown.symm.trans (hin _))⟩
  · rename_i hempty
    obtain ⟨t₁, _, r, σ₁, w₁, rfl, hinside, hrest⟩ := undisturbed_bind_iff.1 h
    obtain ⟨-, t', hgeneration, -⟩ := hinside.exists_of_inside (K := fun _ => True)
      (fun _ _ _ => ⟨rfl, trivial⟩) trivial
    by_cases havailable : g ∈ s.store.available
    · have hin : ∀ loaded, s.schemasIn? loaded g = loaded.find? (·.version == g) := fun _ => by
        rw [schemasIn?, if_neg hempty, if_pos havailable]
      obtain ⟨generation, hfind, rfl, -, hsame⟩ | ⟨hfind, contents, rfl, -, hkept⟩ :=
        SchemaStore.of_run_generation havailable hgeneration.run hgeneration.passes
      · obtain ⟨-, rfl, rfl, -⟩ := undisturbed_done_iff.1 hrest
        refine .inr ⟨generation, rfl, ?_, fun known hknown => ?_⟩
        · rw [hin]
          exact (congrArg _ hsame).trans hfind
        · rw [hin] at hknown
          exact Option.some.inj (hknown.symm.trans hfind)
      · obtain ⟨-, rfl, rfl, -⟩ := undisturbed_done_iff.1 hrest
        refine .inr ⟨_, rfl, ?_, fun known hknown => ?_⟩
        · rw [hin, show σ₁.schemas = _ from hkept, List.find?_append, hfind]
          simp
        · rw [hin] at hknown
          exact nomatch hknown.symm.trans hfind
    · obtain ⟨-, rfl⟩ := (SchemaStore.run_generation_of_not_mem havailable).1 hgeneration.run
      obtain ⟨-, rfl, -, -⟩ := undisturbed_done_iff.1 hrest
      exact .inl ⟨⟨_, rfl⟩, by rw [schemasIn?, if_neg hempty, if_neg havailable]⟩

/-- Getting schemas asks for nothing but aside. -/
theorem schemasOf_aside (version : Nat) :
    (s.schemasOf version).Obeys Request.IsAside
      fun σ σ' => σ'.pool = σ.pool ∧ σ'.generations = σ.generations := by
  unfold schemasOf
  split
  · exact (obeys_request trivial).bind fun _ => trivial
  · have hload : (s.store.generation version).Obeys Request.IsAside fun _ _ => True :=
      s.store.generation_obeys (fun _ => trivial) (fun _ _ => trivial) trivial trivial version
    exact (hload.inside _ fun _ _ _ => ⟨rfl, rfl⟩).bind fun result => by cases result <;> trivial

/-- **Getting schemas** writes nothing, and the remembered generations stay. -/
theorem unwritten_of_schemasOf (host : String) {result : Except ServiceError Generation}
    (hc : c.Stores may files stands) (h : (s.schemasOf g).Undisturbed may σ w t result σ' w') :
    Unwritten s files host σ w t σ' w' ∧ σ'.generations = σ.generations :=
  ⟨unwritten_of_aside hc h ((schemasOf_aside g).mono (fun _ hr => hr) fun _ _ hs => hs.1),
    h.keeps (K := fun (σ₁ : ServiceState) _ => σ₁.generations = σ.generations) (schemasOf_aside g)
      (fun _ _ _ _ _ _ _ hs => hs) (fun _ _ _ heq hs => heq.2.trans hs) rfl⟩

/-! ## Reading -/

/-- **A file is read back** as a kind and a document: if workers do their work, nothing else can
come of reading it, and something does if all requests are replied to. -/
structure ReadsBack (s : Service) (may : Surroundings ω) (files : ω → String → Option ByteArray)
    (host filename : String) (kind : Kind) (document : Document) (σ : ServiceState) (w : ω) :
    Prop where
  /-- A read gives the kind and the document, and changes no file. -/
  reads : ∀ t result σ' w', (s.read host filename).Undisturbed may σ w t result σ' w' →
    (∀ r reply, .asked r reply ∈ t → r.IsPrompt reply) →
      result = .ok (kind, document) ∧ files w' = files w
  /-- There is such a read. -/
  exists_read : may.Answer Request.IsPrompt →
    ∃ t σ' w', (s.read host filename).Undisturbed may σ w t (.ok (kind, document)) σ' w'

section Reading

variable {filename text : String} {kind : Kind} {generation : Generation} {document : Document}

/-- **The text of a file that is there is read** if its connector is at hand and ready. -/
theorem of_undisturbed_readText {result : Except ServiceError String}
    (hc : c.Stores may files stands) (hkind : Kind.ofSafeFilename? filename = some kind)
    (hinside : Kind.staysInside filename = true) (hholds : s.pool.Holds host σ.pool c)
    (hready : Ready stands σ.pool w c) (hnamed : (workerName c).toList.contains '\x00' = false)
    (hstored : files w (c.pathOf filename) = some (Text.bytesOf text))
    (hprompt : ∀ r reply, .asked r reply ∈ t → r.IsPrompt reply)
    (h : (s.readText host filename).Undisturbed may σ w t result σ' w') :
    result = .ok text ∧ files w' = files w ∧ σ'.generations = σ.generations ∧
      σ'.schemas = σ.schemas := by
  rw [readText, Kind.ofSafeFilename_of_eq_some hkind] at h
  obtain ⟨t₁, t₂, r, σ₁, w₁, rfl, hread, hdone⟩ := undisturbed_bind_iff.1 h
  have hcall : (s.call host (Operation.read filename).on).Undisturbed may σ w t₁ r σ₁ w₁ := hread
  obtain ⟨t', r', hpool, hsame, hgenerations, hloaded, hresult⟩ := of_undisturbed_call hcall
  have hprompt' : ∀ r reply, .asked r reply ∈ t' → r.IsPrompt reply := fun r reply hmem => by
    refine hprompt r reply (List.mem_append_left _ (Deed.mem_exchanges_iff.1 ?_))
    rw [← hsame]
    exact Deed.mem_exchanges_iff.2 hmem
  obtain ⟨rfl, hfiles⟩ :=
    ConnectorPool.of_undisturbed_read hc hinside hholds hready hnamed hstored hprompt' hpool
  obtain ⟨bytes, hbytes, rfl⟩ | ⟨e, he, -⟩ := hresult
  · obtain rfl := Except.ok.inj hbytes
    obtain ⟨-, rfl, rfl, rfl⟩ := undisturbed_done_iff.1 hdone
    exact ⟨by rw [Text.lenient_bytesOf], hfiles, hgenerations, hloaded⟩
  · cases he

/-- **A text is converted** with schemas that are loaded. -/
theorem of_undisturbed_convert {result : Except ServiceError Document}
    (hc : c.Stores may files stands) (hschemas : s.schemasIn? σ.schemas g = some generation)
    (h : (s.convert text kind g).Undisturbed may σ w t result σ' w') :
    result = ofUnitFile (s.documentOf generation kind text) ∧ files w' = files w := by
  obtain ⟨t₁, t₂, r, σ₁, w₁, rfl, hgot, hdone⟩ := undisturbed_bind_iff.1 h
  have hfiles : files w₁ = files w := hgot.spares (schemasOf_aside g) (hc.aside (files w)) rfl
  obtain ⟨-, hnone⟩ | ⟨generation', rfl, -, hknown⟩ := of_undisturbed_schemasOf hgot
  · cases hschemas.symm.trans hnone
  · obtain rfl := hknown generation hschemas
    obtain ⟨-, rfl, -, rfl⟩ := undisturbed_done_iff.1 hdone
    exact ⟨rfl, hfiles⟩

/-- **A file that is there is read** with the generation that is remembered for the host and the
schemas that are loaded for it. -/
theorem readsBack (hc : c.Stores may files stands)
    (hkind : Kind.ofSafeFilename? filename = some kind) (hinside : Kind.staysInside filename = true)
    (hholds : s.pool.Holds host σ.pool c) (hready : Ready stands σ.pool w c)
    (hnamed : (workerName c).toList.contains '\x00' = false)
    (hstored : files w (c.pathOf filename) = some (Text.bytesOf text))
    (hknown : σ.generations.get? (hostKey host) = some g)
    (hschemas : s.schemasIn? σ.schemas g = some generation)
    (hdocument : s.documentOf generation kind text = .ok document) :
    ReadsBack s may files host filename kind document σ w := by
  have hreads : ∀ t result σ' w', (s.read host filename).Undisturbed may σ w t result σ' w' →
      (∀ r reply, .asked r reply ∈ t → r.IsPrompt reply) →
        result = .ok (kind, document) ∧ files w' = files w := by
    intro t result σ' w' h hprompt
    rw [Service.read, Kind.ofSafeFilename_of_eq_some hkind] at h
    obtain ⟨t₁, _, _, σ₁, w₁, rfl, htext, hrest⟩ := undisturbed_bind_iff.1 h
    -- the text is read first; neither it nor the generation changes what is loaded
    have hprompt₁ : ∀ r reply, .asked r reply ∈ t₁ → r.IsPrompt reply := fun r reply hmem =>
      hprompt r reply (List.mem_append_left _ hmem)
    obtain ⟨rfl, hfiles, hgenerations, hloaded⟩ :=
      of_undisturbed_readText hc hkind hinside hholds hready hnamed hstored hprompt₁ htext
    obtain ⟨_, _, _, _, _, rfl, hgeneration, hlast⟩ := undisturbed_bind_iff.1 hrest
    obtain ⟨rfl, rfl, rfl⟩ :=
      of_undisturbed_hostGeneration_known (hgenerations ▸ hknown) hgeneration
    obtain ⟨_, _, _, _, w₂, rfl, hconvert, hdone⟩ := undisturbed_bind_iff.1 hlast
    obtain ⟨rfl, hfiles'⟩ := of_undisturbed_convert hc (hloaded ▸ hschemas) hconvert
    rw [hdocument] at hdone
    obtain ⟨-, rfl, -, rfl⟩ := undisturbed_done_iff.1 hdone
    exact ⟨rfl, hfiles'.trans hfiles⟩
  refine ⟨hreads, fun hanswer => ?_⟩
  obtain ⟨t, result, σ', w', h, hprompt⟩ :=
    exists_undisturbed hanswer (s.read host filename) σ w
  obtain ⟨rfl, -⟩ := hreads t result σ' w' h hprompt
  exact ⟨t, σ', w', h⟩

end Reading

/-! ## Writing -/

section Writing

variable {filename text : String} {kind : Kind} {document : Document}

/-- **Making the text of a document** writes nothing. -/
theorem of_undisturbed_render (host : String) {result : Except ServiceError String}
    (hc : c.Stores may files stands)
    (h : (s.render document kind g).Undisturbed may σ w t result σ' w') :
    Unwritten s files host σ w t σ' w' ∧ σ'.generations = σ.generations ∧
      ((∃ e, result = .error (.schema e)) ∨ (∃ e, result = .error (.unitFile e)) ∨
        ∃ generation text, result = .ok text ∧ s.schemasIn? σ'.schemas g = some generation ∧
          document.toText generation.types kind = .ok text) := by
  obtain ⟨t₁, _, r, σ₁, w₁, rfl, hgot, hdone⟩ := undisturbed_bind_iff.1 h
  obtain ⟨hunwritten, hgenerations⟩ := unwritten_of_schemasOf host hc hgot
  obtain ⟨⟨e, rfl⟩, -⟩ | ⟨generation, rfl, hschemas, -⟩ := of_undisturbed_schemasOf hgot
  · obtain ⟨rfl, rfl, rfl, rfl⟩ := undisturbed_done_iff.1 hdone
    exact ⟨by rwa [List.append_nil], hgenerations, .inl ⟨e, rfl⟩⟩
  · obtain ⟨rfl, rfl, rfl, rfl⟩ := undisturbed_done_iff.1 hdone
    refine ⟨by rwa [List.append_nil], hgenerations, .inr ?_⟩
    cases htext : document.toText generation.types kind with
    | error e => exact .inl ⟨e, rfl⟩
    | ok text => exact .inr ⟨generation, text, rfl, hschemas, htext⟩

/-- **A text that is written** is in its file, and nothing else is changed; the connector is at hand
and ready then. Writing fails only for the connector. -/
theorem of_undisturbed_writeText {result : Except ServiceError Unit} (hσ : σ.pool.Numbered)
    (hhanded : s.pool.handed host σ.pool = some c) (hc : c.Stores may files stands)
    (hkind : Kind.ofSafeFilename? filename = some kind)
    (h : (s.writeText host filename text).Undisturbed may σ w t result σ' w') :
    (∃ e, result = .error (.connector e)) ∨
      result = .ok () ∧
        files w' = Function.update (files w) (c.pathOf filename) (some (Text.bytesOf text)) ∧
          σ'.generations = σ.generations ∧ σ'.schemas = σ.schemas ∧ s.pool.Holds host σ'.pool c ∧
            Ready stands σ'.pool w' c ∧ (workerName c).toList.contains '\x00' = false := by
  rw [writeText, Kind.ofSafeFilename_of_eq_some hkind] at h
  obtain ⟨t₁, _, r, σ₁, w₁, rfl, hwrite, hrest⟩ := undisturbed_bind_iff.1 h
  have hcall : (s.call host (Operation.write filename (Text.bytesOf text)).on).Undisturbed may σ w
      t₁ r σ₁ w₁ := hwrite
  obtain ⟨t', r', hpool, -, hgenerations, hschemas, ⟨_, rfl, rfl⟩ | ⟨e, -, rfl⟩⟩ :=
    of_undisturbed_call hcall
  · obtain ⟨hfiles, hholds, hready, hnamed⟩ := ConnectorPool.of_undisturbed_write hσ hhanded hc
      (Kind.ofSafeFilename?_eq_some_iff.1 hkind).1 hpool
    obtain ⟨_, _, _, _, _, rfl, hevent, hdone⟩ := undisturbed_bind_iff.1 hrest
    obtain ⟨rfl, rfl, htold⟩ := undisturbed_request_iff.1 hevent
    obtain ⟨-, rfl, rfl, rfl⟩ := undisturbed_done_iff.1 hdone
    refine .inr ⟨rfl, ?_, hgenerations, hschemas, hholds, ?_, hnamed⟩
    · rw [hc.aside (files w₁) (.event _) _ _ _ trivial htold rfl, hfiles]
    · exact hready.of_world fun session => hc.standing session (.event _) _ _ _ trivial htold
  · obtain ⟨-, rfl, -, -⟩ := undisturbed_done_iff.1 hrest
    exact .inl ⟨e, rfl⟩

end Writing

/-- **What becomes of a document that a service is asked to write** to a file of a host. -/
structure Writes (s : Service) (may : Surroundings ω) (files : ω → String → Option ByteArray)
    (host filename : String) (document : Document) (c : Connector) (σ : ServiceState) (w : ω)
    (t : List (Deed ServiceState)) (result : Except ServiceError Unit) (σ' : ServiceState)
    (w' : ω) : Prop where
  /-- If it is written, the file holds its text and no other file is changed. What is read back then
  is the kind of the file and the document in that text, by the same schemas. -/
  written : result = .ok () → ∃ kind g generation text canonical,
    Kind.ofFilename? filename = some kind ∧ σ'.generations.get? (hostKey host) = some g ∧
      s.schemasIn? σ'.schemas g = some generation ∧
        document.toText generation.types kind = .ok text ∧
          files w' = Function.update (files w) (c.pathOf filename) (some (Text.bytesOf text)) ∧
            Document.ofText text generation.types
              (generation.repeatable.mergedWith s.settings.repeatable) kind = .ok canonical ∧
                ReadsBack s may files host filename kind canonical σ' w'
  /-- If it is refused, nothing is handed over to a file or a program, and no file is changed. -/
  refused : ∀ e, result = .error e → e.IsRefusal →
    Deed.collect Request.content? t = [] ∧ files w' = files w
  /-- If it is refused for the name of the file, nothing is done at all. -/
  unsafe_name : ∀ name, result = .error (.invalidFilename name) → t = [] ∧ σ' = σ ∧ w' = w

/-- **A document is written to its file and read back in canonical form, or nothing is written**, on
every host that stores files, if nobody disturbs the service. -/
theorem writes {filename : String} {document : Document} {result : Except ServiceError Unit}
    (hσ : σ.pool.Numbered) (hhanded : s.pool.handed host σ.pool = some c)
    (hc : c.Stores may files stands)
    (h : (s.write host filename document).Undisturbed may σ w t result σ' w') :
    Writes s may files host filename document c σ w t result σ' w' := by
  rw [Service.write] at h
  cases hkind : Kind.ofSafeFilename? filename with
  | none =>
    rw [Kind.ofSafeFilename_of_eq_none hkind] at h
    obtain ⟨rfl, rfl, rfl, rfl⟩ := undisturbed_done_iff.1 h
    exact ⟨nofun, fun _ _ _ => ⟨rfl, rfl⟩, fun _ _ => ⟨rfl, rfl, rfl⟩⟩
  | some kind =>
    rw [Kind.ofSafeFilename_of_eq_some hkind] at h
    obtain ⟨e, hgeneration, rfl⟩ | ⟨t₁, _, g, σ₁, w₁, rfl, hgeneration, hrest⟩ :=
      undisturbed_andThen_iff.1 h
    · obtain ⟨e, rfl⟩ := exists_eq_connector_of_hostGeneration hgeneration
      exact ⟨nofun, fun e he hrefused => by cases he; exact hrefused.elim, nofun⟩
    obtain ⟨hbefore, hknown⟩ := unwritten_of_hostGeneration hσ hhanded hc hgeneration
    obtain ⟨t₂, t₃, r, σ₂, w₂, rfl, hrender, hlast⟩ := undisturbed_bind_iff.1 hrest
    obtain ⟨hrendered, hgenerations, hresult⟩ := of_undisturbed_render host hc hrender
    have hunwritten := hbefore.trans hrendered
    obtain ⟨e, rfl⟩ | ⟨e, rfl⟩ | ⟨generation, text, rfl, hschemas, htext⟩ := hresult
    · obtain ⟨rfl, rfl, rfl, rfl⟩ := undisturbed_done_iff.1 hlast
      refine ⟨nofun, fun _ _ _ => ?_, nofun⟩
      exact ⟨by rw [List.append_nil]; exact hunwritten.content, hunwritten.files_eq⟩
    · obtain ⟨rfl, rfl, rfl, rfl⟩ := undisturbed_done_iff.1 hlast
      refine ⟨nofun, fun _ _ _ => ?_, nofun⟩
      exact ⟨by rw [List.append_nil]; exact hunwritten.content, hunwritten.files_eq⟩
    obtain ⟨e, rfl⟩ | ⟨rfl, hfiles, hgenerations', hschemas', hholds, hready, hnamed⟩ :=
      of_undisturbed_writeText (hunwritten.numbered hσ) (hunwritten.handed.trans hhanded) hc hkind
        hlast
    · exact ⟨nofun, fun e he hrefused => by cases he; exact hrefused.elim, nofun⟩
    obtain ⟨hinside, hextension⟩ := Kind.ofSafeFilename?_eq_some_iff.1 hkind
    rw [hunwritten.files_eq] at hfiles
    -- what the text was made with is still there for a read
    have hknown' : σ'.generations.get? (hostKey host) = some g := by
      rw [hgenerations', hgenerations, hknown]
    have hin : s.schemasIn? σ'.schemas g = some generation := by rw [hschemas', hschemas]
    have hcanonical : s.documentOf generation kind text =
        .ok (document.normal generation.types (s.repeatable generation) kind) :=
      Document.ofText_of_toText htext
    refine ⟨fun _ => ⟨kind, g, generation, text, _, hextension, hknown', hin, htext, hfiles,
      hcanonical, ?_⟩, nofun, nofun⟩
    exact readsBack hc hkind hinside hholds hready hnamed (by rw [hfiles, Function.update_self])
      hknown' hin hcanonical

/-- A machine on which nothing is amiss keeps what is saved. -/
def replyWithFiles : (r : Request) → (String → Option ByteArray) →
    r.Reply × (String → Option ByteArray)
  | .save path content, F => (.ok (), Function.update F path (some content))
  | .load path, F => (((F path).elim (.error .notFound) .ok : Except Fault ByteArray), F)
  | r, F => (r.usual, F)

/-- Such a machine stores files. -/
theorem stores_replyWithFiles (c : LocalConnector) :
    (Connector.here c).Stores (fun r F reply F' => replyWithFiles r F = (reply, F')) id
      fun _ _ => True := by
  refine c.stores (fun r hr F reply F' h => ?_) (fun _ _ _ _ _ _ _ _ => trivial)
    (fun _ _ _ _ _ h => (congrArg Prod.snd h).symm) (fun _ _ _ _ h => (congrArg Prod.snd h).symm)
    fun path content F reply F' h hF => ?_
  · cases r <;> first | exact hr.elim | exact (congrArg Prod.snd h).symm
  obtain rfl : (F path).elim (.error .notFound) .ok = reply := congrArg Prod.fst h
  rw [show F path = some content from hF]
  rfl

/-- A small document. -/
def smallDocument : Document :=
  .ofList [("Match", .single (.ofList [("Name", .text "lan0")])),
    ("Network", .single (.ofList [("DHCP", .bool true)]))]

/-- A small document is written on this machine. -/
theorem writes_here :
    ∃ t σ' F', (sample.write "" "lan.network" smallDocument).Undisturbed
        (fun r F reply F' => replyWithFiles r F = (reply, F')) sampleState (fun _ => none) t
          (.ok ()) σ' F' ∧
      Writes sample (fun r F reply F' => replyWithFiles r F = (reply, F')) id "" "lan.network"
        smallDocument (.here sample.pool.here) sampleState (fun _ => none) t (.ok ()) σ' F' := by
  have hdone : ((sample.write "" "lan.network" smallDocument).aloneIn replyWithFiles sampleState
      fun _ => none).2.1 = .ok () := rfl
  have h := undisturbed_aloneIn replyWithFiles (sample.write "" "lan.network" smallDocument)
    sampleState fun _ => none
  rw [hdone] at h
  exact ⟨_, _, _, h, writes (PoolState.numbered_of_kept_empty rfl) rfl
    (stores_replyWithFiles _) h⟩

end Service

end NetUnits
