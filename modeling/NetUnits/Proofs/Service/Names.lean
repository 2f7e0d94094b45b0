import NetUnits.Proofs.Schema.Contents
import NetUnits.Proofs.Service.Unknown

/-! # Names of files that services hand over

Services accept the names of files that they are asked for before they hand them to connectors, but
names that a connector has listed are handed back to it as they are. A listing takes every name that
has the extension of a kind, and a name that is accepted must also stay inside the directory.

* **`Service.Harmless`** — nothing that is listed leads out of the directory.
* **`Service.HandsOver`** — an action of a service hands connectors only some names;
  **`Service.parts_handsOver`** — what tasks are made of does.
* **`Service.Lists`** — a host has listed entries;
  **`Service.exists_lists_of_run_list`** — files are among them.
* **`Service.OnHost.unrefused`** — operations whose arguments are accepted fail for other reasons
  only.
* **`Service.Names`** — what services do with names; **`Service.names`** — all of them do so.
* **`Service.hands_over_outside`** — a name that is not accepted may be listed, read and refused. -/

namespace NetUnits.Service

open NetUnits.Action NetUnits.Deed NetUnits.ConnectorPool NetUnits.ServiceState

variable {s : Service} {host h : String} {kind : Kind} {name : String} {listed : List DirEntry}
  {rely : List DirEntry → Prop} {ok : String → Prop} {α β : Type} {t u : List (Deed ServiceState)}

/-! ## Names that are listed -/

/-- **Nothing that is listed leads out of the directory**: the names of all files with the extension
of a kind stay inside. -/
def Harmless (listed : List DirEntry) : Prop :=
  ∀ entry ∈ listed, entry.isDir = false → (Kind.ofFilename? entry.name).isSome = true →
    Kind.staysInside entry.name = true

instance : DecidablePred Harmless := fun listed =>
  inferInstanceAs (Decidable (∀ entry ∈ listed, entry.isDir = false →
    (Kind.ofFilename? entry.name).isSome = true → Kind.staysInside entry.name = true))

/-- **A name is accepted** for a file of the configuration directory. -/
def Accepted (name : String) : Prop :=
  (Kind.ofSafeFilename? name).isSome = true

instance : DecidablePred Accepted := fun name =>
  inferInstanceAs (Decidable ((Kind.ofSafeFilename? name).isSome = true))

/-- The names of a kind are those of the files with its extension. -/
theorem mem_namesOf_iff :
    name ∈ namesOf kind listed ↔
      ∃ entry ∈ listed, entry.isDir = false ∧ Kind.ofFilename? name = some kind ∧
        entry.name = name := by
  rw [namesOf, List.mem_mergeSort, List.mem_map]
  constructor
  · rintro ⟨entry, hentry, rfl⟩
    obtain ⟨hmem, hfile⟩ := List.mem_filter.1 hentry
    simp only [Bool.and_eq_true, Bool.not_eq_true', beq_iff_eq] at hfile
    exact ⟨entry, hmem, hfile.1, hfile.2, rfl⟩
  · rintro ⟨entry, hmem, hdir, hkind, rfl⟩
    exact ⟨entry, List.mem_filter.2 ⟨hmem, by simp [hdir, hkind]⟩, rfl⟩

/-- **Of what is listed, names that stay inside are accepted**, for the kind that they are listed
for. -/
theorem Harmless.ofSafeFilename? (hlisted : Harmless listed) (hname : name ∈ namesOf kind listed) :
    Kind.ofSafeFilename? name = some kind := by
  obtain ⟨entry, hmem, hdir, hkind, rfl⟩ := mem_namesOf_iff.1 hname
  have hinside : Kind.staysInside entry.name = true := hlisted entry hmem hdir (by simp [hkind])
  exact Kind.ofSafeFilename?_eq_some_iff.2 ⟨hinside, hkind⟩

/-! ## Names that are handed over -/

/-- **What a service does without naming a file**, apart from calls. -/
inductive Unnamed (s : Service) : {α : Type} → Action ServiceState α → Prop where
  /-- The log is told something. -/
  | event (source : EventSource) (level : Level) (message : String) :
      Unnamed s (Action.event source level message)
  /-- Something is printed. -/
  | output (text : String) : Unnamed s (request (.output text))
  /-- The state is read or changed. -/
  | change {α : Type} (f : ServiceState → α × ServiceState) : Unnamed s (Action.change f)
  /-- Schemas are got. -/
  | schemas (version : Nat) : Unnamed s (s.schemasOf version)
  /-- The registered hosts. -/
  | registered : Unnamed s (onRegistry Registry.list)
  /-- A new entry for a host. -/
  | add (entry : HostEntry) : Unnamed s (onRegistry (Registry.add entry))
  /-- No entry for a host any more. -/
  | remove (name : String) : Unnamed s (onRegistry (Registry.remove name))
  /-- No connector is kept for a host any more. -/
  | forget (host : String) : Unnamed s ((ConnectorPool.invalidate host).inside poolPart)

/-- **An action of a service hands connectors only some names**, as long as what they list can be
relied on: each call on a host does nothing but ask the connector, with such names. -/
inductive HandsOver (s : Service) (rely : List DirEntry → Prop) (ok : String → Prop) :
    {α : Type} → Action ServiceState α → Prop where
  /-- Nothing is done any more. -/
  | done {α : Type} (a : α) : HandsOver s rely ok (done a)
  /-- Something without names. -/
  | step {α β : Type} {x : Action ServiceState β} (unnamed : Unnamed s x)
      {k : β → Action ServiceState α} (rest : ∀ b, HandsOver s rely ok (k b)) :
      HandsOver s rely ok (x >>= k)
  /-- A call on a host, whatever its connector is. -/
  | call {α β : Type} (host : String)
      (operation : Connector → Action PoolState (Except ConnectorError β))
      (hands : ∀ c : Connector, c.Hands rely ok (operation c))
      {k : Except ServiceError β → Action ServiceState α}
      (rest : ∀ result, HandsOver s rely ok (k result)) :
      HandsOver s rely ok (s.call host operation >>= k)

theorem HandsOver.bind {x : Action ServiceState α} {f : α → Action ServiceState β}
    (hx : s.HandsOver rely ok x) (hf : ∀ a, s.HandsOver rely ok (f a)) :
    s.HandsOver rely ok (x >>= f) := by
  induction hx with
  | done a => exact hf a
  | step unnamed _ ih =>
    rw [bind_assoc']
    exact .step unnamed fun b => ih b
  | call host operation hands _ ih =>
    rw [bind_assoc']
    exact .call host operation hands fun result => ih result

theorem Unnamed.handsOver {x : Action ServiceState α} (hx : s.Unnamed x) :
    s.HandsOver rely ok x :=
  bind_done x ▸ .step hx .done

/-- **What tasks are made of hands over names that are accepted or listed.** -/
theorem parts_handsOver
    (hlisted : ∀ listed, rely listed → ∀ kind, ∀ name ∈ namesOf kind listed, ok name)
    (haccepted : ∀ name, Accepted name → ok name) :
    Parts s (fun _ => True) (s.HandsOver rely ok) := by
  have hcall : ∀ {α : Type} host (call : Call α), s.HandsOver rely ok (s.call host call.on) :=
    fun host call => bind_done (s.call host call.on) ▸
      .call host call.on (fun _ => call.hands hlisted haccepted) .done
  have hevent : ∀ source level message,
      s.HandsOver rely ok (Action.event source level message) := fun _ _ _ =>
    Unnamed.handsOver (.event _ _ _)
  refine {
    done := .done
    bind := HandsOver.bind
    event := hevent
    output := fun text => Unnamed.handsOver (.output text)
    call := hcall
    generation := fun host => ?_
    schemas := fun version => Unnamed.handsOver (.schemas version)
    registered := Unnamed.handsOver .registered
    add := fun entry => Unnamed.handsOver (.add entry)
    remove := fun name => Unnamed.handsOver (.remove name)
    invalidate := fun host _ => .step (.forget host) fun _ => Unnamed.handsOver (.change _) }
  refine .step (.change fun σ => (σ, σ)) fun σ => ?_
  split
  · exact .done _
  · refine (hcall host .version).bind fun output => ?_
    cases output with
    | error e => exact .done _
    | ok output =>
      have htold : s.HandsOver rely ok (s.generationOf (hostKey host) output) := by
        unfold generationOf
        simp only
        split
        · exact (hevent _ _ _).bind fun _ => (hevent _ _ _).bind fun _ => .done _
        · exact (hevent _ _ _).bind fun _ => .done _
      exact htold.bind fun g => .step (.change _) fun _ => .done _

theorem perform_handsOver
    (hlisted : ∀ listed, rely listed → ∀ kind, ∀ name ∈ namesOf kind listed, ok name)
    (haccepted : ∀ name, Accepted name → ok name) (tasks : List Task) :
    s.HandsOver rely ok (s.perform tasks) := by
  induction tasks with
  | nil => exact .done _
  | cons task rest ih =>
    exact ((parts_handsOver hlisted haccepted).task fun _ _ => trivial).bind fun _ => ih

/-! ## Files of a listing -/

/-- **A host has listed entries**: its connector was got, and asked for them. -/
def Lists (s : Service) (host : String) (listed : List DirEntry) (t : List (Deed ServiceState)) :
    Prop :=
  ∃ c t₁ t₂ t₃ t₄ t₅, t = t₁ ++ (t₂ ++ (t₃ ++ (t₄ ++ t₅))) ∧
    Run ((s.pool.get host).inside poolPart) t₂ (.ok c) ∧
      Run (c.entries.inside poolPart) t₄ (.ok listed)

/-- Each file is read under its name. -/
theorem map_fst_of_run_readEach {c : Connector} {names : List String} {t : List (Deed PoolState)}
    {contents : List (String × Except ConnectorError ByteArray)}
    (hrun : Run (readEach c names) t contents) : contents.map Prod.fst = names := by
  induction names generalizing t contents with
  | nil =>
    obtain ⟨-, rfl⟩ := run_done_iff.1 hrun
    rfl
  | cons name rest ih =>
    obtain ⟨t₁, t₂, content, rfl, -, hrest⟩ := run_bind_iff.1 hrun
    obtain ⟨t₃, t₄, others, rfl, hothers, hdone⟩ := run_bind_iff.1 hrest
    obtain ⟨-, rfl⟩ := run_done_iff.1 hdone
    rw [List.map_cons, ih hothers]

@[simp] theorem filename_describe (f : FileSummary) (d : Document) :
    (f.describe d).filename = f.filename := by
  unfold FileSummary.describe
  split <;> rfl

/-- A summary is one of the file. -/
theorem filename_of_run_summaryOf {filter : Option MatchCriteria}
    {result : Except String Document} {file : FileSummary}
    (hrun : Run (summaryOf kind filter name result) t (some file)) : file.filename = name := by
  cases result with
  | ok document =>
    simp only [summaryOf] at hrun
    split at hrun
    · cases (run_done_iff.1 hrun).2
    · obtain rfl := Option.some.inj (run_done_iff.1 hrun).2
      simp [FileSummary.bare]
  | error why =>
    obtain ⟨_, _, _, -, -, hdone⟩ := run_bind_iff.1 hrun
    obtain rfl := Option.some.inj (run_done_iff.1 hdone).2
    rfl

/-- **Summaries are of files that were read.** -/
theorem filename_mem_of_run_summaries {generation : Generation} {filter : Option MatchCriteria}
    {contents : List (String × Except ConnectorError ByteArray)} {files : List FileSummary}
    (hrun : Run (s.summaries generation kind filter contents) t files) :
    ∀ file ∈ files, file.filename ∈ contents.map Prod.fst := by
  induction contents generalizing t files with
  | nil =>
    obtain ⟨-, rfl⟩ := run_done_iff.1 hrun
    simp
  | cons content rest ih =>
    obtain ⟨t₁, t₂, first, rfl, hfirst, hrest⟩ := run_bind_iff.1 hrun
    obtain ⟨t₃, t₄, others, rfl, hothers, hdone⟩ := run_bind_iff.1 hrest
    obtain ⟨-, rfl⟩ := run_done_iff.1 hdone
    intro file hfile
    rw [List.map_cons, List.mem_cons]
    obtain hfile | hfile := List.mem_append.1 hfile
    · obtain rfl : first = some file := by simpa using hfile
      exact .inl (filename_of_run_summaryOf hfirst)
    · exact .inr (ih hothers file hfile)

/-- What is read of a host are the files of a kind among its entries. -/
theorem exists_entries_of_run_readAll {c : Connector}
    {contents : List (String × Except ConnectorError ByteArray)}
    (hrun : Run ((readAll kind c).inside poolPart) t (.ok contents)) :
    ∃ listed t₁ t₂, t = t₁ ++ t₂ ∧ Run (c.entries.inside poolPart) t₁ (.ok listed) ∧
      contents.map Prod.fst = namesOf kind listed := by
  rw [readAll, inside_andThen] at hrun
  obtain ⟨e, -, he⟩ | ⟨t₁, t₂, listed, rfl, hlisted, hrest⟩ := run_andThen_iff.1 hrun
  · cases he
  refine ⟨listed, t₁, t₂, rfl, hlisted, ?_⟩
  obtain ⟨t₃, t₄, read, -, hread, hdone⟩ :=
    run_bind_iff.1 ((run_inside_iff isLawful_poolPart).1 hrest).1
  obtain rfl := Except.ok.inj (run_done_iff.1 hdone).2
  exact map_fst_of_run_readEach hread

/-- **The files of a listing are among the entries** that the host has listed. -/
theorem exists_lists_of_run_list {criteria : Option MatchCriteria} {files : List FileSummary}
    (hrun : Run (s.list host kind criteria) t (.ok files)) :
    ∃ listed, s.Lists host listed t ∧ ∀ file ∈ files, file.filename ∈ namesOf kind listed := by
  unfold Service.list at hrun
  split at hrun
  case isFalse => cases (run_done_iff.1 hrun).2
  obtain ⟨e, -, he⟩ | ⟨t₁, t₂, version, rfl, -, hversion⟩ := run_andThen_iff.1 hrun
  · cases he
  obtain ⟨e, -, he⟩ | ⟨t₃, t₄, generation, rfl, -, hschemas⟩ := run_andThen_iff.1 hversion
  · cases he
  obtain ⟨e, -, he⟩ | ⟨t₅, t₆, contents, rfl, hcall, hrest⟩ := run_andThen_iff.1 hschemas
  · cases he
  obtain ⟨c, u₁, u₂, u₃, u₄, rfl, hget, -, hread⟩ := exists_of_run_call_ok hcall
  obtain ⟨listed, v₁, v₂, rfl, hlisted, hnames⟩ := exists_entries_of_run_readAll hread
  obtain ⟨w₁, w₂, summaries, -, hsummaries, htold⟩ := run_bind_iff.1 hrest
  obtain ⟨w₃, w₄, _, -, -, hdone⟩ := run_bind_iff.1 htold
  obtain rfl := Except.ok.inj (run_done_iff.1 hdone).2
  refine ⟨listed, ⟨c, t₁ ++ t₃, u₁, u₂, v₁, v₂ ++ u₄ ++ t₆, by simp, hget, hlisted⟩, ?_⟩
  rw [← hnames]
  exact filename_mem_of_run_summaries hsummaries

/-! ## Operations that are not refused -/

/-- **An error that no argument is to blame for**: one of the host, of schemas or of a unit file. -/
def IsFailure : ServiceError → Prop
  | .connector _ | .schema _ | .unitFile _ => True
  | _ => False

/-- **An operation is never refused**: all its errors are failures. -/
def Unrefused (x : Action ServiceState (Except ServiceError α)) : Prop :=
  ∀ t e, Run x t (.error e) → IsFailure e

theorem unrefused_done {result : Except ServiceError α} (h : ∀ e, result = .error e → IsFailure e) :
    Unrefused (done result) :=
  fun _ e hrun => h e (run_done_iff.1 hrun).2.symm

theorem unrefused_ok (a : α) : Unrefused (done (.ok a)) :=
  unrefused_done fun _ h => nomatch h

/-- What follows other actions is refused for itself. -/
theorem Unrefused.bind {x : Action ServiceState α}
    {f : α → Action ServiceState (Except ServiceError β)} (hf : ∀ a, Unrefused (f a)) :
    Unrefused (x >>= f) := by
  intro t e hrun
  obtain ⟨t₁, t₂, a, -, -, hrest⟩ := run_bind_iff.1 hrun
  exact hf a t₂ e hrest

theorem Unrefused.andThen {x : Action ServiceState (Except ServiceError α)}
    {f : α → Action ServiceState (Except ServiceError β)} (hx : Unrefused x)
    (hf : ∀ a, Unrefused (f a)) : Unrefused (x.andThen f) := by
  intro t e hrun
  obtain ⟨e', hfirst, he⟩ | ⟨t₁, t₂, a, -, -, hrest⟩ := run_andThen_iff.1 hrun
  · obtain rfl := Except.error.inj he
    exact hx t e hfirst
  · exact hf a t₂ e hrest

theorem call_unrefused (operation : Connector → Action PoolState (Except ConnectorError α)) :
    Unrefused (s.call host operation) := by
  refine Unrefused.bind fun result => ?_
  cases result with
  | ok a => exact unrefused_ok _
  | error e => exact unrefused_done fun _ he => Except.error.inj he ▸ trivial

theorem hostGeneration_unrefused : Unrefused (s.hostGeneration host) := by
  refine Unrefused.bind fun σ => ?_
  split
  · exact unrefused_ok _
  · exact (call_unrefused _).andThen fun output =>
      Unrefused.bind fun g => Unrefused.bind fun _ => unrefused_ok _

theorem schemasOf_unrefused (version : Nat) : Unrefused (s.schemasOf version) := by
  unfold schemasOf
  split
  · exact Unrefused.bind fun _ => unrefused_ok _
  · refine Unrefused.bind fun result => ?_
    cases result with
    | ok generation => exact unrefused_ok _
    | error e => exact unrefused_done fun _ he => Except.error.inj he ▸ trivial

theorem unrefused_ofUnitFile (result : Except UnitFile.Error α) :
    Unrefused (done (ofUnitFile result)) := by
  cases result with
  | ok a => exact unrefused_ok _
  | error e => exact unrefused_done fun _ he => Except.error.inj he ▸ trivial

theorem convert_unrefused (text : String) (kind : Kind) (version : Nat) :
    Unrefused (s.convert text kind version) :=
  (schemasOf_unrefused version).andThen fun _ => unrefused_ofUnitFile _

theorem readText_unrefused (hname : Accepted name) : Unrefused (s.readText host name) := by
  obtain ⟨kind, hkind⟩ := Option.isSome_iff_exists.1 hname
  rw [readText, Kind.ofSafeFilename_of_eq_some hkind]
  exact (call_unrefused _).andThen fun _ => unrefused_ok _

theorem writeText_unrefused (hname : Accepted name) (text : String) :
    Unrefused (s.writeText host name text) := by
  obtain ⟨kind, hkind⟩ := Option.isSome_iff_exists.1 hname
  rw [writeText, Kind.ofSafeFilename_of_eq_some hkind]
  exact (call_unrefused _).andThen fun _ => Unrefused.bind fun _ => unrefused_ok _

/-- Names that are not refused are accepted. -/
theorem accepted_of_refusalOf (hname : refusalOf name = none) : Accepted name := by
  cases hkind : Kind.ofSafeFilename? name with
  | none =>
    rw [refusalOf, Kind.ofSafeFilename_of_eq_none hkind] at hname
    cases hname
  | some kind => exact Option.isSome_of_mem hkind

/-- **Operations on a host** that are not refused for their arguments fail for other reasons
only. -/
theorem OnHost.unrefused {refusal : Option ServiceError} {others : Except ServiceError α → Prop}
    {x : Action ServiceState (Except ServiceError α)} (hx : OnHost s h refusal others x)
    (hrefusal : refusal = none) : Unrefused x := by
  cases hx with
  | call operation => exact call_unrefused operation
  | generation => exact hostGeneration_unrefused
  | list kind criteria =>
    have hkind : kind.isFileKind = true := by
      by_contra hkind
      simp [hkind] at hrefusal
    rw [Service.list, if_pos hkind]
    exact hostGeneration_unrefused.andThen fun version =>
      (schemasOf_unrefused version).andThen fun generation =>
        (call_unrefused _).andThen fun contents =>
          Unrefused.bind fun _ => Unrefused.bind fun _ => unrefused_ok _
  | readText filename => exact readText_unrefused (accepted_of_refusalOf hrefusal)
  | writeText filename text => exact writeText_unrefused (accepted_of_refusalOf hrefusal) text
  | read filename =>
    have hname : Accepted filename := accepted_of_refusalOf hrefusal
    obtain ⟨kind, hkind⟩ := Option.isSome_iff_exists.1 hname
    rw [Service.read, Kind.ofSafeFilename_of_eq_some hkind]
    exact (readText_unrefused hname).andThen fun text =>
      hostGeneration_unrefused.andThen fun version =>
        (convert_unrefused text kind version).andThen fun _ => unrefused_ok _
  | write filename document =>
    have hname : Accepted filename := accepted_of_refusalOf hrefusal
    obtain ⟨kind, hkind⟩ := Option.isSome_iff_exists.1 hname
    rw [Service.write, Kind.ofSafeFilename_of_eq_some hkind]
    refine hostGeneration_unrefused.andThen fun version => Unrefused.andThen ?_ fun text =>
      writeText_unrefused hname text
    exact (schemasOf_unrefused version).andThen fun _ => unrefused_ofUnitFile _
  | delete filename =>
    obtain ⟨kind, hkind⟩ := Option.isSome_iff_exists.1 (accepted_of_refusalOf hrefusal)
    rw [Service.delete, Kind.ofSafeFilename_of_eq_some hkind]
    exact (call_unrefused _).andThen fun _ => Unrefused.bind fun _ => unrefused_ok _
  | globalDocument =>
    exact (call_unrefused _).andThen fun text => hostGeneration_unrefused.andThen fun version =>
      convert_unrefused text _ version
  | setGlobal text =>
    exact (call_unrefused _).andThen fun _ => Unrefused.bind fun _ => unrefused_ok _

/-! ## Names -/

/-- **What a service does with the names of files.** -/
structure Names (s : Service) : Prop where
  /-- Whatever the service is asked, all names that connectors are given are accepted, as long as
  nothing that they list leads out of the directory. -/
  accepted : ∀ tasks, s.HandsOver Harmless Accepted (s.perform tasks)
  /-- The files of a listing are among the entries that the host has listed, and have the extension
  of their kind. -/
  listed : ∀ host kind criteria t files, Run (s.list host kind criteria) t (.ok files) →
    ∃ listed, s.Lists host listed t ∧ ∀ file ∈ files, file.filename ∈ namesOf kind listed
  /-- Such a file can be addressed on any host, as one of its kind: no operation that is refused for
  its name only is refused. -/
  addressed : ∀ host kind criteria t files, Run (s.list host kind criteria) t (.ok files) →
    (∀ listed, s.Lists host listed t → Harmless listed) → ∀ file ∈ files,
      Kind.ofSafeFilename file.filename = .ok kind ∧
        ∀ {α : Type} (h : String) (others : Except ServiceError α → Prop)
          (x : Action ServiceState (Except ServiceError α)),
            OnHost s h (refusalOf file.filename) others x → Unrefused x

/-- **Every service does so with names**, in every state and whatever hosts list. -/
theorem names (s : Service) : s.Names where
  accepted := perform_handsOver
    (fun _ hlisted _ _ hname => Option.isSome_of_mem (hlisted.ofSafeFilename? hname)) fun _ h => h
  listed := fun _ _ _ _ _ => exists_lists_of_run_list
  addressed := by
    intro host kind criteria t files hrun hharmless file hfile
    obtain ⟨listed, hlists, hnames⟩ := exists_lists_of_run_list hrun
    have hkind : Kind.ofSafeFilename file.filename = .ok kind :=
      Kind.ofSafeFilename_of_eq_some
        ((hharmless listed hlists).ofSafeFilename? (hnames file hfile))
    refine ⟨hkind, fun h others x hx => hx.unrefused ?_⟩
    rw [refusalOf, hkind]

/-- This machine lists files, and runs systemd 255. -/
def replyListing (files : List String) : (r : Request) → r.Reply
  | .entries _ => .ok (files.map fun name => ⟨name, false⟩)
  | .run _ _ _ => .ok { output := Text.bytesOf "systemd 255\n" }
  | r => r.usual

/-- What this machine lists in surroundings that list files. -/
def listing (files : List String) :
    List (Deed ServiceState) × Except ServiceError (List FileSummary) × ServiceState :=
  (sample.list "" .network none).alone (replyListing files) sampleState

theorem exists_run_listing (files names : List String)
    (h : (listing files).2.1.toOption.map (·.map FileSummary.filename) = some names) :
    ∃ summaries, Run (sample.list "" .network none) (listing files).1 (.ok summaries) ∧
      summaries.map FileSummary.filename = names := by
  have hrun : Run (sample.list "" .network none) (listing files).1 (listing files).2.1 := by
    rw [listing]
    exact run_alone _ _ _
  cases hresult : (listing files).2.1 with
  | error e =>
    rw [hresult] at h
    cases h
  | ok summaries =>
    rw [hresult] at h hrun
    exact ⟨summaries, hrun, Option.some.inj h⟩

/-- A listing of this machine has listed what there is. -/
theorem eq_of_lists_listing {files : List String}
    (hlists : sample.Lists "" listed (listing files).1) :
    listed = files.map fun name => ⟨name, false⟩ := by
  obtain ⟨c, t₁, t₂, t₃, t₄, t₅, ht, hget, hentries⟩ := hlists
  rw [get_of_isLocalHost sample.pool rfl] at hget
  obtain rfl := Except.ok.inj (run_done_iff.1 hget).2
  have hask : Run (ask (.entries sample.pool.here.configDir) fun reply =>
      done (LocalConnector.atPath sample.pool.here.configDir reply)) t₄ (.ok listed) := hentries
  obtain ⟨reply, t', rfl, hdone⟩ := run_ask_iff.1 hask
  obtain ⟨-, hreply⟩ := run_done_iff.1 hdone
  have hmem : .asked (.entries sample.pool.here.configDir) reply ∈ (listing files).1 := by
    simp [ht]
  obtain rfl := eq_of_asked_mem_alone hmem
  exact Except.ok.inj hreply

/-- A file of a listing of this machine is not refused when it is read. -/
theorem names_here :
    ∃ t files, Run (sample.list "" .network none) t (.ok files) ∧
      files.map FileSummary.filename = ["c.network"] ∧
        ∀ file ∈ files, Unrefused (sample.readText "" file.filename) := by
  obtain ⟨files, hrun, hnames⟩ := exists_run_listing ["b.link", "c.network"] ["c.network"]
    (by decide +kernel)
  have hharmless : ∀ listed, sample.Lists "" listed (listing ["b.link", "c.network"]).1 →
      Harmless listed := by
    intro listed hlists
    obtain rfl := eq_of_lists_listing hlists
    decide
  refine ⟨_, files, hrun, hnames, fun file hfile => ?_⟩
  exact ((names sample).addressed _ _ _ _ _ hrun hharmless file hfile).2 "" _ _ (.readText _)

/-- **A name that is not accepted is listed**: the file was read under it, and yet each operation on
it is refused. -/
theorem hands_over_outside :
    ∃ t files, Run (sample.list "" .network none) t (.ok files) ∧
      files.map FileSummary.filename = ["a..b.network"] ∧
        "a..b.network" ∈ (loads t).map Prod.fst ∧ ¬ Accepted "a..b.network" ∧
          ∀ host, sample.readText host "a..b.network" =
              done (.error (.invalidFilename "a..b.network")) ∧
            sample.read host "a..b.network" =
              done (.error (.invalidFilename "a..b.network")) ∧
            sample.delete host "a..b.network" =
              done (.error (.invalidFilename "a..b.network")) := by
  obtain ⟨files, hrun, hnames⟩ := exists_run_listing ["a..b.network"] ["a..b.network"]
    (by decide +kernel)
  have hread : "a..b.network" ∈ (loads (listing ["a..b.network"]).1).map Prod.fst := by
    decide +kernel
  have hname : ¬ Accepted "a..b.network" := by decide
  exact ⟨_, files, hrun, hnames, hread, hname, fun _ => ⟨rfl, rfl, rfl⟩⟩

end NetUnits.Service
