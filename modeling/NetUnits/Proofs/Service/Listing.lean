import NetUnits.CommandLine.Execution
import NetUnits.Proofs.Action.Failing
import NetUnits.Proofs.Action.Undisturbed
import NetUnits.Proofs.Except
import NetUnits.Proofs.Service.Names

/-! # What is listed of configuration files

A listing reads every file of a kind and says of each what it is for. No file is missing since it
could not be read, none is there twice, and none is told apart by what another file holds.

* **`Service.documentIn?`**, **`Service.summaryIn`** — what the bytes of a file come to;
  **`Service.LeavesOut`** — criteria leave a file out.
* **`Service.ReadsEach`**, **`Service.HasRead`** — a host listed entries, and files were read.
* **`Service.Listing`** — what a listing of a kind comes to; **`Service.Unlisted`** — why there is
  none.
* **`Service.AllListed`** — what a listing of all kinds comes to.
* **`Service.ListsFiles`** — what services list; **`Service.listsFiles`** — all services do. -/

namespace NetUnits

open NetUnits.Action

/-! ## Names in order -/

section Sorting

variable {α : Type} (name : α → String)

theorem nameLE_trans (a b c : α) (hab : decide (name a ≤ name b) = true)
    (hbc : decide (name b ≤ name c) = true) : decide (name a ≤ name c) = true :=
  decide_eq_true (String.le_trans (of_decide_eq_true hab) (of_decide_eq_true hbc))

theorem nameLE_total (a b : α) :
    (decide (name a ≤ name b) || decide (name b ≤ name a)) = true := by
  rw [Bool.or_eq_true, decide_eq_true_iff, decide_eq_true_iff]
  exact String.le_total _ _

/-- **A list sorted by names is in their order.** -/
theorem pairwise_mergeSort_on (l : List α) :
    (l.mergeSort fun a b => name a ≤ name b).Pairwise fun a b => name a ≤ name b :=
  (List.pairwise_mergeSort (nameLE_trans name) (nameLE_total name) l).imp
    fun h => of_decide_eq_true h

/-- What is in the order of names is in this order within a sorted list. -/
theorem sublist_mergeSort_on {l l' : List α} (h : l.Sublist l')
    (hl : l.Pairwise fun a b => name a ≤ name b) :
    l.Sublist (l'.mergeSort fun a b => name a ≤ name b) :=
  List.sublist_mergeSort (nameLE_trans name) (nameLE_total name)
    (hl.imp fun h => decide_eq_true h) h

end Sorting

namespace Service

open NetUnits.Deed NetUnits.ConnectorPool NetUnits.ServiceState

variable {s : Service} {host : String} {kind : Kind} {criteria : Option MatchCriteria}
  {generation : Generation} {t : List (Deed ServiceState)} {name : String}
  {content : Except ConnectorError ByteArray}

/-! ## What the bytes of a file come to -/

/-- **The document of a file**, by what came of reading it: none if it could not be read or its
text has no document. -/
def documentIn? (s : Service) (generation : Generation) (kind : Kind) :
    Except ConnectorError ByteArray → Option Document
  | .ok bytes => (s.documentOf generation kind (Text.lenient bytes)).toOption
  | .error _ => none

/-- **What is said of a file**, by what came of reading it: nothing but its name without a
document. -/
def summaryIn (s : Service) (generation : Generation) (kind : Kind) (name : String)
    (content : Except ConnectorError ByteArray) : FileSummary :=
  match s.documentIn? generation kind content with
  | some document => (FileSummary.bare name kind).describe document
  | none => .bare name kind

/-- **Criteria leave a file out**: it has a document, which does not satisfy them. Criteria that ask
nothing leave nothing out, and no netdev file is left out. -/
def LeavesOut (s : Service) (generation : Generation) (kind : Kind)
    (criteria : Option MatchCriteria) (content : Except ConnectorError ByteArray) : Prop :=
  kind ≠ .netdev ∧ ∃ c ∈ criteria, c.isEmpty = false ∧
    ∃ document ∈ s.documentIn? generation kind content, c.accepts document = false

instance : Decidable (s.LeavesOut generation kind criteria content) :=
  inferInstanceAs (Decidable (_ ∧ ∃ c ∈ criteria, _ ∧ ∃ document ∈ _, _))

theorem toOption_summarized (s : Service) (generation : Generation) (kind : Kind)
    (content : Except ConnectorError ByteArray) :
    (s.summarized generation kind content).toOption = s.documentIn? generation kind content := by
  cases content with
  | error e => rfl
  | ok bytes =>
    rw [summarized, documentIn?]
    cases s.documentOf generation kind (Text.lenient bytes) <;> rfl

/-- Without a document nothing is left out. -/
theorem not_leavesOut_of_eq_none (h : s.documentIn? generation kind content = none) :
    ¬s.LeavesOut generation kind criteria content := by
  rintro ⟨-, c, -, -, document, hdocument, -⟩
  cases h.symm.trans hdocument

/-- A document is left out exactly if the criteria that count do not accept it. -/
theorem leavesOut_iff {document : Document}
    (h : s.documentIn? generation kind content = some document) :
    s.LeavesOut generation kind criteria content ↔
      (filterOf kind criteria).any (fun c => !c.accepts document) = true := by
  simp only [LeavesOut, h, filterOf, Option.any_filter, Option.any_eq_true, Option.mem_def,
    Option.some.injEq, Bool.and_eq_true, Bool.not_eq_true', bne_iff_ne, exists_eq_left']
  grind

theorem eq_of_run_summaryOf {found : Option FileSummary}
    (hrun : Run (summaryOf kind (filterOf kind criteria) name
      (s.summarized generation kind content)) t found) :
    found = if s.LeavesOut generation kind criteria content then none
      else some (s.summaryIn generation kind name content) := by
  have hdocument := s.toOption_summarized generation kind content
  cases hsummarized : s.summarized generation kind content with
  | ok document =>
    rw [hsummarized] at hrun hdocument
    rw [summaryOf] at hrun
    simp only [leavesOut_iff hdocument.symm, summaryIn, ← hdocument]
    split at hrun
    · rw [if_pos ‹_›]
      exact (run_done_iff.1 hrun).2
    · rw [if_neg ‹_›]
      exact (run_done_iff.1 hrun).2
  | error why =>
    rw [hsummarized] at hrun hdocument
    obtain ⟨_, _, _, -, -, hdone⟩ := run_bind_iff.1 hrun
    rw [if_neg (not_leavesOut_of_eq_none hdocument.symm), summaryIn, ← hdocument]
    exact (run_done_iff.1 hdone).2

/-- **The summaries are of the files that are not left out**, in their order. -/
theorem eq_of_run_summaries {contents : List (String × Except ConnectorError ByteArray)}
    {files : List FileSummary}
    (hrun : Run (s.summaries generation kind (filterOf kind criteria) contents) t files) :
    files = (contents.filter fun x => ¬s.LeavesOut generation kind criteria x.2).map
      fun x => s.summaryIn generation kind x.1 x.2 := by
  induction contents generalizing t files with
  | nil => exact (run_done_iff.1 hrun).2
  | cons content rest ih =>
    obtain ⟨t₁, t₂, first, rfl, hfirst, hrest⟩ := run_bind_iff.1 hrun
    obtain ⟨t₃, t₄, others, rfl, hothers, hdone⟩ := run_bind_iff.1 hrest
    obtain ⟨-, rfl⟩ := run_done_iff.1 hdone
    obtain rfl := eq_of_run_summaryOf hfirst
    rw [ih hothers]
    by_cases h : s.LeavesOut generation kind criteria content.2 <;> simp [h]

/-! ## What is read -/

/-- **Files were read** one after the other, with what came of it. -/
inductive ReadsEach (c : Connector) : List (Deed ServiceState) →
    List (String × Except ConnectorError ByteArray) → Prop where
  /-- There are no files. -/
  | nil : ReadsEach c [] []
  /-- A file was read, and then the others. -/
  | cons {name : String} {content : Except ConnectorError ByteArray}
      {t u : List (Deed ServiceState)} {rest : List (String × Except ConnectorError ByteArray)}
      (read : Run ((c.read name).inside poolPart) t content) (others : ReadsEach c u rest) :
      ReadsEach c (t ++ u) ((name, content) :: rest)

/-- **Files of a host were read**: its connector was got, and asked for the entries and for each of
these files. -/
def HasRead (s : Service) (host : String) (listed : List DirEntry)
    (contents : List (String × Except ConnectorError ByteArray)) (t : List (Deed ServiceState)) :
    Prop :=
  ∃ c t₁ t₂ t₃ t₄ t₅ t₆, t = t₁ ++ (t₂ ++ (t₃ ++ (t₄ ++ (t₅ ++ t₆)))) ∧
    Run ((s.pool.get host).inside poolPart) t₂ (.ok c) ∧
      Run (c.entries.inside poolPart) t₄ (.ok listed) ∧ ReadsEach c t₅ contents

theorem readsEach_of_run {c : Connector} {names : List String}
    {contents : List (String × Except ConnectorError ByteArray)}
    (hrun : Run ((readEach c names).inside poolPart) t contents) : ReadsEach c t contents := by
  induction names generalizing t contents with
  | nil =>
    obtain ⟨rfl, rfl⟩ := run_done_iff.1 hrun
    exact .nil
  | cons name rest ih =>
    rw [readEach, inside_bind] at hrun
    obtain ⟨t₁, t₂, content, rfl, hread, hrest⟩ := run_bind_iff.1 hrun
    rw [inside_bind] at hrest
    obtain ⟨t₃, t₄, others, rfl, hothers, hdone⟩ := run_bind_iff.1 hrest
    obtain ⟨rfl, rfl⟩ := run_done_iff.1 hdone
    rw [List.append_nil]
    exact .cons hread (ih hothers)

/-- The names of a kind are those of all its files, in order. -/
theorem namesOf_perm (kind : Kind) (listed : List DirEntry) :
    (namesOf kind listed).Perm ((listed.filter fun entry =>
      entry.isDir = false ∧ Kind.ofFilename? entry.name = some kind).map DirEntry.name) := by
  have hfilter : (listed.filter fun entry =>
      entry.isDir = false ∧ Kind.ofFilename? entry.name = some kind) =
      listed.filter fun entry => !entry.isDir && Kind.ofFilename? entry.name == some kind :=
    List.filter_congr fun entry _ => by
      rw [Bool.eq_iff_iff]
      simp
  rw [hfilter]
  exact List.mergeSort_perm _ _

theorem pairwise_namesOf (kind : Kind) (listed : List DirEntry) :
    (namesOf kind listed).Pairwise (· ≤ ·) :=
  pairwise_mergeSort_on id _

/-- A reading of all files of a kind reads those among the entries. -/
theorem exists_of_run_call_readAll {contents : List (String × Except ConnectorError ByteArray)}
    (hrun : Run (s.call host (readAll kind)) t (.ok contents)) :
    ∃ listed, s.HasRead host listed contents t ∧
      contents.map Prod.fst = namesOf kind listed := by
  obtain ⟨c, t₁, t₂, t₃, t₄, rfl, hget, -, hall⟩ := exists_of_run_call_ok hrun
  rw [readAll, inside_andThen] at hall
  obtain ⟨_, -, he⟩ | ⟨t₅, t₆, listed, rfl, hlisted, hrest⟩ := run_andThen_iff.1 hall
  · cases he
  rw [inside_bind] at hrest
  obtain ⟨t₇, t₈, read, rfl, hread, hdone⟩ := run_bind_iff.1 hrest
  obtain ⟨rfl, hok⟩ := run_done_iff.1 hdone
  obtain rfl := Except.ok.inj hok
  refine ⟨listed, ⟨c, [], t₁, t₂, t₅, t₇, t₄, by simp, hget, hlisted, readsEach_of_run hread⟩, ?_⟩
  exact map_fst_of_run_readEach ((run_inside_iff isLawful_poolPart).1 hread).1

/-! ## Errors of calls -/

section Calls

variable {α β : Type} {operation : Connector → Action PoolState (Except ConnectorError α)}
  {operation' : Connector → Action PoolState (Except ConnectorError β)}

theorem drop_failsAs (c : Connector) (e : ConnectorError) :
    FailsAs (drop c >>= fun _ => done (.error e : Except ConnectorError α))
      (drop c >>= fun _ => done (.error e : Except ConnectorError β)) :=
  .bind _ fun _ => .error e

theorem abandon_failsAs (host : String) (c : Connector) (e : ConnectorError) :
    FailsAs (abandon (α := α) host c e) (abandon (α := β) host c e) :=
  .bind _ fun _ => drop_failsAs c e

theorem settle_failsAs (host : String) (c : Connector) (e : ConnectorError) :
    FailsAs (settle host c (.error e : Except ConnectorError α))
      (settle host c (.error e : Except ConnectorError β)) := by
  by_cases he : e.isConnection
  · rw [settle_of_lost he, settle_of_lost he]
    exact .bind _ fun _ => drop_failsAs c e
  · have hkept {γ : Type} : ∀ e', (.error e : Except ConnectorError γ) = .error e' →
        e'.isConnection = false := by
      rintro _ ⟨⟩
      exact Bool.eq_false_iff.2 he
    rw [settle_of_kept hkept, settle_of_kept hkept]
    exact drop_failsAs c e

/-- What a worker fails with is an error of the operation, or has nothing to do with it. -/
theorem runOn_failsAs (host : String) (secs : Nat) {c : Connector}
    (h : FailsAs (operation c) (operation' c)) :
    FailsAs (runOn host secs c operation) (runOn host secs c operation') := by
  rw [runOn, runOn]
  split
  · exact drop_failsAs c _
  refine .bind _ fun started => ?_
  cases started with
  | error fault => exact drop_failsAs c _
  | ok _ =>
    refine .bind _ fun fate => ?_
    cases fate with
    | inTime =>
      refine h.result (fun a t e hrun => ?_) (settle_failsAs host c)
      cases eq_of_run_settle hrun
    | late => exact .bind _ fun _ => .fork (.bind _ fun _ => abandon_failsAs host c _) _ _
    | gone => exact abandon_failsAs host c _

/-- **Calls of operations that fail alike fail alike.** -/
theorem call_failsAs (s : Service) (host : String)
    (h : ∀ c, FailsAs (operation c) (operation' c)) :
    FailsAs (s.call host operation) (s.call host operation') := by
  have hpool : FailsAs (s.pool.call host operation) (s.pool.call host operation') := by
    refine .bind _ fun c => ?_
    cases c with
    | error e => exact .error e
    | ok c => exact runOn_failsAs host _ (h c)
  refine (hpool.inside isLawful_poolPart).result (fun a t e hrun => ?_) fun e => .error _
  cases (run_done_iff.1 hrun).2

end Calls

/-- **Reading the files of a kind fails only where listing the directory fails**: whatever becomes
of each file is a result. -/
theorem readAll_failsAs (kind : Kind) (c : Connector) : FailsAs (readAll kind c) c.entries := by
  refine .andThen _ fun listed t e hrun => ?_
  obtain ⟨_, _, _, -, -, hdone⟩ := run_bind_iff.1 hrun
  cases (run_done_iff.1 hdone).2

/-! ## A listing of a kind -/

@[simp] theorem filename_summaryIn :
    (s.summaryIn generation kind name content).filename = name := by
  rw [summaryIn]
  split
  · rw [filename_describe, FileSummary.bare]
  · rfl

@[simp] theorem kind_summaryIn : (s.summaryIn generation kind name content).kind = kind := by
  rw [summaryIn]
  split
  · rw [FileSummary.describe]
    split <;> rfl
  · rfl

/-- **What a listing of a kind comes to**: the host has listed these entries, its files were read
with these contents, and the files of the listing are what is said of them. -/
structure Listing (s : Service) (host : String) (kind : Kind) (criteria : Option MatchCriteria)
    (t : List (Deed ServiceState)) (generation : Generation) (listed : List DirEntry)
    (contents : List (String × Except ConnectorError ByteArray)) (files : List FileSummary) :
    Prop where
  /-- The schemas are those of the generation for the host. -/
  schemas : ∃ version t₁ t₂ t₃, t = t₁ ++ (t₂ ++ t₃) ∧
    Run (s.hostGeneration host) t₁ (.ok version) ∧ Run (s.schemasOf version) t₂ (.ok generation)
  /-- The files were read. -/
  read : s.HasRead host listed contents t
  /-- Each entry that is no directory and has the extension of the kind was read, and no other. -/
  names : (contents.map Prod.fst).Perm ((listed.filter fun entry =>
    entry.isDir = false ∧ Kind.ofFilename? entry.name = some kind).map DirEntry.name)
  /-- There is one file for each of them that is not left out, and what is said of it is what its
  own content comes to. -/
  eq : files = (contents.filter fun x => ¬s.LeavesOut generation kind criteria x.2).map
    fun x => s.summaryIn generation kind x.1 x.2
  /-- The files are in name order. -/
  ordered : files.Pairwise fun a b => a.filename ≤ b.filename
  /-- A file that could not be read, or has no document, is there with its name only. -/
  bare : ∀ x ∈ contents, s.documentIn? generation kind x.2 = none →
    FileSummary.bare x.1 kind ∈ files

namespace Listing

variable {listed : List DirEntry} {contents : List (String × Except ConnectorError ByteArray)}
  {files : List FileSummary}

/-- The names of the files are among those that were read. -/
theorem sublist (h : Listing s host kind criteria t generation listed contents files) :
    (files.map FileSummary.filename).Sublist (contents.map Prod.fst) := by
  rw [h.eq, List.map_map]
  simpa [Function.comp_def] using List.filter_sublist.map Prod.fst

/-- Files have the kind of the listing, and its extension. -/
theorem kind_eq (h : Listing s host kind criteria t generation listed contents files)
    {file : FileSummary} (hfile : file ∈ files) :
    file.kind = kind ∧ Kind.ofFilename? file.filename = some kind := by
  constructor
  · rw [h.eq] at hfile
    obtain ⟨x, -, rfl⟩ := List.mem_map.1 hfile
    exact kind_summaryIn
  · have hname := h.names.mem_iff.1 (h.sublist.subset (List.mem_map_of_mem hfile))
    obtain ⟨entry, hentry, hname⟩ := List.mem_map.1 hname
    rw [← hname]
    exact (of_decide_eq_true (List.mem_filter.1 hentry).2).2

/-- Where each name is listed once, each file is. -/
theorem nodup (h : Listing s host kind criteria t generation listed contents files)
    (hlisted : (listed.map DirEntry.name).Nodup) : (files.map FileSummary.filename).Nodup :=
  h.sublist.nodup (h.names.nodup_iff.2 ((List.filter_sublist.map _).nodup hlisted))

end Listing

/-- **Why there is no listing of a kind**: it is no kind of files, or the generation for the host,
its schemas or the directory cannot be had. -/
inductive Unlisted (s : Service) (host : String) (kind : Kind) :
    List (Deed ServiceState) → ServiceError → Prop where
  /-- The kind has no files. -/
  | kind (unknown : kind.isFileKind = false) : Unlisted s host kind [] (.unknownKind kind.name)
  /-- The generation for the host is not known. -/
  | generation {t : List (Deed ServiceState)} {e : ServiceError}
      (failed : Run (s.hostGeneration host) t (.error e)) : Unlisted s host kind t e
  /-- The schemas of the generation cannot be had. -/
  | schemas {t u : List (Deed ServiceState)} {version : Nat} {e : ServiceError}
      (known : Run (s.hostGeneration host) t (.ok version))
      (failed : Run (s.schemasOf version) u (.error e)) : Unlisted s host kind (t ++ u) e
  /-- The host cannot be asked, or its directory cannot be listed. -/
  | directory {t u v : List (Deed ServiceState)} {version : Nat} {generation : Generation}
      {e : ServiceError} (known : Run (s.hostGeneration host) t (.ok version))
      (loaded : Run (s.schemasOf version) u (.ok generation))
      (failed : Run (s.call host Connector.entries) v (.error e)) :
      Unlisted s host kind (t ++ (u ++ v)) e

/-- **A listing of a kind is what its files come to.** -/
theorem listing_of_run {files : List FileSummary}
    (hrun : Run (s.list host kind criteria) t (.ok files)) :
    ∃ generation listed contents,
      Listing s host kind criteria t generation listed contents files := by
  rw [Service.list] at hrun
  split at hrun
  case isFalse => cases (run_done_iff.1 hrun).2
  obtain ⟨_, -, he⟩ | ⟨t₁, t₂, version, rfl, hversion, hrest⟩ := run_andThen_iff.1 hrun
  · cases he
  obtain ⟨_, -, he⟩ | ⟨t₃, t₄, generation, rfl, hschemas, hrest⟩ := run_andThen_iff.1 hrest
  · cases he
  obtain ⟨_, -, he⟩ | ⟨t₅, t₆, contents, rfl, hcall, hrest⟩ := run_andThen_iff.1 hrest
  · cases he
  obtain ⟨t₇, t₈, found, rfl, hfound, htold⟩ := run_bind_iff.1 hrest
  obtain ⟨t₉, t₁₀, _, rfl, -, hdone⟩ := run_bind_iff.1 htold
  obtain ⟨rfl, hok⟩ := run_done_iff.1 hdone
  obtain rfl := Except.ok.inj hok
  obtain ⟨listed, ⟨c, u₁, u₂, u₃, u₄, u₅, u₆, rfl, hget, hentries, heach⟩, hnames⟩ :=
    exists_of_run_call_readAll hcall
  have heq := eq_of_run_summaries hfound
  have hordered : (contents.map Prod.fst).Pairwise (· ≤ ·) := hnames ▸ pairwise_namesOf kind listed
  refine ⟨generation, listed, contents, {
    schemas := ⟨version, t₁, t₃, _, rfl, hversion, hschemas⟩
    read := ⟨c, t₁ ++ (t₃ ++ u₁), u₂, u₃, u₄, u₅, u₆ ++ (t₇ ++ (t₉ ++ [])), by simp, hget,
      hentries, heach⟩
    names := hnames ▸ namesOf_perm kind listed
    eq := heq
    ordered := ?_
    bare := ?_ }⟩
  · rw [heq, List.pairwise_map]
    simpa using (List.pairwise_map.1 hordered).sublist List.filter_sublist
  · intro x hx hnone
    rw [heq]
    refine List.mem_map.2 ⟨x, List.mem_filter.2 ⟨hx, ?_⟩, by rw [summaryIn, hnone]⟩
    exact decide_eq_true (not_leavesOut_of_eq_none hnone)

/-- **Nothing that becomes of a file is an error of a listing.** -/
theorem unlisted_of_run {e : ServiceError}
    (hrun : Run (s.list host kind criteria) t (.error e)) : Unlisted s host kind t e := by
  rw [Service.list] at hrun
  split at hrun
  case isFalse hkind =>
    obtain ⟨rfl, he⟩ := run_done_iff.1 hrun
    cases he
    exact .kind (Bool.eq_false_iff.2 hkind)
  obtain ⟨_, hversion, he⟩ | ⟨t₁, t₂, version, rfl, hversion, hrest⟩ := run_andThen_iff.1 hrun
  · cases he
    exact .generation hversion
  obtain ⟨_, hschemas, he⟩ | ⟨t₃, t₄, generation, rfl, hschemas, hrest⟩ := run_andThen_iff.1 hrest
  · cases he
    exact .schemas hversion hschemas
  obtain ⟨_, hcall, he⟩ | ⟨_, _, contents, -, -, hrest⟩ := run_andThen_iff.1 hrest
  · cases he
    exact .directory hversion hschemas (call_failsAs s host (readAll_failsAs kind) _ _ hcall)
  · obtain ⟨_, _, _, -, -, htold⟩ := run_bind_iff.1 hrest
    obtain ⟨_, _, _, -, -, hdone⟩ := run_bind_iff.1 htold
    cases (run_done_iff.1 hdone).2

/-! ## A listing of all kinds -/

/-- **What a listing of all kinds comes to**: each kind was listed, and the files are all those of
the three listings, in name order. -/
structure AllListed (s : Service) (host : String) (criteria : MatchCriteria)
    (t : List (Deed ServiceState)) (found : Kind → List FileSummary) (files : List FileSummary) :
    Prop where
  /-- Each kind was listed. -/
  listed : ∀ kind ∈ Kind.fileKinds, ∃ u, u <:+: t ∧
    Run (s.list host kind (some criteria)) u (.ok (found kind))
  /-- Each file of the three listings is there once, and no other. -/
  perm : files.Perm (Kind.fileKinds.flatMap found)
  /-- Those of a kind are as its listing has them. -/
  ofKind : ∀ kind ∈ Kind.fileKinds, files.filter (·.kind = kind) = found kind
  /-- The files are in name order. -/
  ordered : files.Pairwise fun a b => a.filename ≤ b.filename
  /-- No name is there twice if none is in one of the listings. -/
  nodup : (∀ kind ∈ Kind.fileKinds, ((found kind).map FileSummary.filename).Nodup) →
    (files.map FileSummary.filename).Nodup

/-- Of the files of several kinds, those of a kind are its own. -/
theorem filter_flatMap_kind {kinds : List Kind} {found : Kind → List FileSummary}
    (hfound : ∀ k ∈ kinds, ∀ file ∈ found k, file.kind = k) (hkinds : kinds.Nodup)
    (hkind : kind ∈ kinds) :
    (kinds.flatMap found).filter (·.kind = kind) = found kind := by
  induction kinds with
  | nil => cases hkind
  | cons k rest ih =>
    obtain ⟨hk, hrest⟩ := List.nodup_cons.1 hkinds
    have hfirst := hfound k List.mem_cons_self
    rw [List.flatMap_cons, List.filter_append]
    obtain rfl | hkind := List.mem_cons.1 hkind
    · have hothers : (rest.flatMap found).filter (·.kind = kind) = [] := by
        refine List.filter_eq_nil_iff.2 fun file hfile => ?_
        obtain ⟨k', hk', hfile⟩ := List.mem_flatMap.1 hfile
        rw [hfound k' (List.mem_cons_of_mem _ hk') file hfile, decide_eq_true_iff]
        rintro rfl
        exact hk hk'
      rw [hothers, List.append_nil, List.filter_eq_self]
      exact fun file hfile => decide_eq_true (hfirst file hfile)
    · have hnone : (found k).filter (·.kind = kind) = [] := by
        refine List.filter_eq_nil_iff.2 fun file hfile => ?_
        rw [hfirst file hfile, decide_eq_true_iff]
        rintro rfl
        exact hk hkind
      rw [hnone, List.nil_append]
      exact ih (fun k' hk' => hfound k' (List.mem_cons_of_mem _ hk')) hrest hkind

/-- **All kinds are listed**, one after the other. -/
theorem allListed_of_run {criteria : MatchCriteria} {files : List FileSummary}
    (hrun : Run (CommandLine.listFiles s host none criteria) t (.ok files)) :
    ∃ found, AllListed s host criteria t found files := by
  obtain ⟨_, -, he⟩ | ⟨t₁, t₂, lists, rfl, hlists, hdone⟩ := run_andThen_iff.1 hrun
  · cases he
  obtain ⟨rfl, hok⟩ := run_done_iff.1 hdone
  obtain rfl := Except.ok.inj hok
  -- there is one listing for each kind, so it can be found by the kind
  obtain ⟨found, rfl, hlisted⟩ : ∃ found : Kind → List FileSummary,
      lists = Kind.fileKinds.map found ∧ ∀ kind ∈ Kind.fileKinds, ∃ u, u <:+: t₁ ∧
        Run (s.list host kind (some criteria)) u (.ok (found kind)) := by
    have heach := forall₂_of_run_forEach_ok hlists
    simp only [Kind.fileKinds] at heach
    obtain _ | ⟨hnetwork, _ | ⟨hnetdev, _ | ⟨hlink, _ | _⟩⟩⟩ := heach
    refine ⟨fun kind => if kind = .network then _ else if kind = .netdev then _ else _, rfl, ?_⟩
    simpa [Kind.fileKinds] using ⟨hnetwork, hnetdev, hlink⟩
  have hlistings : ∀ kind ∈ Kind.fileKinds, ∃ u generation listed contents,
      Listing s host kind (some criteria) u generation listed contents (found kind) := by
    intro kind hkind
    obtain ⟨u, -, hu⟩ := hlisted kind hkind
    exact ⟨u, listing_of_run hu⟩
  have hkinds : ∀ kind ∈ Kind.fileKinds, ∀ file ∈ found kind,
      file.kind = kind ∧ Kind.ofFilename? file.filename = some kind := by
    intro kind hkind file hfile
    obtain ⟨u, generation, listed, contents, h⟩ := hlistings kind hkind
    exact h.kind_eq hfile
  have hperm : ((Kind.fileKinds.map found).flatten.mergeSort CommandLine.byFilename).Perm
      (Kind.fileKinds.flatMap found) :=
    List.mergeSort_perm _ _
  refine ⟨found, {
    listed := fun kind hkind => ?_
    perm := hperm
    ofKind := fun kind hkind => ?_
    ordered := pairwise_mergeSort_on FileSummary.filename _
    nodup := fun hfound => ?_ }⟩
  · obtain ⟨u, hu, hrun⟩ := hlisted kind hkind
    exact ⟨u, hu.trans (List.prefix_append _ _).isInfix, hrun⟩
  · -- sorting by names moves no two files of a kind past each other
    obtain ⟨u, generation, listed, contents, h⟩ := hlistings kind hkind
    have hsublist := sublist_mergeSort_on FileSummary.filename
      (List.sublist_flatten_of_mem (List.mem_map_of_mem (f := found) hkind)) h.ordered
    have hself : (found kind).filter (·.kind = kind) = found kind :=
      List.filter_eq_self.2 fun file hfile => decide_eq_true (hkinds kind hkind file hfile).1
    have hfiltered := hsublist.filter (·.kind = kind)
    rw [hself] at hfiltered
    refine (hfiltered.eq_of_length ?_).symm
    have hlength := (hperm.filter (·.kind = kind)).length_eq
    rw [filter_flatMap_kind (fun k hk file hfile => (hkinds k hk file hfile).1) (by decide) hkind]
      at hlength
    exact hlength.symm
  · rw [(hperm.map _).nodup_iff, List.map_flatMap, List.nodup_flatMap]
    refine ⟨hfound, (by decide : Kind.fileKinds.Nodup).imp_of_mem ?_⟩
    intro k k' hk hk' hne name hname hname'
    obtain ⟨file, hfile, rfl⟩ := List.mem_map.1 hname
    obtain ⟨file', hfile', heq⟩ := List.mem_map.1 hname'
    have hkind := (hkinds k' hk' file' hfile').2
    rw [heq, (hkinds k hk file hfile).2] at hkind
    exact hne (Option.some.inj hkind)

/-! ## All listings -/

/-- **What services list of configuration files.** -/
structure ListsFiles (s : Service) : Prop where
  /-- A listing comes to an end wherever all requests are replied to. -/
  ends : ∀ {ω : Type} {may : Surroundings ω}, may.Answer (fun _ _ => True) →
    ∀ host kind criteria σ w, ∃ t result σ' w',
      (s.list host kind criteria).Undisturbed may σ w t result σ' w'
  /-- It has one file for each file of the kind that is not left out. -/
  ofKind : ∀ host kind criteria t files, Run (s.list host kind criteria) t (.ok files) →
    ∃ generation listed contents, Listing s host kind criteria t generation listed contents files
  /-- Otherwise the generation for the host, its schemas or the directory could not be had. -/
  failed : ∀ host kind criteria t e, Run (s.list host kind criteria) t (.error e) →
    Unlisted s host kind t e
  /-- A listing of all kinds has the files of each. -/
  all : ∀ host criteria t files, Run (CommandLine.listFiles s host none criteria) t (.ok files) →
    ∃ found, AllListed s host criteria t found files
  /-- Otherwise there is no listing of one of them. -/
  allFailed : ∀ host criteria t e,
    Run (CommandLine.listFiles s host none criteria) t (.error e) →
      ∃ kind ∈ Kind.fileKinds, ∃ u, u <:+: t ∧ Unlisted s host kind u e

/-- **Every service lists files so**, whatever directories hold and whatever becomes of reading each
file. -/
theorem listsFiles (s : Service) : s.ListsFiles where
  ends hanswer host kind criteria σ w := by
    obtain ⟨t, result, σ', w', h, -⟩ := exists_undisturbed hanswer (s.list host kind criteria) σ w
    exact ⟨t, result, σ', w', h⟩
  ofKind _ _ _ _ _ := listing_of_run
  failed _ _ _ _ _ := unlisted_of_run
  all _ _ _ _ := allListed_of_run
  allFailed host criteria t e hrun := by
    obtain ⟨_, hlists, he⟩ | ⟨_, _, _, -, -, hdone⟩ := run_andThen_iff.1 hrun
    · cases he
      obtain ⟨kind, hkind, u, hu, herror⟩ := exists_of_run_forEach_error hlists
      exact ⟨kind, hkind, u, hu, unlisted_of_run herror⟩
    · cases (run_done_iff.1 hdone).2

/-- The entries of a directory: network files, one of another kind, and a directory. -/
def mixedEntries : List DirEntry :=
  [⟨"d.network", false⟩, ⟨"b.network", false⟩, ⟨"e.link", false⟩, ⟨"a.network", false⟩,
    ⟨"f.network", true⟩, ⟨"c.network", false⟩]

/-- What comes of reading the files: one has no section, one is for another interface, one may not
be read, and one is for the interface that is looked for. -/
def mixedContents : List (String × Except ConnectorError ByteArray) :=
  [("a.network", .ok (Text.bytesOf "Name=eth0\n")),
    ("b.network", .ok (Text.bytesOf "[Match]\nName=eth1\n")),
    ("c.network", .error (.io "c.network" .denied)),
    ("d.network", .ok (Text.bytesOf "[Match]\nName=eth0\n"))]

/-- This machine has these files, and runs systemd 255. -/
def replyMixed : (r : Request) → r.Reply
  | .entries _ => .ok mixedEntries
  | .load path =>
    match mixedContents.lookup path with
    | some (.ok bytes) => .ok bytes
    | _ => .error .denied
  | .run _ _ _ => .ok { output := Text.bytesOf "systemd 255\n" }
  | r => r.usual

/-- The files for an interface are looked for. -/
def wantsEth0 : MatchCriteria where
  name := some "eth0"

theorem namesOf_mixedEntries : namesOf .network mixedEntries = mixedContents.map Prod.fst := by
  have hperm : (namesOf .network mixedEntries).Perm (mixedContents.map Prod.fst) :=
    (namesOf_perm .network mixedEntries).trans (by decide +kernel)
  refine hperm.eq_of_pairwise (fun a b _ _ => String.le_antisymm) (pairwise_namesOf _ _) ?_
  decide +kernel

/-- The files are read in name order. -/
theorem alone_call_mixed (σ : ServiceState) :
    ((sample.call "" (readAll .network)).alone replyMixed σ).2.1 = .ok mixedContents := by
  have hread : ((sample.call "" (readAll .network)).alone replyMixed σ).2.1 =
      ((sample.call "" fun c => c.entries.andThen fun _ =>
        readEach c (namesOf .network mixedEntries) >>= fun contents =>
          done (.ok contents)).alone replyMixed σ).2.1 := rfl
  rw [hread, namesOf_mixedEntries]
  rfl

theorem exists_run_mixed : ∃ t files,
    Run (sample.list "" .network (some wantsEth0)) t (.ok files) ∧
      files.map (fun file => (file.filename, file.matchName)) =
        [("a.network", none), ("c.network", none), ("d.network", some "eth0")] := by
  have hversion : ((sample.hostGeneration "").alone replyMixed sampleState).2.1.toOption =
      some 255 := by decide +kernel
  have hgeneration : ((sample.schemasOf 255).alone replyMixed
      ((sample.hostGeneration "").alone replyMixed sampleState).2.2).2.1.toOption.map
        (fun generation =>
          (mixedContents.filter fun x =>
              ¬sample.LeavesOut generation .network (some wantsEth0) x.2).map fun x =>
            (x.1, (sample.summaryIn generation .network x.1 x.2).matchName)) =
      some [("a.network", none), ("c.network", none), ("d.network", some "eth0")] := by
    decide +kernel
  obtain ⟨generation, hschemas, hnames⟩ := Option.map_eq_some_iff.1 hgeneration
  have hrun := run_alone replyMixed (sample.list "" .network (some wantsEth0)) sampleState
  have hfile : Kind.network.isFileKind = true := rfl
  obtain ⟨σ, hlist⟩ : ∃ σ,
      ((sample.list "" .network (some wantsEth0)).alone replyMixed sampleState).2.1 =
        .ok ((sample.summaries generation .network (filterOf .network (some wantsEth0))
          mixedContents).alone replyMixed σ).2.1 := by
    rw [list, if_pos hfile, alone_andThen_snd (toOption_eq_some_iff.1 hversion),
      alone_andThen_snd (toOption_eq_some_iff.1 hschemas), alone_andThen_snd (alone_call_mixed _),
      alone_bind_snd]
    exact ⟨_, rfl⟩
  rw [hlist] at hrun
  refine ⟨_, _, hrun, ?_⟩
  rw [eq_of_run_summaries (run_alone _ _ _), List.map_map, ← hnames]
  exact List.map_congr_left fun x _ => by simp

/-- The file for another interface is left out, and those without a document are there with their
names only. -/
theorem listsFiles_mixed :
    ∃ t generation listed contents files,
      Run (sample.list "" .network (some wantsEth0)) t (.ok files) ∧
        files.map (fun file => (file.filename, file.matchName)) =
          [("a.network", none), ("c.network", none), ("d.network", some "eth0")] ∧
        Listing sample "" .network (some wantsEth0) t generation listed contents files := by
  obtain ⟨t, files, hrun, hnames⟩ := exists_run_mixed
  obtain ⟨generation, listed, contents, h⟩ := (listsFiles sample).ofKind _ _ _ _ _ hrun
  exact ⟨t, generation, listed, contents, files, hrun, hnames, h⟩

end Service

end NetUnits
