import NetUnits.Proofs.Action.Passing
import NetUnits.Proofs.Schema.Loading

/-! # What a generation is built from

A generation is built once, from what one file for each kind holds at that time. From then on it is
handed out as it is, and no file is looked at again.

* **`Deed.loads`** — the files that are read in a history, with what they hold.
* **`SchemaStore.fileOf`** — the file of a kind; **`SchemaStore.documentIn?`** — the document in
  what a file holds; **`SchemaStore.built`** — the generation of what the files hold.
* **`SchemaStore.of_run_generation`** — getting a generation hands out one that is there, or reads
  each file once and keeps what is built. -/

namespace NetUnits

open NetUnits.Action

namespace Deed

variable {σ : Type} {t u : List (Deed σ)}

/-- **The files that are read in a history**, with what they hold. -/
def loads (t : List (Deed σ)) : List (String × Except Fault ByteArray) :=
  t.filterMap fun
    | asked (.load path) content => some (path, content)
    | _ => none

@[simp] theorem loads_nil : loads ([] : List (Deed σ)) = [] := rfl

@[simp] theorem loads_append : loads (t ++ u) = loads t ++ loads u :=
  List.filterMap_append

/-- Without such a request no file is read. -/
theorem loads_eq_nil {q : σ → σ → Prop} (h : ∀ d ∈ t, d.Obeys (fun r => ∀ path, r ≠ .load path) q) :
    loads t = [] := by
  refine List.filterMap_eq_nil_iff.2 fun d hd => ?_
  cases d with
  | changed | forked => rfl
  | asked r reply =>
    cases r with
    | load path => exact absurd rfl (h _ hd path)
    | _ => rfl

/-- Where nothing is changed nothing is passed on but the state. -/
theorem Passes.eq_of_obeys {p : Request → Prop} {s s' : σ} (h : Passes id s t s')
    (ht : ∀ d ∈ t, d.Obeys p fun _ _ => False) : s' = s :=
  h.eq_of_leaves fun d hd => by
    cases d with
    | changed => exact (ht _ hd).elim
    | asked | forked => trivial

end Deed

theorem Action.run_loadText_iff {σ : Type} {path : String} {t : List (Deed σ)}
    {text : Except Fault String} :
    Run (loadText path) t text ↔
      ∃ content, t = [.asked (.load path) content] ∧ text = textOf content := by
  rw [loadText, run_ask_iff]
  simp only [run_done_iff]
  constructor
  · rintro ⟨content, _, rfl, rfl, rfl⟩
    exact ⟨content, rfl, rfl⟩
  · rintro ⟨content, rfl, rfl⟩
    exact ⟨content, [], rfl, rfl, rfl⟩

namespace SchemaStore

open NetUnits.Deed

variable {σ : Type} (store : SchemaStore)

/-! ## Documents -/

/-- **The file of a kind** in a generation. -/
def fileOf (version : Nat) (kind : Kind) : String :=
  Path.join (store.directoryOf version) kind.schemaFile

/-- The name of the directory of a generation is a `v` and the digits of its number. -/
theorem toList_directoryName (n : Nat) : s!"v{n}".toList = 'v' :: Nat.toDigits 10 n := by
  rw [String.toList_append, Nat.toString_eq_ofList_toDigits, String.toList_ofList]
  rfl

/-- **The document in what a file holds**, if it can be read and is JSON. -/
def documentIn? (content : Except Fault ByteArray) : Option Json :=
  (textOf content).toOption.bind Json.read?

variable {store}

theorem documentOf_eq_ok_iff {path : String} {content : Except Fault ByteArray} {document : Json} :
    documentOf path (textOf content) = .ok document ↔ documentIn? content = some document := by
  unfold documentOf documentIn?
  cases textOf content with
  | error fault => simp [Except.toOption]
  | ok text =>
    simp only [Except.toOption, Option.bind_some]
    cases Json.read? text <;> simp

/-- **The file of a kind is read once**, and its document is what it holds at that time. -/
theorem of_run_loadDocument {version : Nat} {kind : Kind} {t : List (Deed σ)}
    {document : Option Json} (h : Run (store.loadDocument version kind) t document) :
    ∃ content, loads t = [(store.fileOf version kind, content)] ∧
      document = documentIn? content := by
  obtain ⟨_, t', text, rfl, hload, hrest⟩ := run_bind_iff.1 h
  obtain ⟨content, rfl, rfl⟩ := run_loadText_iff.1 hload
  refine ⟨content, ?_⟩
  cases hok : documentOf (store.fileOf version kind) (textOf content) with
  | ok document' =>
    rw [← fileOf, hok] at hrest
    obtain ⟨rfl, rfl⟩ := run_done_iff.1 hrest
    exact ⟨rfl, (documentOf_eq_ok_iff.1 hok).symm⟩
  | error e =>
    rw [← fileOf, hok] at hrest
    obtain ⟨_, _, rfl, hdone⟩ := run_ask_iff.1 hrest
    obtain ⟨rfl, rfl⟩ := run_done_iff.1 hdone
    refine ⟨rfl, ?_⟩
    cases hdoc : documentIn? content with
    | none => rfl
    | some document' => exact nomatch hok.symm.trans (documentOf_eq_ok_iff.2 hdoc)

/-- What the files of a generation hold, one after the other. -/
def filesOf (store : SchemaStore) (version : Nat) (contents : PerKind (Except Fault ByteArray)) :
    List (String × Except Fault ByteArray) :=
  Kind.all.map fun kind => (store.fileOf version kind, contents.get kind)

/-- **The documents of a generation** are those in its files. -/
theorem of_run_loadDocuments {version : Nat} {t : List (Deed σ)}
    {documents : PerKind (Option Json)} (h : Run (store.loadDocuments version) t documents) :
    ∃ contents, loads t = store.filesOf version contents ∧
      documents = contents.map documentIn? := by
  obtain ⟨t₁, _, d₁, rfl, h₁, hrest⟩ := run_bind_iff.1 h
  obtain ⟨t₂, _, d₂, rfl, h₂, hrest⟩ := run_bind_iff.1 hrest
  obtain ⟨t₃, _, d₃, rfl, h₃, hrest⟩ := run_bind_iff.1 hrest
  obtain ⟨t₄, _, d₄, rfl, h₄, hrest⟩ := run_bind_iff.1 hrest
  obtain ⟨rfl, rfl⟩ := run_done_iff.1 hrest
  obtain ⟨c₁, ht₁, rfl⟩ := of_run_loadDocument h₁
  obtain ⟨c₂, ht₂, rfl⟩ := of_run_loadDocument h₂
  obtain ⟨c₃, ht₃, rfl⟩ := of_run_loadDocument h₃
  obtain ⟨c₄, ht₄, rfl⟩ := of_run_loadDocument h₄
  refine ⟨⟨c₁, c₂, c₃, c₄⟩, ?_, rfl⟩
  simp only [loads_append, ht₁, ht₂, ht₃, ht₄, List.append_nil]
  rfl

/-! ## Generations -/

/-- **The generation of what its files hold.** -/
def built (version serial : Nat) (contents : PerKind (Except Fault ByteArray)) : Generation :=
  Generation.ofDocuments version serial (contents.map documentIn?)

@[simp] theorem version_built (version serial : Nat) (contents : PerKind (Except Fault ByteArray)) :
    (built version serial contents).version = version := rfl

variable {version : Nat} {t : List (Deed LoadedSchemas)} {loaded loaded' : LoadedSchemas}

/-- **A generation that is loaded** is built from its files, each read once, and kept. -/
theorem of_run_loadGeneration {g : Generation} (h : Run (store.loadGeneration version) t g)
    (hpass : Passes id loaded t loaded') :
    ∃ contents, loads t = store.filesOf version contents ∧
      g = built version loaded.length contents ∧ loaded' = loaded ++ [g] := by
  obtain ⟨t₁, _, documents, rfl, hload, h₁⟩ := run_bind_iff.1 h
  obtain ⟨t₂, _, _, rfl, hreport, h₂⟩ := run_bind_iff.1 h₁
  obtain ⟨_, _, rfl, h₃⟩ := run_ask_iff.1 h₂
  obtain ⟨s, rfl, rfl⟩ := run_change_iff.1 h₃
  obtain ⟨contents, hloads, rfl⟩ := of_run_loadDocuments hload
  -- neither reading nor telling the log changes what is loaded
  have hquiet₁ := ((store.loadDocuments_obeys (p := fun _ => True) (q := fun _ _ => False)
    (fun _ => trivial) (fun _ _ => trivial) version).of_after hload).1
  have hquiet₂ := ((reportDocuments_obeys (p := fun r => ∀ path, r ≠ .load path)
    (q := fun _ _ => False) (fun _ _ => nofun) (contents.map documentIn?)).of_after hreport).1
  obtain ⟨s₁, hpass₁, hpass⟩ := passes_append_iff.1 hpass
  obtain ⟨s₂, hpass₂, hs, hlast⟩ := passes_append_iff.1 hpass
  obtain rfl := hpass₁.eq_of_obeys hquiet₁
  obtain rfl := hpass₂.eq_of_obeys hquiet₂
  obtain rfl : s = s₂ := hs
  refine ⟨contents, ?_, rfl, hlast⟩
  rw [loads_append, loads_append, hloads, loads_eq_nil hquiet₂]
  exact List.append_nil _

/-- A generation that is not installed is refused, and nothing is done. -/
theorem run_generation_of_not_mem (h : version ∉ store.available)
    {result : Except SchemaError Generation} :
    Run (store.generation version) t result ↔
      t = [] ∧ result = .error (.unknownGeneration version) := by
  rw [generation, if_neg (by simpa using h)]
  exact run_done_iff

/-- **Getting a generation that is installed** looks for it under the lock, and loads it if it is
not there. -/
theorem exists_of_run_generation_of_mem (havailable : version ∈ store.available)
    {result : Except SchemaError Generation} (h : Run (store.generation version) t result) :
    ∃ (s : LoadedSchemas) (u : List (Deed LoadedSchemas)) (g : Generation), result = .ok g ∧
      t = .asked (.acquire .schemas) () :: .changed s s :: u ++ [.asked (.release .schemas) ()] ∧
        ((s.find? (·.version == version) = some g ∧ ∃ e, u = [.asked (.event e) ()]) ∨
          s.find? (·.version == version) = none ∧ Run (store.loadGeneration version) u g) := by
  rw [generation, if_pos (by simpa using havailable)] at h
  obtain ⟨body, rfl, hbody⟩ := run_withLock_iff.1 h
  obtain ⟨s, u, rfl, hrest⟩ := run_look_bind_iff.1 hbody
  cases hfind : s.find? (·.version == version) with
  | some g =>
    rw [hfind] at hrest
    obtain ⟨_, _, rfl, hdone⟩ := run_ask_iff.1 hrest
    obtain ⟨rfl, rfl⟩ := run_done_iff.1 hdone
    exact ⟨s, _, g, rfl, rfl, .inl ⟨hfind, _, rfl⟩⟩
  | none =>
    rw [hfind] at hrest
    obtain ⟨u, _, g, rfl, hload, hdone⟩ := run_bind_iff.1 hrest
    obtain ⟨rfl, rfl⟩ := run_done_iff.1 hdone
    exact ⟨s, u, g, rfl, by rw [List.append_nil], .inr ⟨hfind, hload⟩⟩

/-- **A generation that is there already is handed out**, and no file is read; else it is built from
its files, each read once, and kept. -/
theorem of_run_generation (havailable : version ∈ store.available)
    {result : Except SchemaError Generation} (h : Run (store.generation version) t result)
    (hpass : Passes id loaded t loaded') :
    (∃ g, loaded.find? (·.version == version) = some g ∧ result = .ok g ∧ loads t = [] ∧
      loaded' = loaded) ∨
    (loaded.find? (·.version == version) = none ∧ ∃ contents,
      result = .ok (built version loaded.length contents) ∧
      loads t = store.filesOf version contents ∧
      loaded' = loaded ++ [built version loaded.length contents]) := by
  obtain ⟨s, u, g, rfl, rfl, hfound⟩ := exists_of_run_generation_of_mem havailable h
  obtain ⟨s₁, ⟨hs, hmiddle⟩, rfl⟩ := passes_append_iff.1 hpass
  obtain rfl : s = loaded := hs
  have hloads : loads (.asked (.acquire .schemas) () :: .changed s s :: u ++
      [.asked (.release .schemas) ()]) = loads u := by
    rw [loads_append]
    exact List.append_nil _
  rw [hloads]
  obtain ⟨hfind, e, rfl⟩ | ⟨hfind, hload⟩ := hfound
  · exact .inl ⟨g, hfind, rfl, rfl, hmiddle⟩
  · obtain ⟨contents, hloads, rfl, hkept⟩ := of_run_loadGeneration hload hmiddle
    exact .inr ⟨hfind, contents, rfl, hloads, hkept⟩

/-- **A generation that is installed is got**, whatever the files hold and whoever else loads
generations meanwhile. -/
theorem exists_of_run_generation (havailable : version ∈ store.available)
    {result : Except SchemaError Generation} (h : Run (store.generation version) t result) :
    ∃ g, result = .ok g ∧ g.version = version := by
  obtain ⟨_, _, g, rfl, -, ⟨hfind, -⟩ | ⟨-, hload⟩⟩ := exists_of_run_generation_of_mem havailable h
  · exact ⟨g, rfl, by simpa using List.find?_some hfind⟩
  · obtain ⟨_, _, documents, rfl, -, h₁⟩ := run_bind_iff.1 hload
    obtain ⟨_, _, _, rfl, -, h₂⟩ := run_bind_iff.1 h₁
    obtain ⟨_, _, rfl, h₃⟩ := run_ask_iff.1 h₂
    obtain ⟨_, rfl, rfl⟩ := run_change_iff.1 h₃
    exact ⟨_, rfl, rfl⟩

end SchemaStore

end NetUnits
