import NetUnits.Proofs.Schema.Contents
import NetUnits.Proofs.Text.Numeral

/-! # Which generations are installed

A store finds out once which generations there are, by the names of directories; it loads a
generation from the directory that it names itself. Names may spell the same number in several ways,
so a generation may be installed by a directory that is never looked at.

* **`SchemaStore.Spells`** — a name spells a number; **`SchemaStore.generationOf?_eq_some_iff`** —
  the names that count are those that spell one.
* **`SchemaStore.Offers`** — the generations that a store offers and what they are built from;
  **`SchemaStore.offers_of_openAt`** — it holds for all that a directory may contain.
* **`SchemaStore.exists_openAt_signed`** — a directory whose name has a plus sign. -/

namespace NetUnits.SchemaStore

open NetUnits.Action NetUnits.Text NetUnits.Deed

/-! ## Directory names -/

/-- **A name spells a number**: after a `v` stand the digits of the number, perhaps after a plus
sign and zeros. -/
def Spells (name : String) (n : Nat) : Prop :=
  ∃ sign zeros, (sign = [] ∨ sign = ['+']) ∧
    name.toList = 'v' :: (sign ++ (List.replicate zeros '0' ++ Nat.toDigits 10 n))

/-- **The names that count** are those that spell a number of 32 bits. -/
theorem generationOf?_eq_some_iff {name : String} {n : Nat} :
    generationOf? name = some n ↔ n ≤ maxNat32 ∧ Spells name n := by
  unfold generationOf? Spells
  split
  · rename_i digits hname
    rw [natUpTo?_eq_some_iff, hname]
    simp only [List.cons.injEq, true_and]
  · rename_i hname
    simp only [reduceCtorEq, false_iff, not_and]
    rintro - ⟨sign, zeros, -, heq⟩
    exact hname _ heq

/-- The name that a generation is loaded by spells its number. -/
theorem spells_nameOf (n : Nat) : Spells s!"v{n}" n :=
  ⟨[], 0, .inl rfl, toList_directoryName n⟩

/-! ## The generations of a directory -/

theorem mem_insertAscending_iff {n m : Nat} {l : List Nat} :
    m ∈ insertAscending n l ↔ m = n ∨ m ∈ l := by
  induction l with
  | nil => simp [insertAscending]
  | cons a l ih =>
    rw [insertAscending]
    split
    · simp
    · split
      · simp_all
      · rw [List.mem_cons, ih, List.mem_cons]
        exact or_left_comm

theorem mem_foldr_insertAscending_iff {n : Nat} {l : List Nat} :
    n ∈ l.foldr insertAscending [] ↔ n ∈ l := by
  induction l with
  | nil => rfl
  | cons a l ih => rw [List.foldr_cons, mem_insertAscending_iff, ih, List.mem_cons]

/-- **The generations of a directory** are the numbers of 32 bits that its subdirectories spell. -/
theorem mem_generationsOf_iff {entries : List DirEntry} {n : Nat} :
    n ∈ generationsOf entries ↔
      n ≤ maxNat32 ∧ ∃ e ∈ entries, e.isDir = true ∧ Spells e.name n := by
  rw [generationsOf, mem_foldr_insertAscending_iff, List.mem_filterMap]
  simp only [Option.ite_none_right_eq_some, generationOf?_eq_some_iff]
  constructor
  · rintro ⟨e, he, hdir, hn, hspells⟩
    exact ⟨hn, e, he, hdir, hspells⟩
  · rintro ⟨hn, e, he, hdir, hspells⟩
    exact ⟨e, he, hdir, hn, hspells⟩

/-- **If all numbers are spelled in the plain way**, the generations are those whose directories are
there by the names that they are loaded by. -/
theorem mem_generationsOf_iff_of_plain {entries : List DirEntry}
    (hplain : ∀ e ∈ entries, e.isDir = true → ∀ n ≤ maxNat32, Spells e.name n → e.name = s!"v{n}")
    {n : Nat} (hn : n ≤ maxNat32) :
    n ∈ generationsOf entries ↔ ⟨s!"v{n}", true⟩ ∈ entries := by
  rw [mem_generationsOf_iff]
  constructor
  · rintro ⟨-, ⟨name, isDir⟩, he, rfl, hspells⟩
    obtain rfl : name = s!"v{n}" := hplain _ he rfl n hn hspells
    exact he
  · intro he
    exact ⟨hn, _, he, rfl, spells_nameOf n⟩

/-! ## Opening a store -/

/-- The entries of a directory that is listed; one that cannot be listed counts as empty. -/
def entriesIn : Except Fault (List DirEntry) → List DirEntry
  | .ok entries => entries
  | .error _ => []

variable {σ : Type} {directory : String} {fallback : Nat} {t : List (Deed σ)} {store : SchemaStore}

/-- What the log is told of the generations that were found. -/
def told (directory : String) (available : List Nat) : Action σ Unit :=
  if available.isEmpty then
    event .schemas .warn s!"no schema generations found under {directory}"
  else
    event .schemas .debug s!"schema generations under {directory}: {availableText available}"

theorem openAt_eq :
    (openAt directory fallback : Action σ SchemaStore) =
      request (.entries directory) >>= fun listing =>
        told directory (generationsOf (entriesIn listing)) >>= fun _ =>
          done ⟨directory, fallback, generationsOf (entriesIn listing)⟩ := by
  unfold openAt
  congr 1
  funext listing
  cases listing with
  | error fault => rfl
  | ok entries =>
    rw [show entriesIn (.ok entries) = entries from rfl]
    dsimp only
    cases generationsOf entries <;> rfl

/-- **What a store offers is found out by listing its directory once**, when it is opened. -/
theorem of_run_openAt (h : Run (openAt directory fallback : Action σ SchemaStore) t store) :
    ∃ listing rest, t = .asked (.entries directory) listing :: rest ∧
      store = ⟨directory, fallback, generationsOf (entriesIn listing)⟩ := by
  rw [openAt_eq] at h
  obtain ⟨t₁, t₂, listing, rfl, hlist, hrest⟩ := run_bind_iff.1 h
  obtain ⟨t₃, t₄, -, rfl, -, hdone⟩ := run_bind_iff.1 hrest
  obtain rfl := run_request_iff.1 hlist
  obtain ⟨-, rfl⟩ := run_done_iff.1 hdone
  exact ⟨listing, _, rfl, rfl⟩

/-- A store can be opened on whatever its directory contains. -/
theorem exists_run_openAt [Inhabited σ] (directory : String) (fallback : Nat)
    (listing : Except Fault (List DirEntry)) :
    ∃ rest, Run (openAt directory fallback : Action σ SchemaStore)
      (.asked (.entries directory) listing :: rest)
      ⟨directory, fallback, generationsOf (entriesIn listing)⟩ := by
  obtain ⟨t, _, htold⟩ := exists_run (told directory (generationsOf (entriesIn listing)) :
    Action σ Unit)
  refine ⟨t ++ [], ?_⟩
  rw [openAt_eq]
  exact run_bind_iff.2 ⟨[_], _, listing, rfl, run_request_iff.2 rfl,
    run_bind_iff.2 ⟨t, [], _, rfl, htold, run_done_iff.2 ⟨rfl, rfl⟩⟩⟩

/-- **The generations that a store offers** if its directory had these entries when it was
opened. -/
structure Offers (store : SchemaStore) (directory : String) (entries : List DirEntry) : Prop where
  /-- A generation is installed exactly if a subdirectory spells its number, in any way. -/
  spelled : ∀ n, n ∈ store.available ↔
    n ≤ maxNat32 ∧ ∃ e ∈ entries, e.isDir = true ∧ Spells e.name n
  /-- If all subdirectories spell numbers without a plus sign and zeros, it is installed exactly if
  there is a subdirectory by the name that it is loaded by. -/
  named : (∀ e ∈ entries, e.isDir = true → ∀ n ≤ maxNat32, Spells e.name n → e.name = s!"v{n}") →
    ∀ n ≤ maxNat32, n ∈ store.available ↔ ⟨s!"v{n}", true⟩ ∈ entries
  /-- A generation that is not loaded yet is built from the files in the subdirectory by the name
  that it is loaded by. -/
  loaded : ∀ n ∈ store.available, ∀ (loaded loaded' : LoadedSchemas) t result,
    (∀ g ∈ loaded, g.version ≠ n) → Run (store.generation n) t result →
      Passes id loaded t loaded' → ∃ contents,
        loads t = Kind.all.map (fun kind =>
          (Path.join (Path.join directory s!"v{n}") kind.schemaFile, contents.get kind)) ∧
        result = .ok (built n loaded.length contents)

/-- **What a store offers** is what its directory contained when it was opened, for all that it may
contain; a directory that cannot be listed counts as empty. -/
theorem offers_of_openAt
    (h : Run (openAt directory fallback : Action σ SchemaStore) t store) :
    ∃ listing rest, t = .asked (.entries directory) listing :: rest ∧
      Offers store directory (entriesIn listing) := by
  obtain ⟨listing, rest, rfl, rfl⟩ := of_run_openAt h
  refine ⟨listing, rest, rfl, fun n => mem_generationsOf_iff,
    fun hplain n hn => mem_generationsOf_iff_of_plain hplain hn, ?_⟩
  intro n havailable loaded loaded' t result hnew hrun hpass
  obtain ⟨g, hg, -⟩ | ⟨-, contents, hresult, hloads, -⟩ :=
    of_run_generation havailable hrun hpass
  · have hversion : g.version = n := by simpa using List.find?_some hg
    exact absurd hversion (hnew g (List.mem_of_find?_eq_some hg))
  · exact ⟨contents, hloads, hresult⟩

/-- A directory with one generation, and a file whose name is like that of another one. -/
theorem offers_of_openAt_plain :
    let entries : List DirEntry := [⟨"v257", true⟩, ⟨"v258", false⟩]
    ∃ (t : List (Deed Unit)) (store : SchemaStore), Run (openAt "schemas" 257) t store ∧
      (∃ listing rest, t = .asked (.entries "schemas") listing :: rest ∧
        Offers store "schemas" (entriesIn listing)) ∧
      t.head? = some (.asked (.entries "schemas") (.ok entries)) ∧
      (∀ e ∈ entries, e.isDir = true → ∀ n ≤ maxNat32, Spells e.name n → e.name = s!"v{n}") ∧
      store.available = [257] := by
  intro entries
  obtain ⟨rest, hrun⟩ := exists_run_openAt (σ := Unit) "schemas" 257 (.ok entries)
  refine ⟨_, _, hrun, offers_of_openAt hrun, rfl, fun e he hdir n hn hspells => ?_, by decide⟩
  have hnumber : generationOf? e.name = some n := generationOf?_eq_some_iff.2 ⟨hn, hspells⟩
  obtain rfl | rfl : e = ⟨"v257", true⟩ ∨ e = ⟨"v258", false⟩ := by simpa [entries] using he
  · obtain rfl : 257 = n := Option.some.inj hnumber
    rfl
  · cases hdir

/-- A plus sign in the name of a directory makes a generation available, but what is loaded is
looked for in another directory. -/
theorem exists_openAt_signed :
    ∃ (t : List (Deed Unit)) (store : SchemaStore), Run (openAt "schemas" 257) t store ∧
      t.head? = some (.asked (.entries "schemas") (.ok [⟨"v+257", true⟩])) ∧
      257 ∈ store.available ∧ ⟨s!"v{257}", true⟩ ∉ [(⟨"v+257", true⟩ : DirEntry)] ∧
      ∀ kind, store.fileOf 257 kind = "schemas/v257/" ++ kind.schemaFile := by
  obtain ⟨rest, hrun⟩ := exists_run_openAt (σ := Unit) "schemas" 257 (.ok [⟨"v+257", true⟩])
  refine ⟨_, _, hrun, rfl, by decide, by decide, fun kind => ?_⟩
  cases kind <;> decide

end NetUnits.SchemaStore
