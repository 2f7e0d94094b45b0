import NetUnits.Proofs.Document.Reading
import Mathlib.Data.List.Forall2
import Mathlib.Logic.Relation

/-! # Grouping by section name and by key

Reading a text groups twice: the sections of a name into the content of the name, and the lines of
a key into its value. Nothing is lost and nothing is added.

* **`IsBlockOf`**, **`IsDocumentOf`** — what a block says of its section, and a document of all
  sections, name by name and key by key; **`isBlockOf_iff`**, **`isDocumentOf_iff`**: reading gives
  this, and nothing else is like this.
* **`Section.Listed`** — what becomes of the content of a name when its section may be written
  several times: **`listed_ofBlocks?`**.
* **`Rearrangement`** — neighbours change places, sections of different names or lines of different
  keys: **`Rearrangement.ofSections_eq`** for one change, **`ofSections_eq_of_rearrangements`** for
  any number of them.
* **`ofText_groups`** — all of this for a text that is read. -/

namespace NetUnits.Document

variable {types : KeyTypes} {repeatable : Repeatable} {kind : Kind}

/-! ## The block of a section -/

/-- **A block says what a section says**, key by key. -/
structure IsBlockOf (types : KeyTypes) (kind : Kind) (s : UnitFile.Section) (block : Block) :
    Prop where
  /-- The keys are those of the lines. -/
  keys : ∀ key, key ∈ block.keys ↔ ∃ line ∈ s.entries, line.1 = key
  /-- A key that may be written several times has the values of all its lines, in order. -/
  all : ∀ key value, block.get? key = some value →
    (types.lookup kind s.name key).isArray = true →
      value = .list ((s.values key).map (types.lookup kind s.name key).coerce)
  /-- Any other key has the value of its last line. -/
  last : ∀ key value, block.get? key = some value →
    (types.lookup kind s.name key).isArray = false →
      ∃ line, (s.values key).getLast? = some line ∧
        value = (types.lookup kind s.name key).coerce line

/-- The values of a key are the texts of its lines, so there are some if it has lines. -/
theorem values_ne_nil_iff {s : UnitFile.Section} {key : String} :
    s.values key ≠ [] ↔ ∃ line ∈ s.entries, line.1 = key := by
  simp [UnitFile.Section.values, List.filter_eq_nil_iff]

/-- **The value of some lines** is a list of all of them, or the last. -/
theorem valueOf?_eq_some_iff {t : KeyType} {lines : List String} {value : Value} :
    t.valueOf? lines = some value ↔
      (t.isArray = true ∧ value = .list (lines.map t.coerce)) ∨
      (t.isArray = false ∧ ∃ line, lines.getLast? = some line ∧ value = t.coerce line) := by
  rw [KeyType.valueOf?]
  cases t.isArray with
  | true => simp [eq_comm]
  | false => simp [Option.map_eq_some_iff, @eq_comm _ value]

/-- There is a value if there are lines. -/
theorem exists_valueOf? (t : KeyType) {lines : List String} (h : lines ≠ []) :
    ∃ value, t.valueOf? lines = some value := by
  simp only [valueOf?_eq_some_iff]
  cases t.isArray with
  | true => exact ⟨_, .inl ⟨rfl, rfl⟩⟩
  | false => exact ⟨_, .inr ⟨rfl, _, List.getLast?_eq_some_getLast h, rfl⟩⟩

/-- **The block that is read says what the section says**, and no other block does. -/
theorem isBlockOf_iff {s : UnitFile.Section} {block : Block} :
    IsBlockOf types kind s block ↔ block = blockOf types kind s := by
  constructor
  · intro h
    refine Dict.ext_get? fun key => ?_
    rw [get?_blockOf]
    by_cases hlines : s.values key = []
    · have hkey : key ∉ block.keys := fun hmem =>
        values_ne_nil_iff.2 ((h.keys key).1 hmem) hlines
      rw [if_pos hlines]
      exact Dict.find?_eq_none_iff.2 hkey
    · obtain ⟨value, hvalue⟩ := Dict.mem_keys_iff.1 ((h.keys key).2 (values_ne_nil_iff.1 hlines))
      rw [if_neg hlines, hvalue, eq_comm, valueOf?_eq_some_iff]
      cases harray : (types.lookup kind s.name key).isArray with
      | true => exact .inl ⟨rfl, h.all key value hvalue harray⟩
      | false => exact .inr ⟨rfl, h.last key value hvalue harray⟩
  · rintro rfl
    have hvalue : ∀ key value, (blockOf types kind s).get? key = some value →
        (types.lookup kind s.name key).valueOf? (s.values key) = some value := by
      intro key value h
      rw [get?_blockOf] at h
      split at h
      · exact nomatch h
      · exact h
    constructor
    · intro key
      rw [Dict.mem_keys_iff, get?_blockOf, ← values_ne_nil_iff]
      by_cases hlines : s.values key = []
      · simp [hlines]
      · simp [hlines, exists_valueOf?]
    · intro key value h harray
      simpa [harray] using valueOf?_eq_some_iff.1 (hvalue key value h)
    · intro key value h harray
      simpa [harray] using valueOf?_eq_some_iff.1 (hvalue key value h)

/-! ## The document of a list of sections -/

/-- **A document says what a list of sections says**, name by name. -/
structure IsDocumentOf (types : KeyTypes) (repeatable : Repeatable) (kind : Kind)
    (sections : List UnitFile.Section) (d : Document) : Prop where
  /-- The section names are those of the sections. -/
  names : ∀ header, header ∈ d.keys ↔ ∃ s ∈ sections, s.name = header
  /-- The blocks of a name are those of its sections, one for each, in order. -/
  blocks : ∀ header, List.Forall₂ (IsBlockOf types kind) (sections.filter (·.name = header))
    (d.blocksAt header)
  /-- A block stands alone if its section is written once and may not be written several times. -/
  single : ∀ header, (∃ block, d.get? header = some (.single block)) ↔
    (sections.filter (·.name = header)).length = 1 ∧ repeatable.allows kind header = false

/-- The blocks that say what some sections say are those that are read from them. -/
theorem forall₂_isBlockOf_iff {sections : List UnitFile.Section} {blocks : List Block} :
    List.Forall₂ (IsBlockOf types kind) sections blocks ↔
      blocks = sections.map (blockOf types kind) := by
  have hiff : IsBlockOf types kind = fun s block => blockOf types kind s = block := by
    funext s block
    exact propext (isBlockOf_iff.trans eq_comm)
  rw [hiff, eq_comm, ← List.forall₂_eq_eq_eq, List.forall₂_map_left_iff]

/-- A content stands alone if there is one block and the section is not listed. -/
theorem Section.exists_ofBlocks?_eq_single_iff {listed : Bool} {blocks : List Block} :
    (∃ block, Section.ofBlocks? listed blocks = some (.single block)) ↔
      blocks.length = 1 ∧ listed = false := by
  match blocks with
  | [] => simp
  | [block] => cases listed <;> simp [Section.ofBlocks?]
  | block :: second :: rest => simp [Section.ofBlocks?]

/-- **A content is determined** by its blocks and by whether it stands alone. -/
theorem Section.eq_of_blocks {content content' : Document.Section}
    (hblocks : content.blocks = content'.blocks)
    (hsingle : (∃ block, content = .single block) ↔ ∃ block, content' = .single block) :
    content = content' := by
  cases content <;> cases content' <;> simp_all

/-- **The document that is read says what the sections say**, and no other document does. -/
theorem isDocumentOf_iff {sections : List UnitFile.Section} {d : Document} :
    IsDocumentOf types repeatable kind sections d ↔
      d = ofSections types repeatable kind sections := by
  constructor
  · intro h
    refine Dict.ext_get? fun header => ?_
    have hblocks := forall₂_isBlockOf_iff.1 (h.blocks header)
    rw [get?_ofSections, ← hblocks]
    cases hget : d.get? header with
    | none =>
      have hnone : d.blocksAt header = [] := by simp [blocksAt, hget]
      rw [hnone, Section.ofBlocks?_nil]
    | some content =>
      have hcontent : d.blocksAt header = content.blocks := by simp [blocksAt, hget]
      -- a name that occurs has a section, so its content has a block
      have hsome : content.blocks ≠ [] := by
        obtain ⟨s, hs, hname⟩ := (h.names header).1 (Dict.mem_keys_iff.2 ⟨content, hget⟩)
        rw [← hcontent, hblocks]
        simpa using ⟨s, hs, hname⟩
      have hsingle := h.single header
      rw [hcontent] at hblocks ⊢
      rw [← List.length_map (blockOf types kind), ← hblocks,
        ← Section.exists_ofBlocks?_eq_single_iff, hget] at hsingle
      obtain ⟨content', hcontent'⟩ :=
        Option.ne_none_iff_exists'.1 (mt Section.ofBlocks?_eq_none_iff.1 hsome)
      rw [hcontent'] at hsingle ⊢
      simp only [Option.some.injEq] at hsingle ⊢
      exact Section.eq_of_blocks (Section.blocks_of_ofBlocks? hcontent').symm hsingle
  · rintro rfl
    constructor
    · intro header
      rw [Dict.mem_keys_iff, ← Option.ne_none_iff_exists', get?_ofSections, Ne,
        Section.ofBlocks?_eq_none_iff]
      simp
    · intro header
      rw [forall₂_isBlockOf_iff, blocksAt, get?_ofSections, Section.getD_blocks_ofBlocks?]
    · intro header
      rw [get?_ofSections, Section.exists_ofBlocks?_eq_single_iff, List.length_map]

/-! ## More sections that may be written several times -/

/-- **What becomes of a content** when its section may be written several times: it stays, or its
only block is put into a list. -/
inductive Section.Listed : Document.Section → Document.Section → Prop
  | same (content : Document.Section) : Section.Listed content content
  | list (block : Block) : Section.Listed (.single block) (.repeated [block])

/-- **Only a block that stands alone is put into a list.** -/
theorem Section.listed_ofBlocks? {listed more : Bool} (h : listed = true → more = true)
    (blocks : List Block) :
    Option.Rel Section.Listed (Section.ofBlocks? listed blocks)
      (Section.ofBlocks? more blocks) := by
  match blocks with
  | [] => exact .none
  | [block] =>
    cases listed with
    | true =>
      rw [h rfl]
      exact .some (.same _)
    | false =>
      cases more with
      | true => exact .some (.list block)
      | false => exact .some (.same _)
  | block :: second :: rest => exact .some (.same _)

/-! ## Sections and lines in another order -/

/-- **One change of the order**: of two sections with different names, or of two lines of a section
with different keys, that follow each other. -/
inductive Rearrangement : List UnitFile.Section → List UnitFile.Section → Prop
  | sections (before : List UnitFile.Section) (s t : UnitFile.Section)
      (after : List UnitFile.Section) (h : s.name ≠ t.name) :
      Rearrangement (before ++ s :: t :: after) (before ++ t :: s :: after)
  | lines (before : List UnitFile.Section) (name : String) (above : List (String × String))
      (e f : String × String) (below : List (String × String)) (after : List UnitFile.Section)
      (h : e.1 ≠ f.1) :
      Rearrangement (before ++ ⟨name, above ++ e :: f :: below⟩ :: after)
        (before ++ ⟨name, above ++ f :: e :: below⟩ :: after)

/-- Neighbours of which one at most is chosen can change places before the choice. -/
theorem filter_swap {α : Type} {p : α → Bool} {a b : α} (h : p a = true → p b = false)
    (before after : List α) :
    (before ++ a :: b :: after).filter p = (before ++ b :: a :: after).filter p := by
  rw [List.filter_append, List.filter_append]
  cases ha : p a with
  | true => simp [ha, h ha]
  | false => simp [List.filter_cons, ha]

/-- A block is determined by the name of its section and the values of each key. -/
theorem blockOf_eq_of_values {s t : UnitFile.Section} (hname : s.name = t.name)
    (h : ∀ key, s.values key = t.values key) : blockOf types kind s = blockOf types kind t := by
  refine Dict.ext_get? fun key => ?_
  rw [get?_blockOf, get?_blockOf, hname, h key]

/-- A document is determined by the blocks of each name. -/
theorem ofSections_eq_of_blocks {sections others : List UnitFile.Section}
    (h : ∀ header, (sections.filter (·.name = header)).map (blockOf types kind) =
      (others.filter (·.name = header)).map (blockOf types kind)) :
    ofSections types repeatable kind sections = ofSections types repeatable kind others := by
  refine Dict.ext_get? fun header => ?_
  rw [get?_ofSections, get?_ofSections, h header]

/-- **One change of the order leaves the document.** -/
theorem Rearrangement.ofSections_eq {sections others : List UnitFile.Section}
    (h : Rearrangement sections others) :
    ofSections types repeatable kind sections = ofSections types repeatable kind others := by
  refine ofSections_eq_of_blocks fun header => ?_
  cases h with
  | sections before s t after hname =>
    rw [filter_swap]
    intro hs
    simpa [← of_decide_eq_true hs] using hname.symm
  | lines before name above e f below after hkey =>
    have hblock : blockOf types kind ⟨name, above ++ e :: f :: below⟩ =
        blockOf types kind ⟨name, above ++ f :: e :: below⟩ := by
      refine blockOf_eq_of_values rfl fun key => ?_
      rw [UnitFile.Section.values, UnitFile.Section.values, filter_swap]
      intro he
      simpa [← of_decide_eq_true he] using hkey.symm
    rw [List.filter_append, List.filter_append, List.map_append, List.map_append]
    by_cases hname : name = header
    · subst hname
      simp [hblock]
    · simp [hname]

/-- **Any number of changes of the order leaves the document.** -/
theorem ofSections_eq_of_rearrangements {sections others : List UnitFile.Section}
    (h : Relation.ReflTransGen Rearrangement sections others) :
    ofSections types repeatable kind sections = ofSections types repeatable kind others := by
  induction h with
  | refl => rfl
  | tail _ hstep ih => exact ih.trans hstep.ofSections_eq

/-! ## The document of a text -/

/-- **The document of a text says what its sections say.** With more sections that may be written
several times, only blocks that stand alone are put into lists; and the order of sections with
different names and of lines with different keys does not matter. -/
theorem ofText_groups (types : KeyTypes) (repeatable : Repeatable) (kind : Kind) {text : String}
    {sections : List UnitFile.Section} (h : UnitFile.parse text = .ok sections) :
    ∃ d, ofText text types repeatable kind = .ok d ∧
      IsDocumentOf types repeatable kind sections d ∧
      (∀ larger : Repeatable,
        (∀ header, repeatable.allows kind header = true → larger.allows kind header = true) →
          ∃ d', ofText text types larger kind = .ok d' ∧
            ∀ header, Option.Rel Section.Listed (d.get? header) (d'.get? header)) ∧
      ∀ other rearranged, UnitFile.parse other = .ok rearranged →
        Relation.ReflTransGen Rearrangement sections rearranged →
          ofText other types repeatable kind = .ok d := by
  have hread : ∀ {text sections} (repeatable : Repeatable), UnitFile.parse text = .ok sections →
      ofText text types repeatable kind = .ok (ofSections types repeatable kind sections) := by
    intro text sections repeatable h
    rw [ofText, h]
    rfl
  refine ⟨ofSections types repeatable kind sections, hread repeatable h, isDocumentOf_iff.2 rfl,
    fun larger hlarger => ⟨ofSections types larger kind sections, hread larger h, ?_⟩, ?_⟩
  · intro header
    rw [get?_ofSections, get?_ofSections]
    exact Section.listed_ofBlocks? (hlarger header) _
  · intro other rearranged hother hsteps
    rw [hread repeatable hother, ofSections_eq_of_rearrangements hsteps]

/-- A text with a section that is written twice around another one, in which a list is written
around another key; and the same with that key and that section first. -/
theorem ofText_groups_around :
    let types : KeyTypes :=
      .ofFn fun _ => Dict.ofList [("Route", Dict.ofList [("Gateway", ⟨true, false, false⟩)])]
    let text := "[Match]\nName=a\n[Route]\nGateway=b\nMetric=1\nGateway=c\n[Match]\nName=d\n"
    let other := "[Route]\nMetric=1\nGateway=b\nGateway=c\n[Match]\nName=a\n[Match]\nName=d\n"
    let sections : List UnitFile.Section := [⟨"Match", [("Name", "a")]⟩,
      ⟨"Route", [("Gateway", "b"), ("Metric", "1"), ("Gateway", "c")]⟩,
      ⟨"Match", [("Name", "d")]⟩]
    UnitFile.parse text = .ok sections ∧
    ∃ d, ofText text types .none .network = .ok d ∧
      IsDocumentOf types .none .network sections d ∧
      (∃ d', ofText text types (.mergedWith .none ["Route"]) .network = .ok d' ∧
        ∀ header, Option.Rel Section.Listed (d.get? header) (d'.get? header)) ∧
      ofText other types .none .network = .ok d := by
  intro types text other sections
  have h : UnitFile.parse text = .ok sections := by decide +kernel
  have hother : UnitFile.parse other = .ok [⟨"Route", [("Metric", "1"), ("Gateway", "b"),
      ("Gateway", "c")]⟩, ⟨"Match", [("Name", "a")]⟩, ⟨"Match", [("Name", "d")]⟩] := by
    decide +kernel
  obtain ⟨d, hd, hspeaks, hlarger, horder⟩ := ofText_groups types .none .network h
  refine ⟨h, d, hd, hspeaks, hlarger _ fun header hnone => ?_, horder other _ hother ?_⟩
  · simp [Repeatable.allows, Repeatable.none, Dict.contains] at hnone
  · exact .tail (.single (.lines [⟨"Match", [("Name", "a")]⟩] "Route" [] ("Gateway", "b")
      ("Metric", "1") [("Gateway", "c")] [⟨"Match", [("Name", "d")]⟩] (by decide)))
      (.sections [] ⟨"Match", [("Name", "a")]⟩
        ⟨"Route", [("Metric", "1"), ("Gateway", "b"), ("Gateway", "c")]⟩
        [⟨"Match", [("Name", "d")]⟩] (by decide))

end NetUnits.Document
