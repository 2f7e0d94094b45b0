import NetUnits.Document.Conversion
import NetUnits.Proofs.Dict
import NetUnits.Proofs.UnitFile.Section

/-! # What a document says

A document that is read is described by its lookups: a section name has the blocks of the sections
with that name, and a key of a block has the value of its lines.

* **`Section.ofBlocks?`** — the content of a section name with given blocks.
* **`get?_ofSections`** — the content of a section name in a document that is read.
* **`get?_blockOf`** — the value of a key in a block that is read. -/

namespace NetUnits.Document

/-! ## The content of a section name -/

/-- **The content of a section name**: none without blocks; one block stands alone, unless the
section may be written several times. -/
def Section.ofBlocks? (listed : Bool) : List Block → Option Document.Section
  | [] => none
  | [block] => some (if listed then .repeated [block] else .single block)
  | block :: second :: rest => some (.repeated (block :: second :: rest))

/-- **The blocks of a section name** in a document, none if the name does not occur. -/
def blocksAt (d : Document) (header : String) : List Block :=
  ((d.get? header).map Section.blocks).getD []

@[simp] theorem Section.ofBlocks?_nil (listed : Bool) : Section.ofBlocks? listed [] = none := rfl

/-- The content of a name with blocks has these blocks. -/
theorem Section.blocks_of_ofBlocks? {listed : Bool} {blocks : List Block}
    {content : Document.Section} (h : Section.ofBlocks? listed blocks = some content) :
    content.blocks = blocks := by
  match blocks with
  | [] => simp at h
  | [block] =>
    obtain rfl := Option.some.inj h
    cases listed <;> rfl
  | block :: second :: rest =>
    obtain rfl := Option.some.inj h
    rfl

theorem Section.ofBlocks?_eq_none_iff {listed : Bool} {blocks : List Block} :
    Section.ofBlocks? listed blocks = none ↔ blocks = [] := by
  match blocks with
  | [] => simp
  | [block] => simp [Section.ofBlocks?]
  | block :: second :: rest => simp [Section.ofBlocks?]

/-- The blocks are those of the content. -/
theorem Section.getD_blocks_ofBlocks? (listed : Bool) (blocks : List Block) :
    ((Section.ofBlocks? listed blocks).map Section.blocks).getD [] = blocks := by
  cases h : Section.ofBlocks? listed blocks with
  | none => simp [Section.ofBlocks?_eq_none_iff.1 h]
  | some content => simp [Section.blocks_of_ofBlocks? h]

/-- **One more block** is the first of its name, or it makes a list of the section. -/
theorem Section.ofBlocks?_append_singleton (listed : Bool) (blocks : List Block) (block : Block) :
    Section.ofBlocks? listed (blocks ++ [block]) =
      match Section.ofBlocks? listed blocks with
      | none => some (if listed then .repeated [block] else .single block)
      | some content => some (content.push block) := by
  match blocks with
  | [] => rfl
  | [first] => cases listed <;> rfl
  | first :: second :: rest => rfl

/-! ## Reading sections -/

/-- A block is added under its section name only. -/
theorem get?_addBlock (repeatable : Repeatable) (kind : Kind) (name : String) (block : Block)
    (d : Document) (header : String) :
    (addBlock repeatable kind name block d).get? header =
      if name = header then
        match d.get? header with
        | none => some (if repeatable.allows kind header then .repeated [block] else .single block)
        | some content => some (content.push block)
      else d.get? header := by
  unfold addBlock
  by_cases h : name = header
  · subst h
    cases d.get? name <;> simp
  · cases d.get? name <;> simp [h]

/-- **A section name has the blocks of the sections with this name**, in order. -/
theorem get?_ofSections (types : KeyTypes) (repeatable : Repeatable) (kind : Kind)
    (sections : List UnitFile.Section) (header : String) :
    (ofSections types repeatable kind sections).get? header =
      Section.ofBlocks? (repeatable.allows kind header)
        ((sections.filter (·.name = header)).map (blockOf types kind)) := by
  -- sections are added from the first to the last, so the induction is on their end
  induction sections using List.reverseRecOn with
  | nil => rfl
  | append_singleton sections s ih =>
    rw [ofSections] at ih ⊢
    rw [List.foldl_append, List.foldl_cons, List.foldl_nil, get?_addBlock, ih, List.filter_append,
      List.map_append]
    by_cases h : s.name = header
    · have hone : [s].filter (·.name = header) = [s] := by simp [h]
      rw [if_pos h, hone, List.map_singleton, Section.ofBlocks?_append_singleton]
    · have hnone : [s].filter (·.name = header) = [] := by simp [h]
      rw [if_neg h, hnone, List.map_nil, List.append_nil]

/-! ## Reading lines -/

/-- **A key has the value of its lines**, and none without lines. -/
theorem get?_blockOf (types : KeyTypes) (kind : Kind) (s : UnitFile.Section) (key : String) :
    (blockOf types kind s).get? key =
      if s.values key = [] then none
      else (types.lookup kind s.name key).valueOf? (s.values key) := by
  rw [blockOf, UnitFile.Section.grouped_eq, List.filterMap_map]
  have hget := Dict.get?_ofList_filterMap s.nodup_keys
    (fun k => (types.lookup kind s.name k).valueOf? (s.values k)) key
  by_cases h : s.values key = []
  · -- a key without lines is no key of the section
    have hkey : key ∉ s.keys := fun hmem => UnitFile.Section.mem_keys_iff.1 hmem h
    rw [if_neg hkey] at hget
    rw [if_pos h]
    exact hget
  · rw [if_pos (UnitFile.Section.mem_keys_iff.2 h)] at hget
    rw [if_neg h]
    exact hget

end NetUnits.Document
