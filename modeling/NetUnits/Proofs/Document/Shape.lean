import NetUnits.Proofs.Document.Reading
import NetUnits.Proofs.Text.Numeral
import NetUnits.Proofs.UnitFile.Parser

/-! # The shape of values

The type of a key prescribes what its lines stand for. A value that has the prescribed shape is what
its own texts stand for, so writing and reading leave it alone:

* **`KeyType.scalar`**, **`KeyType.prescribed?`** — the value that a type prescribes for texts.
* **`KeyType.IsScalar`**, **`KeyType.HasShape`** — the values that a type prescribes.
* **`KeyType.prescribed?_texts`** — a value of this shape is prescribed for its own texts, if it has
  any; **`Document.IsFilled`** — every section of a document has a block, and every value a text.
* **`Document.hasShape_ofSections`**, **`Document.isFilled_ofSections`** — so is a document that is
  read from unpadded values. -/

namespace NetUnits

open NetUnits.Text

/-! ## Scalars -/

@[simp] theorem parseBool_trim (text : String) : parseBool (trim text) = parseBool text := by
  simp [parseBool]

@[simp] theorem parseInt_trim (text : String) : parseInt (trim text) = parseInt text := by
  simp [parseInt]

/-- A written truth value is read back. -/
@[simp] theorem parseBool_boolText (b : Bool) : parseBool (Value.boolText b) = b := by
  cases b <;> decide +kernel

/-- A written integer is read back. -/
@[simp] theorem parseInt_int64Text (i : Int64) : parseInt (int64Text i) = i := by
  rw [parseInt, trimChars_int64Text, int64?_int64Text, Option.getD_some]

namespace KeyType

/-- **The scalar that a type prescribes for a text**: a truth value, an integer, or the text without
the blanks around it. -/
def scalar (t : KeyType) (text : String) : Value :=
  if t.isBool then .bool (parseBool text)
  else if t.isInt then .int (parseInt text)
  else .text (trim text)

/-- **The value that a type prescribes for texts**: the list of all, or the last. Without texts
there is no value. -/
def prescribed? (t : KeyType) (texts : List String) : Option Value :=
  if texts.isEmpty then none
  else if t.isArray then some (.list (texts.map t.scalar))
  else texts.getLast?.map t.scalar

/-- A trimmed line is read as the scalar of the line. -/
theorem coerce_trim (t : KeyType) (text : String) : t.coerce (trim text) = t.scalar text := by
  simp [coerce, scalar]

/-- **A scalar of a type**: a truth value, an integer or an unpadded text, as the marks say. -/
def IsScalar (t : KeyType) : Value → Prop
  | .bool _ => t.isBool = true
  | .int _ => t.isBool = false ∧ t.isInt = true
  | .text s => t.isBool = false ∧ t.isInt = false ∧ trim s = s
  | .list _ => False

/-- **The shape of a type**: a list of scalars, or a scalar. -/
def HasShape (t : KeyType) : Value → Prop
  | .list items => t.isArray = true ∧ ∀ v ∈ items, t.IsScalar v
  | v => t.isArray = false ∧ t.IsScalar v

instance (t : KeyType) : DecidablePred t.IsScalar
  | .bool _ => inferInstanceAs (Decidable (t.isBool = true))
  | .int _ => inferInstanceAs (Decidable (t.isBool = false ∧ t.isInt = true))
  | .text s => inferInstanceAs (Decidable (t.isBool = false ∧ t.isInt = false ∧ trim s = s))
  | .list _ => inferInstanceAs (Decidable False)

instance (t : KeyType) : DecidablePred t.HasShape
  | .list items =>
    inferInstanceAs (Decidable (t.isArray = true ∧ ∀ v ∈ items, t.IsScalar v))
  | .bool b => inferInstanceAs (Decidable (t.isArray = false ∧ t.IsScalar (.bool b)))
  | .int i => inferInstanceAs (Decidable (t.isArray = false ∧ t.IsScalar (.int i)))
  | .text s => inferInstanceAs (Decidable (t.isArray = false ∧ t.IsScalar (.text s)))

/-- The scalar of an unpadded line is one. -/
theorem isScalar_coerce {t : KeyType} {text : String} (h : trim text = text) :
    t.IsScalar (t.coerce text) := by
  unfold coerce
  by_cases hb : t.isBool
  · simp [hb, IsScalar]
  · by_cases hi : t.isInt
    · simp [hb, hi, IsScalar]
    · simp [hb, hi, IsScalar, h]

/-- **A scalar is prescribed for its own text**, and has only one. -/
theorem exists_texts_of_isScalar {t : KeyType} {v : Value} (h : t.IsScalar v) :
    ∃ text, v.texts = [text] ∧ t.scalar text = v := by
  cases v with
  | bool b =>
    have hb : t.isBool = true := h
    exact ⟨Value.boolText b, by simp [Value.texts], by simp [scalar, hb]⟩
  | int i =>
    obtain ⟨hb, hi⟩ : t.isBool = false ∧ t.isInt = true := h
    exact ⟨int64Text i, by simp [Value.texts], by simp [scalar, hb, hi]⟩
  | text s =>
    obtain ⟨hb, hi, hs⟩ : t.isBool = false ∧ t.isInt = false ∧ trim s = s := h
    exact ⟨s, by simp [Value.texts], by simp [scalar, hb, hi, hs]⟩
  | list items => exact absurd h id

/-- The scalars of a list are prescribed for its texts, one for each. -/
theorem map_scalar_texts {t : KeyType} {items : List Value} (h : ∀ v ∈ items, t.IsScalar v) :
    (items.flatMap Value.texts).map t.scalar = items := by
  induction items with
  | nil => rfl
  | cons v items ih =>
    obtain ⟨hv, hitems⟩ := List.forall_mem_cons.1 h
    obtain ⟨text, htexts, hscalar⟩ := exists_texts_of_isScalar hv
    rw [List.flatMap_cons, htexts, List.map_append, ih hitems, List.map_singleton, hscalar,
      List.singleton_append]

/-- What a type prescribes, it prescribes for some text. -/
theorem ne_nil_of_prescribed? {t : KeyType} {texts : List String} {v : Value}
    (h : t.prescribed? texts = some v) : texts ≠ [] := by
  rintro rfl
  exact nomatch h

/-- **A value of the shape of a type is prescribed for its own texts**, unless it has none. -/
theorem prescribed?_texts {t : KeyType} {v : Value} (h : t.HasShape v) (hne : v.texts ≠ []) :
    t.prescribed? v.texts = some v := by
  -- the three kinds of scalars differ in their marks only
  have hscalar : ∀ v, t.isArray = false ∧ t.IsScalar v → t.prescribed? v.texts = some v := by
    rintro v ⟨harray, hv⟩
    obtain ⟨text, htexts, heq⟩ := exists_texts_of_isScalar hv
    simp [prescribed?, htexts, harray, heq]
  cases v with
  | bool b => exact hscalar _ h
  | int i => exact hscalar _ h
  | text s => exact hscalar _ h
  | list items =>
    obtain ⟨harray, hitems⟩ : t.isArray = true ∧ ∀ v ∈ items, t.IsScalar v := h
    rw [Value.texts, Value.textsOfAll_eq_flatMap] at hne ⊢
    rw [prescribed?, if_neg (mt List.isEmpty_iff.1 hne), if_pos harray, map_scalar_texts hitems]

/-- **What is read from unpadded lines has the shape of the type.** -/
theorem hasShape_of_valueOf? {t : KeyType} {lines : List String}
    (hlines : ∀ line ∈ lines, trim line = line) {v : Value} (h : t.valueOf? lines = some v) :
    t.HasShape v := by
  unfold valueOf? at h
  by_cases harray : t.isArray
  · rw [if_pos harray] at h
    obtain rfl := Option.some.inj h
    refine ⟨harray, fun v hv => ?_⟩
    obtain ⟨line, hline, rfl⟩ := List.mem_map.1 hv
    exact isScalar_coerce (hlines line hline)
  · rw [if_neg harray] at h
    obtain ⟨line, hline, rfl⟩ := Option.map_eq_some_iff.1 h
    have hscalar := isScalar_coerce (t := t) (hlines line (List.mem_of_getLast? hline))
    have hfalse : t.isArray = false := by simpa using harray
    -- a scalar is no list, so its shape is that of a single value
    generalize t.coerce line = v at hscalar
    cases v with
    | list items => exact absurd hscalar id
    | _ => exact ⟨hfalse, hscalar⟩

/-- The scalar of a line has one text. -/
theorem length_texts_coerce (t : KeyType) (line : String) : (t.coerce line).texts.length = 1 := by
  unfold coerce
  split
  · simp [Value.texts]
  · split <;> simp [Value.texts]

/-- **What is read from lines has a text.** -/
theorem texts_ne_nil_of_valueOf? {t : KeyType} {lines : List String} (hne : lines ≠ []) {v : Value}
    (h : t.valueOf? lines = some v) : v.texts ≠ [] := by
  have hcoerce : ∀ line, (t.coerce line).texts ≠ [] := fun line hnil => by
    simpa [hnil] using t.length_texts_coerce line
  unfold valueOf? at h
  split at h
  · obtain rfl := Option.some.inj h
    obtain ⟨line, rest, rfl⟩ := List.exists_cons_of_ne_nil hne
    rw [Value.texts, List.map_cons, Value.textsOfAll]
    exact List.append_ne_nil_of_left_ne_nil (hcoerce line) _
  · obtain ⟨line, -, rfl⟩ := Option.map_eq_some_iff.1 h
    exact hcoerce line

end KeyType

/-! ## Blocks and documents -/

/-- **Every value of a block has the shape that the type of its key prescribes.** -/
def Block.HasShape (types : KeyTypes) (kind : Kind) (header : String) (block : Block) : Prop :=
  ∀ e ∈ block.entries, (types.lookup kind header e.1).HasShape e.2

/-- **Every value of a document has the shape that the type of its key prescribes.** -/
def Document.HasShape (types : KeyTypes) (kind : Kind) (d : Document) : Prop :=
  ∀ e ∈ d.entries, ∀ block ∈ e.2.blocks, Block.HasShape types kind e.1 block

/-- **Every value of a block has a text**: none is a list without scalars. -/
def Block.IsFilled (block : Block) : Prop :=
  ∀ e ∈ block.entries, e.2.texts ≠ []

/-- **Every section of a document has a block, and every value a text.** -/
def Document.IsFilled (d : Document) : Prop :=
  ∀ e ∈ d.entries, e.2.blocks ≠ [] ∧ ∀ block ∈ e.2.blocks, block.IsFilled

instance (block : Block) : Decidable block.IsFilled :=
  inferInstanceAs (Decidable (∀ e ∈ block.entries, e.2.texts ≠ []))

instance (d : Document) : Decidable d.IsFilled :=
  inferInstanceAs
    (Decidable (∀ e ∈ d.entries, e.2.blocks ≠ [] ∧ ∀ block ∈ e.2.blocks, block.IsFilled))

instance (types : KeyTypes) (kind : Kind) (header : String) (block : Block) :
    Decidable (Block.HasShape types kind header block) :=
  inferInstanceAs
    (Decidable (∀ e ∈ block.entries, (types.lookup kind header e.1).HasShape e.2))

instance (types : KeyTypes) (kind : Kind) (d : Document) :
    Decidable (Document.HasShape types kind d) :=
  inferInstanceAs
    (Decidable (∀ e ∈ d.entries, ∀ block ∈ e.2.blocks, Block.HasShape types kind e.1 block))

namespace Document

/-- The blocks of a document with the shape of its types have it. -/
theorem HasShape.blocksAt {types : KeyTypes} {kind : Kind} {d : Document}
    (h : d.HasShape types kind) {header : String} {block : Block}
    (hmem : block ∈ d.blocksAt header) : Block.HasShape types kind header block := by
  unfold Document.blocksAt at hmem
  cases hget : d.get? header with
  | none => simp [hget] at hmem
  | some content =>
    rw [hget] at hmem
    exact h (header, content) (Dict.get?_eq_some_iff.1 hget) block hmem

/-- Values are unpadded in the lines of a key. -/
theorem trim_of_mem_values {s : UnitFile.Section} (h : s.Unpadded) {key line : String}
    (hline : line ∈ s.values key) : trim line = line := by
  obtain ⟨e, he, rfl⟩ := List.mem_map.1 hline
  exact h e (List.mem_of_mem_filter he)

/-- A block that is read from unpadded values has the shape of its types. -/
theorem hasShape_blockOf (types : KeyTypes) (kind : Kind) {s : UnitFile.Section}
    (h : s.Unpadded) : Block.HasShape types kind s.name (blockOf types kind s) := by
  rintro ⟨key, v⟩ he
  have hget := Dict.get?_eq_some_iff.2 he
  rw [get?_blockOf] at hget
  split at hget
  · simp at hget
  · exact KeyType.hasShape_of_valueOf? (fun line hline => trim_of_mem_values h hline) hget

/-- A block that is read has a text for each key. -/
theorem isFilled_blockOf (types : KeyTypes) (kind : Kind) (s : UnitFile.Section) :
    (blockOf types kind s).IsFilled := by
  rintro ⟨key, v⟩ he
  have hget := Dict.get?_eq_some_iff.2 he
  rw [get?_blockOf] at hget
  split at hget
  · simp at hget
  · rename_i hne
    exact KeyType.texts_ne_nil_of_valueOf? hne hget

/-- **A document that is read from unpadded values has the shape of its types.** -/
theorem hasShape_ofSections (types : KeyTypes) (repeatable : Repeatable) (kind : Kind)
    {sections : List UnitFile.Section} (h : ∀ s ∈ sections, s.Unpadded) :
    (ofSections types repeatable kind sections).HasShape types kind := by
  rintro ⟨header, content⟩ he block hblock
  have hget := Dict.get?_eq_some_iff.2 he
  rw [get?_ofSections] at hget
  rw [Section.blocks_of_ofBlocks? hget] at hblock
  obtain ⟨s, hs, rfl⟩ := List.mem_map.1 hblock
  obtain ⟨hmem, hname⟩ := List.mem_filter.1 hs
  obtain rfl : s.name = header := by simpa using hname
  exact hasShape_blockOf types kind (h s hmem)

/-- **A document that is read has a block in each section, and a text for each key.** -/
theorem isFilled_ofSections (types : KeyTypes) (repeatable : Repeatable) (kind : Kind)
    (sections : List UnitFile.Section) :
    (ofSections types repeatable kind sections).IsFilled := by
  rintro ⟨header, content⟩ he
  have hget := Dict.get?_eq_some_iff.2 he
  rw [get?_ofSections] at hget
  have hblocks := Section.blocks_of_ofBlocks? hget
  refine ⟨fun hnil => ?_, fun block hblock => ?_⟩
  · rw [← hblocks, hnil] at hget
    exact nomatch hget
  · rw [hblocks] at hblock
    obtain ⟨s, -, rfl⟩ := List.mem_map.1 hblock
    exact isFilled_blockOf types kind s

end Document

end NetUnits
