import NetUnits.Proofs.Document.Shape
import NetUnits.Proofs.UnitFile.RoundTrip

/-! # Reading back a written document

A document that can be written reads back in its normal form, in which every value is what its key's
type prescribes for the texts of the value. What has been read is in normal form already, so after
one reading and one writing nothing changes any more:

* **`Document.normal`** — the normal form of a document.
* **`Document.Alike`** — documents that differ at most in which single blocks are listed.
* **`Document.ofText_toText`** — a written document reads back in normal form, and alike exactly if
  no section is empty and no value, as long as its values have the shape of their types;
  **`Document.not_alike_of_empty`** — so what is empty is lost.
* **`Document.normal_eq_self`** — the documents that are their own normal form.
* **`Document.ofText_toText_ofText`** — what is read from text and written reads back unchanged. -/

namespace NetUnits

open NetUnits.Text

/-! ## Lines and texts -/

namespace KeyType

mutual

/-- **The lines of a value stand for the scalars of its texts.** They differ from the texts only
under a truth value, where they are the truth values that the texts stand for. -/
theorem map_scalar_linesOf (t : KeyType) : ∀ v : Value,
    (t.linesOf v).map t.scalar = v.texts.map t.scalar
  | .bool b => by rw [linesOf, Value.texts]
  | .int i => by rw [linesOf, Value.texts]
  | .text s => by
    rw [linesOf, Value.texts, List.map_singleton, List.map_singleton]
    by_cases hb : t.isBool
    -- the word for a truth value stands for the truth value of the text
    · rw [if_pos hb, scalar, scalar, if_pos hb, if_pos hb, parseBool_boolText]
    · rw [if_neg hb]
  | .list items => by
    rw [linesOf, Value.texts]
    exact map_scalar_linesOfAll t items

/-- The same for the values of a list. -/
theorem map_scalar_linesOfAll (t : KeyType) : ∀ vs : List Value,
    (t.linesOfAll vs).map t.scalar = (Value.textsOfAll vs).map t.scalar
  | [] => rfl
  | v :: rest => by
    rw [linesOfAll, Value.textsOfAll, List.map_append, List.map_append, map_scalar_linesOf t v,
      map_scalar_linesOfAll t rest]

end

/-- A value without texts is one without lines. -/
theorem linesOf_eq_nil_iff {t : KeyType} {v : Value} : t.linesOf v = [] ↔ v.texts = [] := by
  have hlength := congrArg List.length (t.map_scalar_linesOf v)
  rw [List.length_map, List.length_map] at hlength
  rw [← List.length_eq_zero_iff, hlength, List.length_eq_zero_iff]

/-- **The trimmed lines of a value are read as what is prescribed for its texts.** -/
theorem valueOf?_linesOf {t : KeyType} {v : Value} (h : t.linesOf v ≠ []) :
    t.valueOf? ((t.linesOf v).map trim) = t.prescribed? v.texts := by
  have htexts : ¬ v.texts.isEmpty := by
    rw [List.isEmpty_iff]
    exact mt linesOf_eq_nil_iff.2 h
  have hcoerce : ((t.linesOf v).map trim).map t.coerce = v.texts.map t.scalar := by
    rw [List.map_map, ← map_scalar_linesOf]
    exact List.map_congr_left fun line _ => t.coerce_trim line
  rw [valueOf?, prescribed?, if_neg htexts]
  by_cases harray : t.isArray
  · rw [if_pos harray, if_pos harray, hcoerce]
  · rw [if_neg harray, if_neg harray, ← List.getLast?_map, ← List.getLast?_map, hcoerce]

end KeyType

/-! ## Normal forms -/

/-- **The normal form of a block**: each key with a scalar has the value that its type prescribes
for the texts of its scalars; other keys are left out. -/
def Block.normal (types : KeyTypes) (kind : Kind) (header : String) (block : Block) : Block :=
  block.filterMap fun key v => (types.lookup kind header key).prescribed? v.texts

/-- **The normal form of a document**: each section with a block has the normal forms of its blocks,
in order. It is a list exactly if it may be written several times or has at least two blocks. -/
def Document.normal (types : KeyTypes) (repeatable : Repeatable) (kind : Kind) (d : Document) :
    Document :=
  d.filterMap fun header content =>
    Document.Section.ofBlocks? (repeatable.allows kind header)
      (content.blocks.map (Block.normal types kind header))

/-- **A block whose values have the shape of their types is in normal form** exactly if every value
has a text. -/
theorem Block.normal_eq_self_iff {types : KeyTypes} {kind : Kind} {header : String} {block : Block}
    (h : Block.HasShape types kind header block) :
    block.normal types kind header = block ↔ block.IsFilled := by
  constructor
  · rintro heq ⟨key, v⟩ he
    have hget := Dict.get?_eq_some_iff.2 he
    have hnormal : (block.normal types kind header).get? key = some v := by rw [heq, hget]
    rw [normal, Dict.get?_filterMap, hget, Option.bind_some] at hnormal
    exact KeyType.ne_nil_of_prescribed? hnormal
  · intro hfilled
    refine Dict.ext_get? fun key => ?_
    rw [normal, Dict.get?_filterMap]
    cases hget : block.get? key with
    | none => rfl
    | some v =>
      have he := Dict.get?_eq_some_iff.1 hget
      exact KeyType.prescribed?_texts (h (key, v) he) (hfilled (key, v) he)

namespace Document

/-! ## Documents that are alike -/

/-- **Contents of a section name that are alike**: they are the same, or one is a single block and
the other the list of this block. -/
inductive Section.Alike : Document.Section → Document.Section → Prop
  | same (content : Document.Section) : Section.Alike content content
  | listed (block : Block) : Section.Alike (.single block) (.repeated [block])
  | alone (block : Block) : Section.Alike (.repeated [block]) (.single block)

/-- **Documents that are alike**: the same section names, with contents that are alike. -/
def Alike (d d' : Document) : Prop :=
  ∀ header, Option.Rel Section.Alike (d.get? header) (d'.get? header)

/-- Contents are alike exactly if they have the same blocks. -/
theorem Section.alike_iff {a b : Document.Section} : Section.Alike a b ↔ a.blocks = b.blocks := by
  constructor
  · rintro (_ | _ | _) <;> rfl
  · intro h
    cases a with
    | single block =>
      cases b with
      | single block' =>
        obtain rfl : block = block' := by simpa using h
        exact .same _
      | repeated blocks =>
        obtain rfl : [block] = blocks := h
        exact .listed block
    | repeated blocks =>
      cases b with
      | single block =>
        obtain rfl : blocks = [block] := h
        exact .alone block
      | repeated blocks' =>
        obtain rfl : blocks = blocks' := h
        exact .same _

/-- Blocks make a content that is like another one exactly if they are its blocks, and there are
some. -/
theorem Section.alike_ofBlocks?_iff {listed : Bool} {blocks : List Block}
    {content : Document.Section} :
    Option.Rel Section.Alike (Section.ofBlocks? listed blocks) (some content) ↔
      blocks ≠ [] ∧ blocks = content.blocks := by
  constructor
  · intro h
    generalize hmade : Section.ofBlocks? listed blocks = made at h
    cases h with
    | some halike =>
      have hblocks := Section.blocks_of_ofBlocks? hmade
      refine ⟨fun hnil => ?_, hblocks.symm.trans (Section.alike_iff.1 halike)⟩
      rw [hnil] at hmade
      exact nomatch hmade
  · rintro ⟨hne, hblocks⟩
    obtain ⟨made, hmade⟩ := Option.ne_none_iff_exists'.1 (mt Section.ofBlocks?_eq_none_iff.1 hne)
    rw [hmade]
    exact .some (Section.alike_iff.2 ((Section.blocks_of_ofBlocks? hmade).trans hblocks))

/-- **The normal form of a document is like the document** exactly if the document is filled, as
long as its values have the shape of their types. -/
theorem alike_normal_iff {types : KeyTypes} {kind : Kind} {d : Document}
    (h : d.HasShape types kind) (repeatable : Repeatable) :
    (d.normal types repeatable kind).Alike d ↔ d.IsFilled := by
  have hsection : ∀ header content, d.get? header = some content →
      (Option.Rel Section.Alike ((d.normal types repeatable kind).get? header) (d.get? header) ↔
        content.blocks ≠ [] ∧ ∀ block ∈ content.blocks, block.IsFilled) := by
    intro header content hget
    have hblocks := h (header, content) (Dict.get?_eq_some_iff.1 hget)
    rw [normal, Dict.get?_filterMap, hget, Option.bind_some, Section.alike_ofBlocks?_iff, Ne,
      List.map_eq_nil_iff, map_eq_self_iff]
    exact and_congr_right fun _ => forall₂_congr fun block hblock =>
      Block.normal_eq_self_iff (hblocks block hblock)
  constructor
  · rintro halike ⟨header, content⟩ he
    exact (hsection header content (Dict.get?_eq_some_iff.2 he)).1 (halike header)
  · intro hfilled header
    cases hget : d.get? header with
    | none =>
      rw [normal, Dict.get?_filterMap, hget]
      exact .none
    | some content =>
      rw [← hget]
      exact (hsection header content hget).2
        (hfilled (header, content) (Dict.get?_eq_some_iff.1 hget))

/-- **A document is in normal form** if it is filled, its values have the shape of their types, and
each section is the content of its blocks. -/
theorem normal_eq_self {types : KeyTypes} {repeatable : Repeatable} {kind : Kind} {d : Document}
    (hshape : d.HasShape types kind) (hfilled : d.IsFilled)
    (hsections : ∀ header, d.get? header =
      Section.ofBlocks? (repeatable.allows kind header) (d.blocksAt header)) :
    d.normal types repeatable kind = d := by
  refine Dict.ext_get? fun header => ?_
  rw [normal, Dict.get?_filterMap]
  cases hget : d.get? header with
  | none => rfl
  | some content =>
    have he := Dict.get?_eq_some_iff.1 hget
    have hblocks : content.blocks.map (Block.normal types kind header) = content.blocks :=
      map_eq_self_iff.2 fun block hblock =>
        (Block.normal_eq_self_iff (hshape _ he block hblock)).2 ((hfilled _ he).2 block hblock)
    -- the content of a name is fixed by its blocks
    have hcontent : d.blocksAt header = content.blocks := by simp [blocksAt, hget]
    rw [Option.bind_some, hblocks, ← hcontent, ← hsections header, hget]

/-! ## Writing and reading -/

/-- The lines written for a key of a block. -/
theorem values_sectionOf (types : KeyTypes) (kind : Kind) (header : String) (block : Block)
    (key : String) :
    (sectionOf types kind header block).values key =
      ((block.get? key).map (types.lookup kind header key).linesOf).getD [] := by
  have hpart := Dict.filter_flatMap
    (fun k v => ((types.lookup kind header k).linesOf v).map (k, ·)) Prod.fst (fun k v e he => by
      obtain ⟨line, -, rfl⟩ := List.mem_map.1 he
      rfl) block key
  rw [UnitFile.Section.values, sectionOf, hpart]
  cases block.get? key <;> simp [Function.comp_def]

/-- Trimming a section trims the values of each key. -/
theorem values_trimmed (s : UnitFile.Section) (key : String) :
    s.trimmed.values key = (s.values key).map trim := by
  simp [UnitFile.Section.values, UnitFile.Section.trimmed, List.filter_map, Function.comp_def]

/-- **A written block is read back in normal form.** -/
theorem blockOf_sectionOf (types : KeyTypes) (kind : Kind) (header : String) (block : Block) :
    blockOf types kind (sectionOf types kind header block).trimmed =
      block.normal types kind header := by
  refine Dict.ext_get? fun key => ?_
  rw [get?_blockOf, values_trimmed, values_sectionOf, Block.normal, Dict.get?_filterMap]
  have hname : (sectionOf types kind header block).trimmed.name = header := rfl
  cases block.get? key with
  | none => rfl
  | some v =>
    rw [hname, Option.map_some, Option.getD_some, Option.bind_some]
    by_cases h : (types.lookup kind header key).linesOf v = []
    -- a value without scalars leaves no line, and its key is not read
    · rw [KeyType.linesOf_eq_nil_iff.1 h, h]
      rfl
    · rw [if_neg (mt List.map_eq_nil_iff.1 h), KeyType.valueOf?_linesOf h]

/-- **The sections of a document, trimmed, are read back as its normal form.** -/
theorem ofSections_toSections (types : KeyTypes) (repeatable : Repeatable) (kind : Kind)
    (d : Document) :
    ofSections types repeatable kind ((d.toSections types kind).map UnitFile.Section.trimmed) =
      d.normal types repeatable kind := by
  refine Dict.ext_get? fun header => ?_
  have hpart := Dict.filter_flatMap
    (fun k (content : Document.Section) => content.blocks.map (sectionOf types kind k))
    UnitFile.Section.name (fun k content s hs => by
      obtain ⟨block, -, rfl⟩ := List.mem_map.1 hs
      rfl) d header
  -- trimming changes no name, so the sections of a name can be taken before it
  have hnamed : ((d.toSections types kind).map UnitFile.Section.trimmed).filter (·.name = header) =
      ((d.toSections types kind).filter (·.name = header)).map UnitFile.Section.trimmed := by
    rw [List.filter_map]
    rfl
  rw [get?_ofSections, hnamed, toSections, hpart, normal, Dict.get?_filterMap]
  cases d.get? header with
  | none => rfl
  | some content =>
    simp only [Option.map_some, Option.getD_some, Option.bind_some, List.map_map, Function.comp_def,
      blockOf_sectionOf]

/-- **A written document is read back in normal form.** -/
theorem ofText_of_toText {types : KeyTypes} {repeatable : Repeatable} {kind : Kind} {d : Document}
    {text : String} (h : d.toText types kind = .ok text) :
    ofText text types repeatable kind = .ok (d.normal types repeatable kind) := by
  rw [ofText, UnitFile.parse_of_render h, Except.map, ofSections_toSections]

/-- **What has been read is in normal form.** -/
theorem normal_of_ofText {types : KeyTypes} {repeatable : Repeatable} {kind : Kind} {text : String}
    {d : Document} (h : ofText text types repeatable kind = .ok d) :
    d.normal types repeatable kind = d := by
  obtain ⟨sections, hparse, rfl⟩ := map_eq_ok_iff.1 h
  refine normal_eq_self (hasShape_ofSections types repeatable kind
    (UnitFile.unpadded_of_parse hparse)) (isFilled_ofSections types repeatable kind sections)
    fun header => ?_
  rw [blocksAt, get?_ofSections, Section.getD_blocks_ofBlocks?]

/-! ## Main results -/

/-- **A document that can be written is read back in its normal form**, for any sections that may be
written several times. If its values have the shape of their types, the document comes back as it
was, up to whether a single block is listed, exactly if each of its sections has a block and each of
its values a text. -/
theorem ofText_toText {types : KeyTypes} {kind : Kind} {d : Document} {text : String}
    (h : d.toText types kind = .ok text) (repeatable : Repeatable) :
    ofText text types repeatable kind = .ok (d.normal types repeatable kind) ∧
      (d.HasShape types kind → ((d.normal types repeatable kind).Alike d ↔ d.IsFilled)) :=
  ⟨ofText_of_toText h, fun hshape => alike_normal_iff hshape repeatable⟩

/-- A section that is a list of one block, with a list, a truth value and an integer in it. -/
theorem ofText_toText_network :
    let keys : Dict KeyType := Dict.ofList
      [("DNS", ⟨true, false, false⟩), ("IPForward", ⟨false, true, false⟩),
        ("MTU", ⟨false, false, true⟩)]
    let types : KeyTypes := ⟨Dict.ofList [("Network", keys)], ∅, ∅, ∅⟩
    let block : Block := Dict.ofList
      [("DNS", .list [.text "1.1.1.1", .text "::1"]), ("IPForward", .bool true), ("MTU", .int (-9))]
    let d : Document := Dict.ofList [("Network", .repeated [block])]
    let text := "[Network]\nDNS = 1.1.1.1\nDNS = ::1\nIPForward = true\nMTU = -9\n"
    d.toText types .network = .ok text ∧ d.HasShape types .network ∧
      ofText text types .none .network = .ok (d.normal types .none .network) ∧
      (d.normal types .none .network).get? "Network" = some (.single block) ∧
      (d.normal types .none .network).Alike d := by
  intro keys types block d text
  have hwrite : d.toText types .network = .ok text := by decide +kernel
  have hshape : d.HasShape types .network := by decide +kernel
  have hfilled : d.IsFilled := by decide +kernel
  obtain ⟨hread, halike⟩ := ofText_toText hwrite .none
  exact ⟨hwrite, hshape, hread, by decide +kernel, (halike hshape).2 hfilled⟩

/-- **What is empty is lost**: a section without blocks, and a list without items under a key for
lists. Both documents have the shape of their types and can be written. -/
theorem not_alike_of_empty :
    let keys : Dict KeyType := Dict.ofList [("DNS", ⟨true, false, false⟩)]
    let types : KeyTypes := ⟨Dict.ofList [("Network", keys)], ∅, ∅, ∅⟩
    let match' : Document.Section := .single (Dict.ofList [("Name", .text "eth0")])
    let d₁ : Document := Dict.ofList [("Match", match'), ("Route", .repeated [])]
    let d₂ : Document := Dict.ofList [("Network", .single (Dict.ofList [("DNS", .list [])]))]
    let back₁ : Document := Dict.ofList [("Match", match')]
    let back₂ : Document := Dict.ofList [("Network", .single ∅)]
    (d₁.HasShape types .network ∧ d₁.toText types .network = .ok "[Match]\nName = eth0\n" ∧
        ofText "[Match]\nName = eth0\n" types .none .network = .ok back₁ ∧ ¬ back₁.Alike d₁) ∧
      d₂.HasShape types .network ∧ d₂.toText types .network = .ok "[Network]\n" ∧
        ofText "[Network]\n" types .none .network = .ok back₂ ∧ ¬ back₂.Alike d₂ := by
  intro keys types match' d₁ d₂ back₁ back₂
  have hwrite₁ : d₁.toText types .network = .ok "[Match]\nName = eth0\n" := by decide +kernel
  have hwrite₂ : d₂.toText types .network = .ok "[Network]\n" := by decide +kernel
  have hread₁ : ofText "[Match]\nName = eth0\n" types .none .network = .ok back₁ := by
    rw [ofText_of_toText hwrite₁]
    exact congrArg Except.ok (by decide +kernel)
  have hread₂ : ofText "[Network]\n" types .none .network = .ok back₂ := by
    rw [ofText_of_toText hwrite₂]
    exact congrArg Except.ok (by decide +kernel)
  have hlost₁ : ¬ back₁.Alike d₁ := fun halike => by
    have hroute := halike "Route"
    rw [show back₁.get? "Route" = none by decide +kernel,
      show d₁.get? "Route" = some (.repeated []) by decide +kernel] at hroute
    exact nomatch hroute
  have hlost₂ : ¬ back₂.Alike d₂ := fun halike => by
    have hnetwork := halike "Network"
    rw [show back₂.get? "Network" = some (.single ∅) by decide +kernel,
      show d₂.get? "Network" = some (.single (Dict.ofList [("DNS", .list [])])) by decide +kernel]
      at hnetwork
    obtain @⟨_, _, hcontents⟩ := hnetwork
    exact absurd (Section.alike_iff.1 hcontents) (by decide +kernel)
  exact ⟨⟨by decide +kernel, hwrite₁, hread₁, hlost₁⟩, by decide +kernel, hwrite₂, hread₂, hlost₂⟩

/-- **What is read from a text and written again is a fixed point**: it reads back as exactly the
same document, which is written as exactly the same text. -/
theorem ofText_toText_ofText {types : KeyTypes} {repeatable : Repeatable} {kind : Kind}
    {text written : String} {d : Document} (hread : ofText text types repeatable kind = .ok d)
    (hwrite : d.toText types kind = .ok written) :
    ofText written types repeatable kind = .ok d ∧
      (ofText written types repeatable kind).bind (toText · types kind) = .ok written := by
  have hagain : ofText written types repeatable kind = .ok d := by
    rw [ofText_of_toText hwrite, normal_of_ofText hread]
  refine ⟨hagain, ?_⟩
  rw [hagain]
  exact hwrite

/-- A text with a continued line, a padded number, a section in two parts and an empty section. -/
theorem ofText_toText_ofText_link :
    let keys : Dict KeyType := Dict.ofList
      [("Alias", ⟨true, false, false⟩), ("Bits", ⟨false, false, true⟩)]
    let types : KeyTypes := ⟨∅, ∅, Dict.ofList [("Link", keys)], ∅⟩
    let text := "[Link]\nAlias=a\\\n b\n[Match]\n[Link]\nBits =  +007\n"
    let written := "[Link]\nAlias = a b\n\n[Link]\nBits = 7\n\n[Match]\n"
    let blocks : List Block :=
      [Dict.ofList [("Alias", .list [.text "a b"])], Dict.ofList [("Bits", .int 7)]]
    let d : Document := Dict.ofList [("Link", .repeated blocks), ("Match", .single ∅)]
    ofText text types .none .link = .ok d ∧ d.toText types .link = .ok written ∧
      ofText written types .none .link = .ok d := by
  intro keys types text written blocks d
  have hparse : UnitFile.parse text =
      .ok [⟨"Link", [("Alias", "a b")]⟩, ⟨"Match", []⟩, ⟨"Link", [("Bits", "+007")]⟩] := by
    decide +kernel
  have hread : ofText text types .none .link = .ok d := by
    rw [ofText, hparse]
    exact congrArg Except.ok (by decide +kernel)
  have hwrite : d.toText types .link = .ok written := by decide +kernel
  exact ⟨hread, hwrite, (ofText_toText_ofText hread hwrite).1⟩

end Document

end NetUnits
