import NetUnits.Document.Json
import NetUnits.Proofs.Dict
import NetUnits.Proofs.Json.RoundTrip
import NetUnits.Proofs.Lists
import NetUnits.Proofs.Text.Numeral

/-! # Documents read back from JSON

The JSON of a document does not say which form a value or a section has: the form is found again in
the shape of the JSON alone.

* **`Value.ofJson?_eq_some_iff`** — a value is read from its own JSON and from nothing else.
* **`Block.ofJson?_toJson`**, **`Document.Section.ofJson?_toJson`**, **`Document.ofJson?_toJson`** —
  blocks, sections and documents are read back from their JSON.
* **`Document.depth_toJson_le`** — the JSON of a document that is read is nested no deeper than what
  it is read from.
* **`Json.Foreign`**, **`Document.HoldsValue`** — what is no value, and where values stand.
* **`Document.jsonTexts`** — what follows for the texts of documents. -/

namespace NetUnits

open NetUnits.Text

/-! ## Values -/

namespace Value

mutual

/-- A value is read back from its JSON. -/
theorem ofJson?_toJson : ∀ v : Value, ofJson? v.toJson = some v
  | bool _ | text _ => rfl
  | int i => by simp [toJson, ofJson?, fitsInt64_toInt]
  | list items => by rw [toJson, ofJson?, ofJsonItems?_toJsonItems items, Option.map_some]

theorem ofJsonItems?_toJsonItems : ∀ items : List Value,
    ofJsonItems? (toJsonItems items) = some items
  | [] => rfl
  | v :: items => by
    rw [toJsonItems, ofJsonItems?, ofJson?_toJson v, ofJsonItems?_toJsonItems items]
    rfl

end

mutual

/-- What is read as a value is its JSON. -/
theorem toJson_of_ofJson? : ∀ {j : Json} {v : Value}, ofJson? j = some v → v.toJson = j
  | .bool _, _, h | .string _, _, h => by
    obtain rfl := Option.some.inj h
    rfl
  | .int i, _, h => by
    obtain ⟨hfits, hv⟩ := Option.ite_none_right_eq_some.1 h
    obtain rfl := Option.some.inj hv
    rw [toJson, toInt_ofInt_of_fitsInt64 hfits]
  | .array items, _, h => by
    obtain ⟨vs, hvs, rfl⟩ := Option.map_eq_some_iff.1 h
    rw [toJson, toJsonItems_of_ofJsonItems? hvs]

theorem toJsonItems_of_ofJsonItems? : ∀ {items : List Json} {vs : List Value},
    ofJsonItems? items = some vs → toJsonItems vs = items
  | [], _, h => by
    obtain rfl := Option.some.inj h
    rfl
  | j :: items, _, h => by
    simp only [ofJsonItems?, Option.bind_eq_bind, Option.bind_eq_some_iff, Option.pure_def,
      Option.some.injEq] at h
    obtain ⟨v, hv, vs, hvs, rfl⟩ := h
    rw [toJsonItems, toJson_of_ofJson? hv, toJsonItems_of_ofJsonItems? hvs]

end

/-- **A value is read from its own JSON**, and from nothing else. -/
theorem ofJson?_eq_some_iff {j : Json} {v : Value} : ofJson? j = some v ↔ v.toJson = j :=
  ⟨toJson_of_ofJson?, fun h => h ▸ ofJson?_toJson v⟩

mutual

/-- The JSON of a value is exact. -/
theorem isExact_toJson : ∀ v : Value, v.toJson.IsExact
  | bool _ | text _ => trivial
  | int i => by
    have hle := i.le_toInt
    have hlt := i.toInt_lt
    exact ⟨by omega, by unfold maxNat64; omega⟩
  | list items => areExact_toJsonItems items

theorem areExact_toJsonItems : ∀ items : List Value, Json.AreExact (toJsonItems items)
  | [] => trivial
  | v :: items => ⟨isExact_toJson v, areExact_toJsonItems items⟩

end

end Value

namespace Json

/-! ## Nesting -/

theorem depthItems_le_iff {items : List Json} {n : Nat} :
    depthItems items ≤ n ↔ ∀ j ∈ items, j.depth ≤ n := by
  induction items with
  | nil => simp [depthItems]
  | cons j items ih => rw [depthItems, Nat.max_le, ih, List.forall_mem_cons]

theorem depthMembers_le_iff {members : List (String × Json)} {n : Nat} :
    depthMembers members ≤ n ↔ ∀ m ∈ members, m.2.depth ≤ n := by
  induction members with
  | nil => simp [depthMembers]
  | cons m members ih => rw [depthMembers, Nat.max_le, ih, List.forall_mem_cons]

end Json

/-! ## Members -/

namespace Dict

variable {β : Type} {read : Json → Option β} {write : β → Json}

/-- **The dictionary of an object** whose members are read one by one. -/
theorem ofMembers?_toMembers (hread : ∀ v, read (write v) = some v) (d : Dict β) :
    ((d.entries.map fun e => (e.1, write e.2)).mapM
      fun (m : String × Json) => (read m.2).map (m.1, ·)).map ofList = some d := by
  have hall : (d.entries.map fun e => (e.1, write e.2)).mapM
      (fun (m : String × Json) => (read m.2).map (m.1, ·)) = some d.entries :=
    mapM_map_eq_some fun e _ => by simp [hread]
  rw [hall, Option.map_some, ofList_entries]

/-- An entry of a dictionary that is read comes from a member. -/
theorem exists_member {members : List (String × Json)} {d : Dict β}
    (h : (members.mapM fun (m : String × Json) => (read m.2).map (m.1, ·)).map ofList = some d)
    {e : String × β} (he : e ∈ d.entries) : ∃ j, (e.1, j) ∈ members ∧ read j = some e.2 := by
  obtain ⟨es, hes, rfl⟩ := Option.map_eq_some_iff.1 h
  obtain ⟨⟨key, j⟩, hm, hj⟩ :=
    exists_of_mem_mapM hes (mem_of_get?_ofList (get?_eq_some_iff.2 he))
  obtain ⟨v, hv, heq⟩ := Option.map_eq_some_iff.1 hj
  obtain ⟨rfl, rfl⟩ := Prod.mk.inj heq
  exact ⟨j, hm, hv⟩

/-- In an object that is read, each member is. -/
theorem isSome_of_mem {members : List (String × Json)}
    (h : ((members.mapM fun (m : String × Json) =>
      (read m.2).map (m.1, ·)).map (ofList (β := β))).isSome = true)
    {m : String × Json} (hm : m ∈ members) : (read m.2).isSome = true := by
  have hmember := isSome_of_mem_mapM (by simpa using h) hm
  simpa using hmember

/-- What is written of an object that is read is nested no deeper than the object, if it is so with
each member. -/
theorem depth_toMembers_le (hdepth : ∀ {j v}, read j = some v → (write v).depth ≤ j.depth)
    {members : List (String × Json)} {d : Dict β}
    (h : (members.mapM fun (m : String × Json) => (read m.2).map (m.1, ·)).map ofList = some d) :
    (Json.object (d.entries.map fun e => (e.1, write e.2))).depth ≤
      (Json.object members).depth := by
  refine Nat.add_le_add_left (Json.depthMembers_le_iff.2 (List.forall_mem_map.2 fun e he => ?_)) 1
  obtain ⟨j, hm, hj⟩ := exists_member h he
  exact (hdepth hj).trans (Json.depthMembers_le_iff.1 le_rfl _ hm)

end Dict

/-! ## Blocks, sections and documents -/

namespace Block

/-- **A block is read back from its JSON.** -/
theorem ofJson?_toJson (b : Block) : ofJson? b.toJson = some b :=
  Dict.ofMembers?_toMembers Value.ofJson?_toJson b

/-- The JSON of a block is exact. -/
theorem isExact_toJson (b : Block) : b.toJson.IsExact :=
  Json.holdExact_iff.2 (List.forall_mem_map.2 fun e _ => Value.isExact_toJson e.2)

/-- A block that is read is nested no deeper than what it is read from. -/
theorem depth_toJson_le {j : Json} {b : Block} (h : ofJson? j = some b) :
    b.toJson.depth ≤ j.depth := by
  cases j with
  | object members =>
    exact Dict.depth_toMembers_le (fun hv => by rw [Value.toJson_of_ofJson? hv]) h
  | _ => exact nomatch h

end Block

namespace Document

namespace Section

/-- **A section is read back from its JSON**, in its own form. -/
theorem ofJson?_toJson : ∀ s : Document.Section, ofJson? s.toJson = some s
  | single b => congrArg (Option.map single) (Block.ofJson?_toJson b)
  | repeated _ =>
    congrArg (Option.map repeated) (mapM_map_eq_some fun b _ => Block.ofJson?_toJson b)

/-- The JSON of a section is exact. -/
theorem isExact_toJson : ∀ s : Document.Section, s.toJson.IsExact
  | single b => b.isExact_toJson
  | repeated _ => Json.areExact_iff.2 (List.forall_mem_map.2 fun b _ => b.isExact_toJson)

/-- A section that is read is nested no deeper than what it is read from. -/
theorem depth_toJson_le {j : Json} {s : Document.Section} (h : ofJson? j = some s) :
    s.toJson.depth ≤ j.depth := by
  cases j with
  | object members =>
    obtain ⟨b, hb, rfl⟩ := Option.map_eq_some_iff.1 h
    exact Block.depth_toJson_le hb
  | array items =>
    obtain ⟨bs, hbs, rfl⟩ := Option.map_eq_some_iff.1 h
    refine Nat.add_le_add_left (Json.depthItems_le_iff.2 (List.forall_mem_map.2 fun b hb => ?_)) 1
    obtain ⟨item, hitem, hread⟩ := exists_of_mem_mapM hbs hb
    exact (Block.depth_toJson_le hread).trans (Json.depthItems_le_iff.1 le_rfl _ hitem)
  | _ => exact nomatch h

end Section

/-- **A document is read back from its JSON.** -/
theorem ofJson?_toJson (d : Document) : ofJson? d.toJson = some d :=
  Dict.ofMembers?_toMembers Section.ofJson?_toJson d

/-- The JSON of a document is exact. -/
theorem isExact_toJson (d : Document) : d.toJson.IsExact :=
  Json.holdExact_iff.2 (List.forall_mem_map.2 fun e _ => Section.isExact_toJson e.2)

/-- **A document that is read is nested no deeper than what it is read from.** -/
theorem depth_toJson_le {j : Json} {d : Document} (h : ofJson? j = some d) :
    d.toJson.depth ≤ j.depth := by
  cases j with
  | object members => exact Dict.depth_toMembers_le Section.depth_toJson_le h
  | _ => exact nomatch h

end Document

/-! ## What is no document -/

namespace Json

/-- **What is no value of a document**: `null`, an object, a number other than an integer, an
integer beyond 64 bits with a sign, and what can only be skipped. -/
def Foreign : Json → Prop
  | .null | .object _ | .float _ _ | .unreadable => True
  | .int i => fitsInt64 i = false
  | .bool _ | .string _ | .array _ => False

/-- **Where something stands in a value**: it is the value, or stands in an item of an array. -/
inductive Within (v : Json) : Json → Prop
  /-- The value itself. -/
  | self : Within v v
  /-- In an item of an array. -/
  | item {items : List Json} {j : Json} : j ∈ items → Within v j → Within v (.array items)

theorem ofJson?_of_foreign {j : Json} (h : j.Foreign) : Value.ofJson? j = none := by
  cases j with
  | int i => exact if_neg (by simpa [Foreign] using h)
  | null | object | float | unreadable => rfl
  | bool | string | array => exact h.elim

/-- In a value that is read, everything is. -/
theorem Within.isSome {v j : Json} (h : Within v j) (hj : (Value.ofJson? j).isSome = true) :
    (Value.ofJson? v).isSome = true := by
  induction h with
  | self => exact hj
  | @item items j hmem _ ih =>
    refine ih ?_
    have hitems : (Value.ofJsonItems? items).isSome = true := by simpa [Value.ofJson?] using hj
    clear hj ih
    induction items with
    | nil => exact nomatch hmem
    | cons j' items ih =>
      obtain ⟨vs, hvs⟩ := Option.isSome_iff_exists.1 hitems
      simp only [Value.ofJsonItems?, Option.bind_eq_bind, Option.bind_eq_some_iff] at hvs
      obtain ⟨w, hw, ws, hws, -⟩ := hvs
      obtain rfl | hmem := List.mem_cons.1 hmem
      · rw [hw]
        rfl
      · exact ih hmem (by rw [hws]; rfl)

end Json

namespace Document

/-- **Where values stand in a document**: under the keys of its sections, whether a section is one
block or several, and in the lists there. -/
inductive HoldsValue (v : Json) : Json → Prop
  /-- Under a key of a section that is one block. -/
  | single {sections members : List (String × Json)} {name key : String} {j : Json} :
    (name, .object members) ∈ sections → (key, j) ∈ members → Json.Within v j →
      HoldsValue v (.object sections)
  /-- Under a key of one of the blocks of a section. -/
  | repeated {sections members : List (String × Json)} {name key : String} {items : List Json}
    {j : Json} : (name, .array items) ∈ sections → .object members ∈ items →
      (key, j) ∈ members → Json.Within v j → HoldsValue v (.object sections)

/-- In a document that is read, every value is. -/
theorem HoldsValue.isSome {v j : Json} (h : HoldsValue v j) (hj : (ofJson? j).isSome = true) :
    (Value.ofJson? v).isSome = true := by
  -- a block that is read has only values that are
  have hblock : ∀ {members : List (String × Json)} {key : String} {j : Json},
      (Block.ofJson? (.object members)).isSome = true → (key, j) ∈ members → Json.Within v j →
        (Value.ofJson? v).isSome = true := fun hb hkey hv => hv.isSome (Dict.isSome_of_mem hb hkey)
  cases h with
  | single hname hkey hv =>
    have hsection := Dict.isSome_of_mem hj hname
    exact hblock (by simpa [Section.ofJson?] using hsection) hkey hv
  | repeated hname hitem hkey hv =>
    have hsection := Dict.isSome_of_mem hj hname
    exact hblock (isSome_of_mem_mapM (by simpa [Section.ofJson?] using hsection) hitem) hkey hv

/-- The document of a text is that of its JSON. -/
theorem read?_eq_some_iff {text : String} {d : Document} :
    read? text = some d ↔
      ∃ j, Json.parse? text = some j ∧ j.depth ≤ Json.maxDepth ∧ j.isReadable = true ∧
        ofJson? j = some d := by
  simp [read?, Json.read?, Json.isRead, Option.bind_eq_some_iff, Option.filter_eq_some_iff,
    and_assoc]

/-- A document is read from every text that is read as its JSON. -/
theorem read?_of_parse? {text : String} {d : Document} (hdepth : d.toJson.depth ≤ Json.maxDepth)
    (h : Json.parse? text = some d.toJson) : read? text = some d :=
  read?_eq_some_iff.2
    ⟨d.toJson, h, hdepth, Json.isReadable_of_isExact d.isExact_toJson, d.ofJson?_toJson⟩

/-- **Documents and their texts.** -/
structure JsonTexts : Prop where
  /-- Every document that is not nested too deep is read back from its text, over several lines or
  on one: each value and each section in its own form. -/
  back : ∀ (d : Document) {blanks : String}, d.toJson.depth ≤ Json.maxDepth →
    (∀ c ∈ blanks.toList, Json.Parser.isGap c = true) →
      read? (d.toJson.pretty ++ blanks) = some d ∧ read? (d.toJson.compact ++ blanks) = some d
  /-- A document that is read from any text at all is read again from its own. -/
  again : ∀ {text blanks : String} {d : Document}, read? text = some d →
    (∀ c ∈ blanks.toList, Json.Parser.isGap c = true) →
      read? (d.toJson.pretty ++ blanks) = some d ∧ read? (d.toJson.compact ++ blanks) = some d
  /-- A text is no document if anything that is no value stands where values stand. -/
  refused : ∀ {text : String} {j v : Json}, Json.parse? text = some j → HoldsValue v j →
    v.Foreign → read? text = none
  /-- A number is read as an integer only where a minus sign or none and its digits stand, and
  neither a fraction nor an exponent behind them. -/
  integer : ∀ {fuel : Nat} {cs rest : List Char} {i : Int},
    Json.Parser.value? (fuel + 1) cs = some (.int i, rest) →
      Json.Parser.skipGaps cs = (toString i).toList ++ rest ∧ Json.Parser.EndsNumber rest

/-- **Documents pass through JSON unchanged**, and nothing but a document is read as one. -/
theorem jsonTexts : JsonTexts where
  back d _ hdepth hblanks :=
    ⟨read?_of_parse? hdepth (Json.parse?_pretty d.isExact_toJson hblanks),
      read?_of_parse? hdepth (Json.parse?_compact d.isExact_toJson hblanks)⟩
  again {_ _ d} h hblanks := by
    obtain ⟨j, -, hdepth, -, hj⟩ := read?_eq_some_iff.1 h
    have hdepth' : d.toJson.depth ≤ Json.maxDepth := (depth_toJson_le hj).trans hdepth
    exact ⟨read?_of_parse? hdepth' (Json.parse?_pretty d.isExact_toJson hblanks),
      read?_of_parse? hdepth' (Json.parse?_compact d.isExact_toJson hblanks)⟩
  refused {text j v} hparse hholds hforeign := by
    refine Option.eq_none_iff_forall_ne_some.2 fun d h => ?_
    obtain ⟨j', hparse', -, -, hj⟩ := read?_eq_some_iff.1 h
    obtain rfl : j = j' := Option.some.inj (hparse.symm.trans hparse')
    have hread := hholds.isSome (by rw [hj]; rfl)
    rw [Json.ofJson?_of_foreign hforeign] at hread
    exact nomatch hread
  integer h := (Json.Parser.value?_eq_int_iff.1 h).2

/-- One item of one list is enough for a text to be refused. -/
example : read? "\x7b\"Match\": \x7b\"Name\": [\"eth0\", null]\x7d\x7d" = none := by decide +kernel

end Document

end NetUnits
