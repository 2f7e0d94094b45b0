import NetUnits.Link.Listing
import NetUnits.Proofs.Json.Record
import NetUnits.Proofs.Json.RoundTrip
import NetUnits.Proofs.Lists
import NetUnits.Proofs.Text.Numeral
import NetUnits.Proofs.Text.Words

/-! # Two listings of the same links

The table of the links is asked for when their JSON cannot be read, so the two should say the same:

* **`Link.Row`** — a link as it is listed, and **`Link.facts`** what both listings say of it.
* **`Link.IsTable`** — a table of rows, with other lines between them.
  **`Link.IsTable.ofTextListing_facts`** reads it.
* **`Link.IsListing`** — a JSON value for rows, with other fields in it.
  **`Link.IsListing.exists_links`** reads it.
* **`Link.Agree`** — the two listings agree on the JSON values that fit; **`Link.agree`** — so they
  do where the reader of JSON can read all of the value. -/

namespace NetUnits.Link

open NetUnits.Text

/-- **A link as it is listed**: a positive number of 32 bits, and words. -/
structure Row where
  /-- The number of the interface. -/
  index : Nat
  /-- The name of the interface. -/
  name : String
  /-- The type of the interface. -/
  type : String
  /-- The operational state. -/
  state : String
  /-- The state of the setup. -/
  setup : String
  /-- The number is positive. -/
  index_pos : 0 < index
  /-- The number fits into 32 bits. -/
  index_le : index ≤ maxNat32
  /-- The name is a word. -/
  isWord_name : IsWord name.toList
  /-- The type is a word. -/
  isWord_type : IsWord type.toList
  /-- The operational state is a word. -/
  isWord_state : IsWord state.toList
  /-- The state of the setup is a word. -/
  isWord_setup : IsWord setup.toList

/-- **What both listings say of a link**: its number, its name and its operational state. -/
def facts (link : Link) : Nat × String × String :=
  (link.index, link.name, link.state)

/-- What should be said of a row. -/
def Row.facts (row : Row) : Nat × String × String :=
  (row.index, row.name, row.state)

/-! ## Tables -/

/-- The words of a row. -/
def Row.words (row : Row) : List (List Char) :=
  [Nat.toDigits 10 row.index, row.name.toList, row.type.toList, row.state.toList,
    row.setup.toList]

theorem Row.isWord_of_mem_words {row : Row} {word : List Char} (h : word ∈ row.words) :
    IsWord word := by
  simp only [words, List.mem_cons, List.not_mem_nil, or_false] at h
  rcases h with rfl | rfl | rfl | rfl | rfl
  · exact ⟨Nat.toDigits_ne_nil, fun c hc => isBlank_of_isDigit (isDigit_of_mem_toDigits hc)⟩
  · exact row.isWord_name
  · exact row.isWord_type
  · exact row.isWord_state
  · exact row.isWord_setup

/-- **The lines of a table**: the words of each row, with any blanks and maybe with more words, and
lines of fewer than five words between them. -/
inductive Lines : List Row → List (List Char) → Prop
  /-- No lines. -/
  | nil : Lines [] []
  /-- The line of a row. -/
  | row {row : Row} {rows : List Row} {line : List Char} {lines more : List (List Char)}
      (hline : '\n' ∉ line) (hwords : Spaced (row.words ++ more) line) (hrest : Lines rows lines) :
      Lines (row :: rows) (line :: lines)
  /-- A line that is too short for a row. -/
  | other {rows : List Row} {line : List Char} {lines words : List (List Char)}
      (hline : '\n' ∉ line) (hwords : Spaced words line) (hshort : words.length < 5)
      (hrest : Lines rows lines) : Lines rows (line :: lines)

/-- **A table**: lines, each closed by a line feed; the last may do without it. -/
def IsTable (rows : List Row) (text : String) : Prop :=
  ∃ lines, Lines rows lines ∧
    (text.toList = joinLines lines ∨ text.toList ++ ['\n'] = joinLines lines)

/-- Any rows have a table: the words of each, with a space after every word. -/
theorem exists_isTable (rows : List Row) : ∃ text, IsTable rows text := by
  let line (row : Row) : List Char := row.words.flatMap (· ++ [' '])
  have hline (row : Row) : '\n' ∉ line row := by
    intro h
    obtain ⟨word, hword, hmem⟩ := List.mem_flatMap.1 h
    rcases List.mem_append.1 hmem with hmem | hmem
    · have hblank := (Row.isWord_of_mem_words hword).2 '\n' hmem
      exact absurd hblank (by decide)
    · exact absurd (List.mem_singleton.1 hmem) (by decide)
  have hlines : Lines rows (rows.map line) := by
    induction rows with
    | nil => exact .nil
    | cons row rows ih =>
      have hwords : Spaced (row.words ++ []) (line row) := by
        rw [List.append_nil]
        exact spaced_flatMap fun _ => Row.isWord_of_mem_words
      exact .row (hline row) hwords ih
  exact ⟨String.ofList (joinLines (rows.map line)), _, hlines, .inl String.toList_ofList⟩

/-- A line is read by its words. -/
theorem ofRow?_congr {a b : List Char} (h : wordsOf a = wordsOf b) : ofRow? a = ofRow? b := by
  unfold ofRow?
  rw [h]

/-- **The line of a row** is read as the row. -/
theorem ofRow?_of_spaced {row : Row} {line : List Char} {more : List (List Char)}
    (h : Spaced (row.words ++ more) line) :
    ofRow? line = some { index := row.index, name := row.name, state := row.state } := by
  have hindex : natUpTo? maxNat32 (Nat.toDigits 10 row.index) = some row.index :=
    natUpTo?_eq_some_iff.2 ⟨row.index_le, [], 0, .inl rfl, rfl⟩
  have hwords : wordsOf line = Nat.toDigits 10 row.index :: row.name.toList :: row.type.toList ::
      row.state.toList :: row.setup.toList :: more := wordsOf_eq_iff.2 h
  simp [ofRow?, hwords, hindex, Option.filter, row.index_pos]

/-- A line of fewer than five words is no row. -/
theorem ofRow?_eq_none {line : List Char} {words : List (List Char)} (h : Spaced words line)
    (hshort : words.length < 5) : ofRow? line = none := by
  rw [ofRow?, wordsOf_eq_iff.2 h]
  split
  · simp only [List.length_cons] at hshort
    omega
  · rfl

/-- The first line of a text, and the lines after it. -/
theorem filterMap_ofRow?_append {line : List Char} (hline : '\n' ∉ line) (rest : List Char) :
    (linesOf (line ++ '\n' :: rest)).filterMap ofRow? =
      (ofRow? line).toList ++ (linesOf rest).filterMap ofRow? := by
  have hclose : ofRow? (closeLine line.reverse) = ofRow? line := ofRow?_congr (by
    rw [wordsOf_closeLine, List.reverse_reverse])
  rw [linesOf_append_lineFeed hline, List.filterMap_cons, hclose]
  cases ofRow? line <;> rfl

/-- A line feed at the end of a text does not matter. -/
theorem filterMap_ofRow?_lineFeed (cs : List Char) :
    (linesOf (cs ++ ['\n'])).filterMap ofRow? = (linesOf cs).filterMap ofRow? := by
  have hcollected : ∀ acc, (linesFrom acc (cs ++ ['\n'])).filterMap ofRow? =
      (linesFrom acc cs).filterMap ofRow? := by
    induction cs with
    | nil =>
      intro acc
      have hclose : ofRow? (closeLine acc) = ofRow? acc.reverse :=
        ofRow?_congr (wordsOf_closeLine acc)
      rw [List.nil_append, linesFrom_lineFeed, List.filterMap_cons, hclose]
      cases acc with
      -- here the line feed closes an empty line more, which has no words
      | nil => rfl
      | cons c acc =>
        have hrest : linesFrom (c :: acc) [] = [(c :: acc).reverse] := rfl
        rw [hrest, List.filterMap_cons]
        rfl
    | cons c cs ih =>
      intro acc
      rw [List.cons_append]
      by_cases hc : c = '\n'
      · rw [hc, linesFrom_lineFeed, linesFrom_lineFeed, List.filterMap_cons, List.filterMap_cons,
          ih []]
      · rw [linesFrom_cons hc, linesFrom_cons hc, ih]
  exact hcollected []

/-- The rows are read from their lines. -/
theorem Lines.filterMap_facts {rows : List Row} {lines : List (List Char)} (h : Lines rows lines) :
    ((linesOf (joinLines lines)).filterMap ofRow?).map facts = rows.map Row.facts := by
  induction h with
  | nil => rfl
  | row hline hwords _ ih =>
    rw [joinLines_cons, filterMap_ofRow?_append hline, ofRow?_of_spaced hwords, List.map_append, ih]
    rfl
  | other hline hwords hshort _ ih =>
    rw [joinLines_cons, filterMap_ofRow?_append hline, ofRow?_eq_none hwords hshort]
    exact ih

/-- **A table is read as its rows**, in order. -/
theorem IsTable.ofTextListing_facts {rows : List Row} {text : String} (h : IsTable rows text) :
    (ofTextListing text).map facts = rows.map Row.facts := by
  obtain ⟨lines, hlines, htext⟩ := h
  rw [ofTextListing, ← hlines.filterMap_facts]
  rcases htext with htext | htext
  · rw [htext]
  · rw [← filterMap_ofRow?_lineFeed, htext]

/-! ## JSON values -/

/-- The fields of a row. -/
def Row.members (row : Row) : List (String × Json) :=
  [("Index", .int row.index), ("Name", .string row.name), ("OperationalState", .string row.state)]

/-- **The file of a link** may be left out, and it may be `null`. -/
inductive IsFile : List (String × Json) → Prop
  /-- No file is given. -/
  | absent : IsFile []
  /-- It is said that there is no file. -/
  | null : IsFile [("NetworkFile", .null)]
  /-- A file is given. -/
  | named (file : String) : IsFile [("NetworkFile", .string file)]

/-- **A value describes a row**: it is an object that holds the fields of the row, each once and in
any order, and maybe a file. Fields with other names may be there as well. -/
def Row.IsDescribed (row : Row) (j : Json) : Prop :=
  ∃ members file, j = .object members ∧ IsFile file ∧
    (members.filter fun m => fieldNames.contains m.1).Perm (row.members ++ file)

/-- **A JSON listing**: the values of the rows in an array, which stands alone or is the one member
of that name of an object. The object may have other members. -/
inductive IsListing (rows : List Row) : Json → Prop
  /-- The array alone. -/
  | bare {items : List Json} (hitems : List.Forall₂ Row.IsDescribed rows items) :
      IsListing rows (.array items)
  /-- The array in an object. -/
  | wrapped {members : List (String × Json)} {items : List Json}
      (honly : members.filter (fun m => ["Interfaces"].contains m.1) =
        [("Interfaces", .array items)])
      (hitems : List.Forall₂ Row.IsDescribed rows items) : IsListing rows (.object members)

/-- The value of a row with other fields. -/
def Row.toJson (row : Row) (extra : List (String × Json)) : Json :=
  .object (row.members ++ extra)

theorem Row.isDescribed_toJson {row : Row} {extra : List (String × Json)}
    (h : ∀ m ∈ extra, fieldNames.contains m.1 = false) : row.IsDescribed (row.toJson extra) := by
  refine ⟨_, [], rfl, .absent, .of_eq ?_⟩
  have hextra : extra.filter (fun m => fieldNames.contains m.1) = [] :=
    List.filter_eq_nil_iff.2 fun m hm => by simp only [h m hm, Bool.false_eq_true, not_false_iff]
  rw [List.filter_append, hextra]
  rfl

/-- Any rows have a JSON value that is written exactly and is not nested deep. -/
theorem exists_isListing (rows : List Row) :
    ∃ j, IsListing rows j ∧ j.IsExact ∧ j.depth ≤ Json.maxDepth := by
  refine ⟨.array (rows.map (·.toJson [])), .bare ?_, ?_, ?_⟩
  · refine List.forall₂_map_right_iff.2 (List.forall₂_same.2 fun row _ => ?_)
    exact Row.isDescribed_toJson (List.forall_mem_nil _)
  · refine Json.areExact_iff.2 fun j hj => ?_
    obtain ⟨row, -, rfl⟩ := List.mem_map.1 hj
    have hle := row.index_le
    have hindex : Json.Parser.IsInt64 row.index := by
      unfold Json.Parser.IsInt64 maxNat64
      unfold maxNat32 at hle
      omega
    exact ⟨hindex, trivial, trivial, trivial⟩
  · have hitems : Json.depthItems (rows.map (·.toJson [])) ≤ 1 := by
      induction rows with
      | nil => exact Nat.zero_le 1
      | cons row rows ih => exact Nat.max_le.2 ⟨Nat.le_refl 1, ih⟩
    rw [Json.depth, Json.maxDepth]
    omega

/-- **The value of a row** is read as the row. -/
theorem Row.IsDescribed.exists_link {row : Row} {j : Json} (h : row.IsDescribed j) :
    ∃ link, ofJson? j = some link ∧ link.facts = row.facts := by
  obtain ⟨members, file, rfl, hfile, hperm⟩ := h
  have hnodup : ((row.members ++ file).map (·.1)).Nodup := by
    cases hfile <;> simp [Row.members]
  obtain ⟨r, hr, hfields⟩ := Json.exists_record hperm hnodup
  have hle : (row.index : Int) ≤ maxNat32 := by exact_mod_cast row.index_le
  -- the fields are looked up by name, so only the known ones count, in the order of the row
  have hindex : r.field? "Index" (Json.natUpTo? maxNat32) = some row.index := by
    rw [Record.field?, hfields]
    cases hfile <;> simp [Row.members, Json.lastOf?, Json.natUpTo?, hle]
  have hname : r.field? "Name" Json.string? = some row.name := by
    rw [Record.field?, hfields]
    cases hfile <;> simp [Row.members, Json.lastOf?, Json.string?]
  have hstate : r.fieldOr "OperationalState" "" Json.string? = some row.state := by
    rw [Record.fieldOr, hfields]
    cases hfile <;> simp [Row.members, Json.lastOf?, Json.string?]
  obtain ⟨file', hfile'⟩ : ∃ file',
      r.fieldOr "NetworkFile" none (Record.nullable Json.string?) = some file' := by
    rw [Record.fieldOr, hfields]
    cases hfile <;> simp [Row.members, Json.lastOf?, Record.nullable, Json.string?]
  simp [ofJson?, hr, hindex, hname, hstate, hfile', Link.facts, Row.facts]

/-- The values of rows are read as the rows. -/
theorem exists_links_of_forall₂ {rows : List Row} {items : List Json}
    (h : List.Forall₂ Row.IsDescribed rows items) :
    ∃ links, items.mapM ofJson? = some links ∧ links.map facts = rows.map Row.facts := by
  induction h with
  | nil => exact ⟨[], rfl, rfl⟩
  | cons hrow _ ih =>
    obtain ⟨link, hlink, hfacts⟩ := hrow.exists_link
    obtain ⟨links, hlinks, hrest⟩ := ih
    refine ⟨link :: links, by simp [hlink, hlinks], ?_⟩
    rw [List.map_cons, List.map_cons, hfacts, hrest]

/-- **A JSON listing is read as its rows**, in order. -/
theorem IsListing.exists_links {rows : List Row} {j : Json} (h : IsListing rows j) :
    ∃ links, ofListing? j = some links ∧ links.map facts = rows.map Row.facts := by
  cases h with
  | bare hitems => exact exists_links_of_forall₂ hitems
  | @wrapped members items honly hitems =>
    obtain ⟨r, hr, hfields⟩ := Json.exists_record (List.Perm.of_eq honly) (List.nodup_singleton _)
    have hread : ofListing? (.object members) = items.mapM ofJson? :=
      calc ofListing? (.object members)
          = ((Json.object members).record? ["Interfaces"]).bind (·.field? "Interfaces" ofArray?) :=
            rfl
        _ = (Json.lastOf? "Interfaces" r.fields).bind ofArray? := by rw [hr]; rfl
        _ = items.mapM ofJson? := by rw [hfields]; rfl
    rw [hread]
    exact exists_links_of_forall₂ hitems

/-- A text of which all can be read is read as its value is. -/
theorem ofJsonListing?_of_parse? {text : String} {j : Json} (h : Json.parse? text = some j) :
    ofJsonListing? text = if Json.isRead j then ofListing? j else none := by
  rw [ofJsonListing?, Json.read?, h, Option.filter_some]
  split <;> rfl

/-! ## Agreement -/

/-- **The two listings of some links agree**, for the JSON values that fit. -/
structure Agree (fits : Json → Prop) (rows : List Row) : Prop where
  /-- There are a table of the rows, and a text of a JSON value for them. -/
  exists_texts : (∃ text, IsTable rows text) ∧
    ∃ text j, j.Writes text ∧ Json.parse? text = some j ∧ IsListing rows j ∧ fits j
  /-- Every JSON text for the rows is read as the rows. -/
  json : ∀ {text : String} {j : Json}, Json.parse? text = some j → IsListing rows j → fits j →
    ∃ links, ofJsonListing? text = some links ∧ links.map facts = rows.map Row.facts
  /-- Among these are the texts that write an exact value for the rows in some layout. -/
  printed : ∀ {text : String} {j : Json}, j.Writes text → j.IsExact → IsListing rows j → fits j →
    ∃ links, ofJsonListing? text = some links ∧ links.map facts = rows.map Row.facts
  /-- A table of the rows is read as the rows. -/
  table : ∀ {text : String}, IsTable rows text →
    (ofTextListing text).map facts = rows.map Row.facts
  /-- So both give the same. -/
  same : ∀ {text table : String} {j : Json}, Json.parse? text = some j → IsListing rows j →
    fits j → IsTable rows table →
      ∃ links, ofJsonListing? text = some links ∧
        links.map facts = (ofTextListing table).map facts

/-- **The two listings agree** on the number, the name and the operational state of each link, and
on their order, where no value is nested deeper than the reader of JSON goes and nothing in it can
only be skipped. -/
theorem agree (rows : List Row) :
    Agree (fun j => j.depth ≤ Json.maxDepth ∧ j.isReadable = true) rows := by
  have hjson : ∀ {text : String} {j : Json}, Json.parse? text = some j → IsListing rows j →
      j.depth ≤ Json.maxDepth ∧ j.isReadable = true →
        ∃ links, ofJsonListing? text = some links ∧ links.map facts = rows.map Row.facts := by
    intro text j hparse hlisting ⟨hdepth, hreadable⟩
    have hread : Json.isRead j = true := by simp [Json.isRead, hdepth, hreadable]
    rw [ofJsonListing?_of_parse? hparse, if_pos hread]
    exact hlisting.exists_links
  obtain ⟨j, hlisting, hexact, hdepth⟩ := exists_isListing rows
  have hwrites : j.Writes (j.compact ++ "") := j.writes_compact (List.forall_mem_nil _)
  exact {
    exists_texts := ⟨exists_isTable rows, _, j, hwrites, hwrites.parse?_eq hexact, hlisting,
      hdepth, Json.isReadable_of_isExact hexact⟩
    json := hjson
    printed := fun hwrites hexact => hjson (hwrites.parse?_eq hexact)
    table := IsTable.ofTextListing_facts
    same := fun hparse hlisting hfits htable =>
      htable.ofTextListing_facts ▸ hjson hparse hlisting hfits }

/-- The loopback link. -/
def loopback : Row where
  index := 1
  name := "lo"
  type := "loopback"
  state := "carrier"
  setup := "unmanaged"
  index_pos := by decide
  index_le := by decide
  isWord_name := by decide
  isWord_type := by decide
  isWord_state := by decide
  isWord_setup := by decide

/-- A table with a line before its row. -/
example : IsTable [loopback] "IDX LINK\n  1 lo\tloopback carrier unmanaged -\n" :=
  ⟨["IDX LINK".toList, "  1 lo\tloopback carrier unmanaged -".toList],
    .other (by decide) (wordsOf_eq_iff.1 rfl) (by decide)
      (.row (by decide) (wordsOf_eq_iff.1 rfl) .nil),
    .inl rfl⟩

/-! ## Texts that are not read -/

/-- **A text for some rows is not read**, though its value fits. -/
def Missed (fits : Json → Prop) (rows : List Row) (text : String) : Prop :=
  ∃ j, Json.parse? text = some j ∧ IsListing rows j ∧ fits j ∧ ofJsonListing? text = none

theorem Missed.not_agree {fits : Json → Prop} {rows : List Row} {text : String}
    (h : Missed fits rows text) : ¬Agree fits rows := by
  obtain ⟨j, hparse, hlisting, hfits, hnone⟩ := h
  intro hagree
  obtain ⟨links, hlinks, -⟩ := hagree.json hparse hlisting hfits
  rw [hnone] at hlinks
  exact nomatch hlinks

theorem Missed.mono {fits fits' : Json → Prop} {rows : List Row} {text : String}
    (h : Missed fits rows text) (hfits : ∀ j, fits j → fits' j) : Missed fits' rows text := by
  obtain ⟨j, hparse, hlisting, hj, hnone⟩ := h
  exact ⟨j, hparse, hlisting, hfits j hj, hnone⟩

/-- What cannot be read to its end is no listing. -/
theorem ofJsonListing?_eq_none {text : String} {j : Json} (h : Json.parse? text = some j)
    (hread : ¬ Json.isRead j = true) : ofJsonListing? text = none := by
  rw [ofJsonListing?_of_parse? h, if_neg hread]

/-- A listing of the loopback link with one more field. -/
def withExtra (value : Json) : Json :=
  .array [loopback.toJson [("Extra", value)]]

theorem isListing_withExtra (value : Json) : IsListing [loopback] (withExtra value) := by
  have hextra : ∀ m ∈ [("Extra", value)], fieldNames.contains m.1 = false :=
    List.forall_mem_singleton.2 rfl
  exact .bare (.cons (Row.isDescribed_toJson hextra) .nil)

/-- Arrays inside each other, so many of them around an empty one. -/
def nested : Nat → Json
  | 0 => .array []
  | n + 1 => .array [nested n]

theorem depth_nested (n : Nat) : (nested n).depth = n + 1 := by
  induction n with
  | zero => rfl
  | succ n ih => rw [nested, Json.depth, Json.depthItems, Json.depthItems, ih]; omega

theorem isExact_nested (n : Nat) : (nested n).IsExact := by
  induction n with
  | zero => trivial
  | succ n ih => exact ⟨ih, trivial⟩

/-- The field is nested so deep that the array of the listing and the object of the link are too
much. -/
theorem missed_nested :
    Missed (·.isReadable = true) [loopback] (withExtra (nested 125)).compact := by
  have hindex : Json.Parser.IsInt64 loopback.index := ⟨by decide, by decide⟩
  have hexact : (withExtra (nested 125)).IsExact :=
    ⟨⟨hindex, trivial, trivial, isExact_nested 125, trivial⟩, trivial⟩
  have hwrites : (withExtra (nested 125)).Writes ((withExtra (nested 125)).compact ++ "") :=
    Json.writes_compact _ (List.forall_mem_nil _)
  have hdepth : (withExtra (nested 125)).depth = 128 := by
    simp [withExtra, Row.toJson, Row.members, Json.depth, Json.depthItems, Json.depthMembers,
      depth_nested]
  have hparse := hwrites.parse?_eq hexact
  rw [String.append_empty] at hparse
  refine ⟨_, hparse, isListing_withExtra _, Json.isReadable_of_isExact hexact, ?_⟩
  exact ofJsonListing?_eq_none hparse (by simp [Json.isRead, hdepth, Json.maxDepth])

/-- The text of such a listing, around the text of the value. -/
def textWithExtra (value : String) : String :=
  "[\x7b\"Index\":1,\"Name\":\"lo\",\"OperationalState\":\"carrier\",\"Extra\":" ++ value ++ "\x7d]"

/-- A field that can only be skipped is too much. -/
theorem missed_of_parse? {text : String} (h : Json.parse? text = some (withExtra .unreadable)) :
    Missed (·.depth ≤ Json.maxDepth) [loopback] text :=
  ⟨_, h, isListing_withExtra _, by decide, ofJsonListing?_eq_none h (by decide)⟩

/-- **Extra fields keep a listing from being read**: if they are nested too deep, if they hold a
number beyond double precision, and if they hold half a surrogate pair. -/
theorem not_agree_unread : ¬Agree (fun _ => True) [loopback] ∧
    Missed (·.isReadable = true) [loopback] (withExtra (nested 125)).compact ∧
    Missed (·.depth ≤ Json.maxDepth) [loopback] (textWithExtra "1e999") ∧
    Missed (·.depth ≤ Json.maxDepth) [loopback] (textWithExtra "\"\\ud800\"") :=
  ⟨(missed_nested.mono fun _ _ => trivial).not_agree, missed_nested,
    missed_of_parse? (by decide +kernel), missed_of_parse? (by decide +kernel)⟩

end NetUnits.Link
