import NetUnits.Link.Listing
import NetUnits.Proofs.Json.Record
import NetUnits.Proofs.Text.Numeral
import NetUnits.Proofs.Text.Words

/-! # What is printed about links

The three outputs that are read when links are gathered, by what they say: the fields of JSON
records, and the words of rows.

* **`Link.IsLinkListing`** — the links of a JSON listing; **`Link.ofJsonListing?_eq_some_iff`**
  reads them.
* **`Link.IsLinkTable`** — the links of a table; **`Link.ofTextListing_eq_iff`** reads them.
* **`Link.IsAddressListing`** — the addresses by link number; **`Link.addressesOf?_eq_some_iff`**
  reads them. -/

namespace NetUnits.Link

open NetUnits.Text

/-! ## The JSON listing -/

/-- **A value describes a link**, by the fields of a record. -/
structure IsLink (j : Json) (link : Link) : Prop where
  /-- The value is a record. -/
  record : j.IsRecord fieldNames
  /-- The number of the interface is given. -/
  index : j.HasField fieldNames "Index" (.int link.index)
  /-- It is a number of 32 bits. -/
  index_le : link.index ≤ maxNat32
  /-- The name is given. -/
  name : j.HasField fieldNames "Name" (.string link.name)
  /-- The operational state is given; if it is left out, it is empty. -/
  state : j.HasField fieldNames "OperationalState" (.string link.state) ∨
    (∀ value, ¬j.HasField fieldNames "OperationalState" value) ∧ link.state = ""
  /-- The file is the one that is named, unless its name is empty. -/
  networkFile : ∃ file, Json.Holds fieldNames "NetworkFile" (· = .string ·) j file ∧
    link.networkFile = file.filter (· ≠ "")
  /-- Nothing is said about addresses. -/
  addresses : link.addresses = []

/-- **The links of a JSON value**: an array of links, or an object in which the one member
`Interfaces` is such an array. -/
inductive IsLinks (links : List Link) : Json → Prop
  /-- An array. -/
  | bare {items : List Json} (hitems : List.Forall₂ IsLink items links) :
      IsLinks links (.array items)
  /-- An array in an object. -/
  | wrapped {members : List (String × Json)} {items : List Json}
      (record : (Json.object members).IsRecord ["Interfaces"])
      (hmember : ("Interfaces", .array items) ∈ members)
      (hitems : List.Forall₂ IsLink items links) : IsLinks links (.object members)

/-- **A JSON listing of links**: a text of which all can be read, extra fields included. -/
def IsLinkListing (text : String) (links : List Link) : Prop :=
  ∃ j, Json.parse? text = some j ∧ j.depth ≤ Json.maxDepth ∧ j.isReadable = true ∧ IsLinks links j

/-- An empty file name is none. -/
theorem filter_isEmpty (file : Option String) :
    file.filter (!·.isEmpty) = file.filter (· ≠ "") := by
  cases file with
  | none => rfl
  | some file => by_cases hfile : file = "" <;> simp [Option.filter, hfile]

/-- **A link is read exactly if a value describes it.** -/
theorem ofJson?_eq_some_iff {j : Json} {link : Link} : ofJson? j = some link ↔ IsLink j link := by
  have hnames : fieldNames.Nodup := by decide
  have hindex : "Index" ∈ fieldNames := by decide
  have hname : "Name" ∈ fieldNames := by decide
  have hstate : "OperationalState" ∈ fieldNames := by decide
  have hfile : "NetworkFile" ∈ fieldNames := by decide
  constructor
  · intro h
    simp only [ofJson?, bind, Option.bind_eq_some_iff, pure, Option.some.injEq] at h
    obtain ⟨r, hr, file, hr_file, index, hr_index, name, hr_name, state, hr_state, rfl⟩ := h
    obtain ⟨hgiven, hle⟩ := (Record.field?_natUpTo?_eq_some_iff hnames hindex hr).1 hr_index
    have hholds :=
      (Record.fieldOr_nullable_eq_some_iff hnames hfile hr rfl Json.string?_eq_some_iff).1 hr_file
    exact {
      record := Json.isRecord_iff.2 ⟨r, hr⟩
      index := hgiven
      index_le := hle
      name := (Record.field?_string?_eq_some_iff hnames hname hr).1 hr_name
      state := (Record.fieldOr_string?_eq_some_iff hnames hstate hr).1 hr_state
      networkFile := ⟨file, hholds, filter_isEmpty file⟩
      addresses := rfl }
  · intro h
    obtain ⟨r, hr⟩ := Json.isRecord_iff.1 h.record
    obtain ⟨file, hholds, hnetworkFile⟩ := h.networkFile
    have hr_file :=
      (Record.fieldOr_nullable_eq_some_iff hnames hfile hr rfl Json.string?_eq_some_iff).2 hholds
    have hr_index :=
      (Record.field?_natUpTo?_eq_some_iff hnames hindex hr).2 ⟨h.index, h.index_le⟩
    have hr_name := (Record.field?_string?_eq_some_iff hnames hname hr).2 h.name
    have hr_state := (Record.fieldOr_string?_eq_some_iff hnames hstate hr).2 h.state
    simp only [ofJson?, bind, Option.bind_eq_some_iff, pure, Option.some.injEq]
    refine ⟨r, hr, file, hr_file, _, hr_index, _, hr_name, _, hr_state, ?_⟩
    obtain ⟨index, name, state, networkFile, addresses⟩ := link
    obtain rfl : addresses = [] := h.addresses
    obtain rfl : networkFile = file.filter (· ≠ "") := hnetworkFile
    rw [filter_isEmpty]

/-- The links of a value are read item by item. -/
theorem ofListing?_eq_some_iff {j : Json} {links : List Link} :
    ofListing? j = some links ↔ IsLinks links j := by
  have hone : ["Interfaces"].Nodup := List.nodup_singleton _
  have hmem : "Interfaces" ∈ ["Interfaces"] := List.mem_singleton_self _
  constructor
  · intro h
    unfold ofListing? at h
    split at h
    · exact .bare ((mapM_eq_some_iff.1 h).imp fun _ _ => ofJson?_eq_some_iff.1)
    · rename_i hother
      obtain ⟨r, hr, hfield⟩ := Option.bind_eq_some_iff.1 h
      obtain ⟨value, hvalue, harray⟩ := (Record.field?_eq_some_iff hone hmem hr).1 hfield
      obtain ⟨items, hitems, hlinks⟩ := Option.bind_eq_some_iff.1 harray
      obtain rfl := Json.items?_eq_some_iff.1 hitems
      cases hvalue with
      | member hvalue =>
        exact .wrapped (Json.isRecord_iff.2 ⟨r, hr⟩) hvalue
          ((mapM_eq_some_iff.1 hlinks).imp fun _ _ => ofJson?_eq_some_iff.1)
      | place => exact absurd rfl (hother _)
  · rintro (hitems | ⟨record, hmember, hitems⟩)
    · exact mapM_eq_some_iff.2 (hitems.imp fun _ _ => ofJson?_eq_some_iff.2)
    · obtain ⟨r, hr⟩ := Json.isRecord_iff.1 record
      have hlinks := mapM_eq_some_iff.2 (hitems.imp fun _ _ => ofJson?_eq_some_iff.2)
      exact Option.bind_eq_some_iff.2 ⟨r, hr,
        (Record.field?_eq_some_iff hone hmem hr).2 ⟨_, .member hmember, hlinks⟩⟩

/-- **The links of a JSON listing are read**, and those of no other text. -/
theorem ofJsonListing?_eq_some_iff {text : String} {links : List Link} :
    ofJsonListing? text = some links ↔ IsLinkListing text links := by
  simp only [ofJsonListing?, Json.read?, Option.bind_eq_some_iff, Option.filter_eq_some_iff,
    Json.isRead, Bool.and_eq_true, decide_eq_true_eq, ofListing?_eq_some_iff, IsLinkListing,
    and_assoc]

/-! ## The table -/

/-- **A line tells of a link**: its words are a positive number of 32 bits, the name, the type, the
operational state and the state of the setup, and maybe more. -/
def IsRow (line : List Char) (link : Link) : Prop :=
  ∃ index name type state setup more,
    Spaced (index :: name :: type :: state :: setup :: more) line ∧
    (∃ sign zeros, (sign = [] ∨ sign = ['+']) ∧
      index = sign ++ (List.replicate zeros '0' ++ Nat.toDigits 10 link.index)) ∧
    0 < link.index ∧ link.index ≤ maxNat32 ∧
    link = { index := link.index, name := String.ofList name, state := String.ofList state }

/-- **The links of lines**; lines that tell of none do not count. -/
inductive IsRows : List (List Char) → List Link → Prop
  /-- No lines. -/
  | nil : IsRows [] []
  /-- A line that tells of a link. -/
  | row {line : List Char} {link : Link} {lines : List (List Char)} {links : List Link}
      (hline : IsRow line link) (hrest : IsRows lines links) :
      IsRows (line :: lines) (link :: links)
  /-- Another line. -/
  | other {line : List Char} {lines : List (List Char)} {links : List Link}
      (hline : ∀ link, ¬IsRow line link) (hrest : IsRows lines links) :
      IsRows (line :: lines) links

/-- **A table of links**: its lines tell of them. -/
def IsLinkTable (text : String) (links : List Link) : Prop :=
  IsRows (linesOf text.toList) links

/-- **A line is read as a link exactly if it tells of it.** -/
theorem ofRow?_eq_some_iff {line : List Char} {link : Link} :
    ofRow? line = some link ↔ IsRow line link := by
  constructor
  · intro h
    unfold ofRow? at h
    split at h
    · rename_i index name type state setup more hwords
      obtain ⟨n, hn, rfl⟩ := Option.map_eq_some_iff.1 h
      obtain ⟨hread, hpos⟩ := Option.filter_eq_some_iff.1 hn
      obtain ⟨hle, hindex⟩ := natUpTo?_eq_some_iff.1 hread
      exact ⟨index, name, type, state, setup, more, wordsOf_eq_iff.1 hwords, hindex,
        of_decide_eq_true hpos, hle, rfl⟩
    · cases h
  · rintro ⟨index, name, type, state, setup, more, hwords, hindex, hpos, hle, hlink⟩
    have hread : natUpTo? maxNat32 index = some link.index :=
      natUpTo?_eq_some_iff.2 ⟨hle, hindex⟩
    rw [ofRow?, wordsOf_eq_iff.2 hwords, hlink]
    simp [hread, Option.filter, hpos]

/-- The links of lines are read line by line. -/
theorem filterMap_ofRow?_eq_iff {lines : List (List Char)} {links : List Link} :
    lines.filterMap ofRow? = links ↔ IsRows lines links := by
  constructor
  · rintro rfl
    induction lines with
    | nil => exact .nil
    | cons line lines ih =>
      rw [List.filterMap_cons]
      cases hline : ofRow? line with
      | none =>
        refine .other (fun link hlink => ?_) ih
        rw [ofRow?_eq_some_iff.2 hlink] at hline
        cases hline
      | some link => exact .row (ofRow?_eq_some_iff.1 hline) ih
  · intro h
    induction h with
    | nil => rfl
    | row hline _ ih => rw [List.filterMap_cons, ofRow?_eq_some_iff.2 hline, ih]
    | @other line _ _ hline _ ih =>
      have hnone : ofRow? line = none := Option.eq_none_iff_forall_ne_some.2 fun link hlink =>
        hline link (ofRow?_eq_some_iff.1 hlink)
      rw [List.filterMap_cons, hnone, ih]

/-- **The links of a table are read**, and every text is one. -/
theorem ofTextListing_eq_iff {text : String} {links : List Link} :
    ofTextListing text = links ↔ IsLinkTable text links :=
  filterMap_ofRow?_eq_iff

/-! ## Addresses -/

/-- The fields of an address. -/
def addressFields : List String := ["local", "prefixlen"]

/-- The fields of an interface. -/
def interfaceFields : List String := ["ifindex", "addr_info"]

/-- The text of an address with its length, if that is known. -/
def withLength : Option Nat → String → String
  | some length, address => address ++ "/" ++ toString length
  | none, address => address

/-- **A value tells an address**, by the fields of a record; without a local address it tells
none. -/
structure IsAddress (j : Json) (told : Option String) : Prop where
  /-- The value is a record. -/
  record : j.IsRecord addressFields
  /-- An array has all fields. -/
  whole : (∃ items, j = .array items) → ∀ name ∈ addressFields, ∃ value,
    j.HasField addressFields name value
  /-- The address is the local one, with a length of 8 bits if one is given. -/
  told : ∃ address length, Json.Holds addressFields "local" (· = .string ·) j address ∧
    Json.Holds addressFields "prefixlen" (fun value (n : Nat) => value = .int n ∧ n ≤ maxNat8) j
      length ∧ told = address.map (withLength length)

/-- **A value tells the addresses of an interface**, by the fields of a record. -/
structure IsInterface (j : Json) (entry : Nat × List String) : Prop where
  /-- The value is a record. -/
  record : j.IsRecord interfaceFields
  /-- The number of the interface is given. -/
  index : j.HasField interfaceFields "ifindex" (.int entry.1)
  /-- It is a number of 32 bits. -/
  index_le : entry.1 ≤ maxNat32
  /-- The addresses are those that are told, in their order; if the field is left out, there are
  none. -/
  addresses : (∃ items told, j.HasField interfaceFields "addr_info" (.array items) ∧
      List.Forall₂ IsAddress items told ∧ entry.2 = told.filterMap id) ∨
    (∀ value, ¬j.HasField interfaceFields "addr_info" value) ∧ entry.2 = []

/-- **A listing of addresses**: a JSON array, with the addresses of an interface in each item. -/
def IsAddressListing (text : String) (table : List (Nat × List String)) : Prop :=
  ∃ items, Json.parse? text = some (.array items) ∧ List.Forall₂ IsInterface items table

/-- **An address is read exactly if a value tells it.** -/
theorem addressOf?_eq_some_iff {j : Json} {told : Option String} :
    addressOf? j = some told ↔ IsAddress j told := by
  have hnames : addressFields.Nodup := by decide
  have hlocal : "local" ∈ addressFields := by decide
  have hlength : "prefixlen" ∈ addressFields := by decide
  constructor
  · intro h
    simp only [addressOf?, bind, Option.bind_eq_some_iff, pure, Option.some.injEq] at h
    obtain ⟨r, hr, address, hr_local, length, hr_length, rfl⟩ := h
    obtain ⟨haddress, hgiven⟩ :=
      (Record.nullableField?_eq_some_iff hnames hlocal hr rfl Json.string?_eq_some_iff).1 hr_local
    obtain ⟨hholds, hgiven'⟩ := (Record.nullableField?_eq_some_iff hnames hlength hr rfl
      Json.natUpTo?_eq_some_iff).1 hr_length
    refine ⟨Json.isRecord_iff.2 ⟨r, hr⟩, fun harray => ?_, address, length, haddress, hholds, ?_⟩
    · simpa [addressFields] using ⟨hgiven harray, hgiven' harray⟩
    · cases length <;> rfl
  · rintro ⟨record, whole, address, length, haddress, hholds, rfl⟩
    obtain ⟨r, hr⟩ := Json.isRecord_iff.1 record
    have hr_local := (Record.nullableField?_eq_some_iff hnames hlocal hr rfl
      Json.string?_eq_some_iff).2 ⟨haddress, fun harray => whole harray _ hlocal⟩
    have hr_length := (Record.nullableField?_eq_some_iff hnames hlength hr rfl
      Json.natUpTo?_eq_some_iff).2 ⟨hholds, fun harray => whole harray _ hlength⟩
    simp only [addressOf?, bind, Option.bind_eq_some_iff, pure, Option.some.injEq]
    refine ⟨r, hr, address, hr_local, length, hr_length, ?_⟩
    cases length <;> rfl

/-- The addresses of an interface are read item by item. -/
theorem addressList?_eq_some_iff {j : Json} {addresses : List String} :
    addressList? j = some addresses ↔ ∃ items told, j = .array items ∧
      List.Forall₂ IsAddress items told ∧ addresses = told.filterMap id := by
  simp only [addressList?, Option.bind_eq_some_iff, Json.items?_eq_some_iff, Option.map_eq_some_iff,
    mapM_eq_some_iff, addressOf?_eq_some_iff]
  constructor
  · rintro ⟨items, rfl, told, htold, rfl⟩
    exact ⟨items, told, rfl, htold, rfl⟩
  · rintro ⟨items, told, rfl, htold, rfl⟩
    exact ⟨items, rfl, told, htold, rfl⟩

/-- **An interface is read exactly if a value tells its addresses.** -/
theorem interfaceOf?_eq_some_iff {j : Json} {entry : Nat × List String} :
    interfaceOf? j = some entry ↔ IsInterface j entry := by
  have hnames : interfaceFields.Nodup := by decide
  have hindex : "ifindex" ∈ interfaceFields := by decide
  have haddresses : "addr_info" ∈ interfaceFields := by decide
  constructor
  · intro h
    simp only [interfaceOf?, bind, Option.bind_eq_some_iff, pure, Option.some.injEq] at h
    obtain ⟨r, hr, index, hr_index, addresses, hr_addresses, rfl⟩ := h
    obtain ⟨hgiven, hle⟩ := (Record.field?_natUpTo?_eq_some_iff hnames hindex hr).1 hr_index
    refine ⟨Json.isRecord_iff.2 ⟨r, hr⟩, hgiven, hle, ?_⟩
    refine ((Record.fieldOr_eq_some_iff hnames haddresses hr).1 hr_addresses).imp_left ?_
    rintro ⟨value, hvalue, hlist⟩
    obtain ⟨items, told, rfl, htold, htable⟩ := addressList?_eq_some_iff.1 hlist
    exact ⟨items, told, hvalue, htold, htable⟩
  · intro h
    obtain ⟨r, hr⟩ := Json.isRecord_iff.1 h.record
    have hr_index :=
      (Record.field?_natUpTo?_eq_some_iff hnames hindex hr).2 ⟨h.index, h.index_le⟩
    have hr_addresses : r.fieldOr "addr_info" [] addressList? = some entry.2 := by
      refine (Record.fieldOr_eq_some_iff hnames haddresses hr).2 (h.addresses.imp_left ?_)
      rintro ⟨items, told, hvalue, htold, htable⟩
      exact ⟨_, hvalue, addressList?_eq_some_iff.2 ⟨items, told, rfl, htold, htable⟩⟩
    simp only [interfaceOf?, bind, Option.bind_eq_some_iff, pure, Option.some.injEq]
    exact ⟨r, hr, _, hr_index, _, hr_addresses, rfl⟩

/-- **The addresses of a listing are read**, and those of no other text. -/
theorem addressesOf?_eq_some_iff {text : String} {table : List (Nat × List String)} :
    addressesOf? text = some table ↔ IsAddressListing text table := by
  simp only [addressesOf?, Option.bind_eq_some_iff, Json.items?_eq_some_iff, mapM_eq_some_iff,
    interfaceOf?_eq_some_iff, IsAddressListing]
  constructor
  · rintro ⟨items, ⟨j, hj, rfl⟩, hitems⟩
    exact ⟨items, hj, hitems⟩
  · rintro ⟨items, hj, hitems⟩
    exact ⟨items, ⟨_, hj, rfl⟩, hitems⟩

end NetUnits.Link
