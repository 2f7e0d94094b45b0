import NetUnits.Json.Record
import NetUnits.Proofs.Lists
import Mathlib.Data.List.Nodup

/-! # The fields of records

Where no name is repeated, the order of the members of an object does not matter, and members with
other names do not count:

* **`Json.distinctNames_iff`** — no name is repeated.
* **`Json.lastOf?_eq_some_iff`** — without repetitions, the value of a name is any with the name.
* **`Json.exists_record`** — the record of an object whose known members are some others in another
  order has the same fields.

What a record says is told without the record that is read, by the value that writes it:

* **`Json.IsRecord`**, **`Json.HasField`** — values that write a record, and the fields they give.
* **`Json.isRecord_iff`**, **`Json.lastOf?_fields_iff`** — so they are read.
* **`Json.Holds`** — a field that may be `null` or left out; **`Record.field?_eq_some_iff`**,
  **`Record.fieldOr_eq_some_iff`**, **`Record.nullableField?_eq_some_iff`** read a field. -/

namespace NetUnits.Json

theorem distinctNames_iff {names : List String} : distinctNames names = true ↔ names.Nodup := by
  induction names with
  | nil => simp [distinctNames]
  | cons name names ih => simp [distinctNames, ih]

/-- A value that is found stands among the members. -/
theorem mem_of_lastOf? {key : String} {value : Json} {members : List (String × Json)}
    (h : lastOf? key members = some value) : (key, value) ∈ members := by
  induction members with
  | nil => exact nomatch h
  | cons member members ih =>
    rw [lastOf?, Option.or_eq_some_iff] at h
    obtain h | ⟨-, h⟩ := h
    · exact List.mem_cons_of_mem _ (ih h)
    · obtain ⟨rfl, rfl⟩ := (Option.ite_none_right_eq_some.1 h).imp_right Option.some.inj
      exact List.mem_cons_self

/-- A name that stands among the members is found. -/
theorem lastOf?_isSome {key : String} {members : List (String × Json)}
    (h : key ∈ members.map (·.1)) : (lastOf? key members).isSome = true := by
  induction members with
  | nil => exact nomatch h
  | cons member members ih =>
    rw [lastOf?, Option.isSome_or, Bool.or_eq_true]
    rcases List.mem_cons.1 h with rfl | h
    · exact .inr (by simp)
    · exact .inl (ih h)

/-- **Without repetitions, the value of a name** is the one of any member with the name. -/
theorem lastOf?_eq_some_iff {key : String} {value : Json} {members : List (String × Json)}
    (h : (members.map (·.1)).Nodup) :
    lastOf? key members = some value ↔ (key, value) ∈ members := by
  refine ⟨mem_of_lastOf?, fun hmem => ?_⟩
  obtain ⟨found, hfound⟩ := Option.isSome_iff_exists.1
    (lastOf?_isSome (List.mem_map_of_mem (f := (·.1)) hmem))
  have hsame := List.inj_on_of_nodup_map h (mem_of_lastOf? hfound) hmem rfl
  rw [hfound, (Prod.mk.inj hsame).2]

/-- Without repetitions, the order of the members does not matter. -/
theorem lastOf?_perm {members others : List (String × Json)} (h : members.Perm others)
    (hnodup : (others.map (·.1)).Nodup) (key : String) :
    lastOf? key members = lastOf? key others := by
  have hnodup' : (members.map (·.1)).Nodup := (h.map (·.1)).nodup_iff.2 hnodup
  refine Option.ext fun value => ?_
  rw [lastOf?_eq_some_iff hnodup, lastOf?_eq_some_iff hnodup', h.mem_iff]

/-- **The record of an object** whose known members are some members without repetitions, in any
order and among others: it has their values. -/
theorem exists_record {names : List String} {members known : List (String × Json)}
    (h : (members.filter fun m => names.contains m.1).Perm known)
    (hnodup : (known.map (·.1)).Nodup) :
    ∃ r, (object members).record? names = some r ∧
      ∀ key, lastOf? key r.fields = lastOf? key known := by
  refine ⟨⟨false, members.filter fun m => names.contains m.1⟩, ?_, lastOf?_perm h hnodup⟩
  have hdistinct := distinctNames_iff.2 ((h.map (·.1)).nodup_iff.2 hnodup)
  rw [record?, if_pos hdistinct]

/-! ## What a record says -/

/-- **A value writes a record** with the given field names: it is an object in which none of them
is repeated, or an array of no more items than there are names. -/
inductive IsRecord (names : List String) : Json → Prop
  /-- An object. -/
  | object {members : List (String × Json)}
      (once : ((members.map (·.1)).filter fun name => names.contains name).Nodup) :
      IsRecord names (.object members)
  /-- An array. -/
  | array {items : List Json} (fits : items.length ≤ names.length) : IsRecord names (.array items)

/-- **A field is given with a value**: by a member of an object with its name, or by the item of an
array in its place. -/
inductive HasField (names : List String) (name : String) : Json → Json → Prop
  /-- A member of an object. -/
  | member {members : List (String × Json)} {value : Json} (h : (name, value) ∈ members) :
      HasField names name (.object members) value
  /-- An item of an array. -/
  | place {items : List Json} {value : Json} {i : Nat} (hname : names[i]? = some name)
      (hvalue : items[i]? = some value) : HasField names name (.array items) value

/-- **What a field holds that may be `null` or left out**: something that a value of its kind
means, or nothing. -/
inductive Holds {α : Type} (names : List String) (name : String) (means : Json → α → Prop)
    (j : Json) : Option α → Prop
  /-- A value is given. -/
  | given {value : Json} {a : α} (h : j.HasField names name value) (hvalue : means value a) :
      Holds names name means j (some a)
  /-- It is said that there is none. -/
  | null (h : j.HasField names name .null) : Holds names name means j none
  /-- The field is left out. -/
  | absent (h : ∀ value, ¬j.HasField names name value) : Holds names name means j none

variable {names : List String} {name : String} {value j : Json} {r : Record}

/-- The names of the known members are the known names. -/
theorem map_filter_contains (names : List String) (members : List (String × Json)) :
    (members.filter fun m => names.contains m.1).map (·.1) =
      (members.map (·.1)).filter fun name => names.contains name :=
  (List.filter_map (p := fun name => names.contains name) (f := Prod.fst)).symm

/-- **The values that write a record** are those that are read as one. -/
theorem isRecord_iff : j.IsRecord names ↔ ∃ r, j.record? names = some r := by
  constructor
  · rintro (once | fits)
    · rw [← map_filter_contains] at once
      exact ⟨_, if_pos (distinctNames_iff.2 once)⟩
    · exact ⟨_, if_pos fits⟩
  · rintro ⟨r, hr⟩
    cases j with
    | object members =>
      obtain ⟨hdistinct, -⟩ := Option.ite_none_right_eq_some.1 hr
      refine .object ?_
      rw [← map_filter_contains]
      exact distinctNames_iff.1 hdistinct
    | array items => exact .array (Option.ite_none_right_eq_some.1 hr).1
    | _ => exact nomatch hr

/-- A record is positional if it is written as an array. -/
theorem positional_iff (hr : j.record? names = some r) :
    r.positional = true ↔ ∃ items, j = .array items := by
  cases j with
  | object members =>
    obtain ⟨-, hr⟩ := Option.ite_none_right_eq_some.1 hr
    cases hr
    simp
  | array items =>
    obtain ⟨-, hr⟩ := Option.ite_none_right_eq_some.1 hr
    cases hr
    simp
  | _ => exact nomatch hr

/-- **The fields of a record** are those that the value gives. -/
theorem lastOf?_fields_iff (hnames : names.Nodup) (hname : name ∈ names)
    (hr : j.record? names = some r) :
    lastOf? name r.fields = some value ↔ j.HasField names name value := by
  cases j with
  | object members =>
    obtain ⟨hdistinct, hr⟩ := Option.ite_none_right_eq_some.1 hr
    cases hr
    rw [lastOf?_eq_some_iff (distinctNames_iff.1 hdistinct), List.mem_filter]
    constructor
    · rintro ⟨h, -⟩
      exact .member h
    · rintro ⟨h⟩
      exact ⟨h, List.contains_iff_mem.2 hname⟩
  | array items =>
    obtain ⟨-, hr⟩ := Option.ite_none_right_eq_some.1 hr
    cases hr
    have hnodup : ((names.zip items).map (·.1)).Nodup :=
      hnames.sublist (map_fst_zip_sublist names items)
    rw [lastOf?_eq_some_iff hnodup, List.mem_iff_getElem?]
    constructor
    · rintro ⟨i, hi⟩
      obtain ⟨hname, hvalue⟩ := List.getElem?_zip_eq_some.1 hi
      exact .place hname hvalue
    · rintro (_ | ⟨hname, hvalue⟩)
      exact ⟨_, List.getElem?_zip_eq_some.2 ⟨hname, hvalue⟩⟩
  | _ => exact nomatch hr

theorem string?_eq_some_iff {s : String} : j.string? = some s ↔ j = .string s := by
  cases j <;> simp [string?]

theorem items?_eq_some_iff {items : List Json} : j.items? = some items ↔ j = .array items := by
  cases j <;> simp [items?]

/-- An integer is read up to a limit. -/
theorem natUpTo?_eq_some_iff {limit n : Nat} :
    j.natUpTo? limit = some n ↔ j = .int n ∧ n ≤ limit := by
  cases j with
  | int i =>
    rw [natUpTo?, Option.ite_none_right_eq_some, Option.some.injEq, int.injEq]
    constructor
    · rintro ⟨⟨hpos, hle⟩, rfl⟩
      exact ⟨(Int.toNat_of_nonneg hpos).symm, Int.toNat_le.2 hle⟩
    · rintro ⟨rfl, hle⟩
      exact ⟨⟨Int.natCast_nonneg n, by exact_mod_cast hle⟩, Int.toNat_natCast n⟩
  | _ => simp [natUpTo?]

end NetUnits.Json

namespace NetUnits.Record

variable {α : Type} {names : List String} {name : String} {j : Json} {r : Record}
  {decode : Json → Option α}

/-- A field is not there exactly if the value does not give it. -/
theorem lastOf?_eq_none_iff (hnames : names.Nodup) (hname : name ∈ names)
    (hr : j.record? names = some r) :
    Json.lastOf? name r.fields = none ↔ ∀ value, ¬j.HasField names name value := by
  simp only [Option.eq_none_iff_forall_ne_some, ne_eq, Json.lastOf?_fields_iff hnames hname hr]

/-- **A field that must be there** is given. -/
theorem field?_eq_some_iff (hnames : names.Nodup) (hname : name ∈ names)
    (hr : j.record? names = some r) {a : α} :
    r.field? name decode = some a ↔
      ∃ value, j.HasField names name value ∧ decode value = some a := by
  simp only [field?, Option.bind_eq_some_iff, Json.lastOf?_fields_iff hnames hname hr]

/-- **A field with a default** is given, or it is left out. -/
theorem fieldOr_eq_some_iff (hnames : names.Nodup) (hname : name ∈ names)
    (hr : j.record? names = some r) {fallback a : α} :
    r.fieldOr name fallback decode = some a ↔
      (∃ value, j.HasField names name value ∧ decode value = some a) ∨
        (∀ value, ¬j.HasField names name value) ∧ a = fallback := by
  rw [fieldOr, ← lastOf?_eq_none_iff hnames hname hr]
  simp only [← Json.lastOf?_fields_iff hnames hname hr]
  cases Json.lastOf? name r.fields <;> simp [eq_comm]

/-- A text that must be there is given. -/
theorem field?_string?_eq_some_iff (hnames : names.Nodup) (hname : name ∈ names)
    (hr : j.record? names = some r) {s : String} :
    r.field? name Json.string? = some s ↔ j.HasField names name (.string s) := by
  simp only [field?_eq_some_iff hnames hname hr, Json.string?_eq_some_iff, exists_eq_right]

/-- A text with a default is given, or it is left out. -/
theorem fieldOr_string?_eq_some_iff (hnames : names.Nodup) (hname : name ∈ names)
    (hr : j.record? names = some r) {fallback s : String} :
    r.fieldOr name fallback Json.string? = some s ↔ j.HasField names name (.string s) ∨
      (∀ value, ¬j.HasField names name value) ∧ s = fallback := by
  simp only [fieldOr_eq_some_iff hnames hname hr, Json.string?_eq_some_iff, exists_eq_right]

/-- A number that must be there is given, and is not too great. -/
theorem field?_natUpTo?_eq_some_iff (hnames : names.Nodup) (hname : name ∈ names)
    (hr : j.record? names = some r) {limit n : Nat} :
    r.field? name (Json.natUpTo? limit) = some n ↔
      j.HasField names name (.int n) ∧ n ≤ limit := by
  simp only [field?_eq_some_iff hnames hname hr, Json.natUpTo?_eq_some_iff, ← and_assoc,
    exists_and_right, exists_eq_right]

/-- A value that may be `null` is `null`, or it is read. -/
theorem nullable_eq_some_iff (hnull : decode .null = none) {value : Json} {o : Option α} :
    nullable decode value = some o ↔
      value = .null ∧ o = none ∨ ∃ a, decode value = some a ∧ o = some a := by
  cases value with
  | null => simp [nullable, hnull, eq_comm]
  | _ => simp [nullable, Option.map_eq_some_iff, @eq_comm _ o]

variable {means : Json → α → Prop}

/-- **A field that may be `null`**, with nothing as its default. -/
theorem fieldOr_nullable_eq_some_iff (hnames : names.Nodup) (hname : name ∈ names)
    (hr : j.record? names = some r) (hnull : decode .null = none)
    (hmeans : ∀ {value a}, decode value = some a ↔ means value a) {o : Option α} :
    r.fieldOr name none (nullable decode) = some o ↔ Json.Holds names name means j o := by
  rw [fieldOr_eq_some_iff hnames hname hr]
  constructor
  · rintro (⟨value, hvalue, ho⟩ | ⟨habsent, rfl⟩)
    · rcases (nullable_eq_some_iff hnull).1 ho with ⟨rfl, rfl⟩ | ⟨a, ha, rfl⟩
      · exact .null hvalue
      · exact .given hvalue (hmeans.1 ha)
    · exact .absent habsent
  · rintro (⟨hvalue, ha⟩ | hvalue | habsent)
    · exact .inl ⟨_, hvalue, (nullable_eq_some_iff hnull).2 (.inr ⟨_, hmeans.2 ha, rfl⟩)⟩
    · exact .inl ⟨_, hvalue, (nullable_eq_some_iff hnull).2 (.inl ⟨rfl, rfl⟩)⟩
    · exact .inr ⟨habsent, rfl⟩

/-- **A field without a default that may be `null`**: an array must give it. -/
theorem nullableField?_eq_some_iff (hnames : names.Nodup) (hname : name ∈ names)
    (hr : j.record? names = some r) (hnull : decode .null = none)
    (hmeans : ∀ {value a}, decode value = some a ↔ means value a) {o : Option α} :
    r.nullableField? name decode = some o ↔
      Json.Holds names name means j o ∧
        ((∃ items, j = .array items) → ∃ value, j.HasField names name value) := by
  rw [← fieldOr_nullable_eq_some_iff hnames hname hr hnull hmeans, ← Json.positional_iff hr,
    nullableField?, fieldOr]
  simp only [← Json.lastOf?_fields_iff hnames hname hr]
  cases Json.lastOf? name r.fields <;> cases r.positional <;> simp

end NetUnits.Record
