import NetUnits.Proofs.Json.Scalar

/-! # JSON read back

What is written is read back as it was, but for numbers of double precision. The blanks between the
parts of a text do not matter, so one argument is enough for the two ways of writing:

* **`Json.IsExact`** — values without such numbers, and without what can only be skipped.
* **`Json.Layout`** — the blanks of a text; **`Json.Layout.lines`** and **`Json.Layout.dense`** are
  those over several lines and on one.
* **`Json.Parser.value?_chars`** — in any layout an exact value is read back, whatever follows it,
  by an induction on the value with the fuel at least twice its length.
* **`Json.Writes`** — a text of a value, with blanks around it; **`Json.Writes.parse?_eq`** reads it
  back.
* **`Json.parse?_pretty`**, **`Json.parse?_compact`** — so is the text of either way of writing.
* **`Json.Parser.value?_eq_int_iff`** — an integer is read only where its own text stands. -/

namespace NetUnits.Json

mutual

/-- **Whether a value is read back as it is written**: it holds no number but integers of 64 bits,
and nothing that can only be skipped. -/
def IsExact : Json → Prop
  | .float _ _ | .unreadable => False
  | .int i => Parser.IsInt64 i
  | .array items => AreExact items
  | .object members => HoldExact members
  | .null | .bool _ | .string _ => True

/-- Whether all items are exact. -/
def AreExact : List Json → Prop
  | [] => True
  | j :: rest => IsExact j ∧ AreExact rest

/-- Whether the values of all members are exact. -/
def HoldExact : List (String × Json) → Prop
  | [] => True
  | (_, j) :: rest => IsExact j ∧ HoldExact rest

end

/-- Items are exact if each of them is. -/
theorem areExact_iff {items : List Json} : AreExact items ↔ ∀ j ∈ items, j.IsExact := by
  induction items with
  | nil => simp [AreExact]
  | cons j items ih => simp [AreExact, ih]

/-- Members are exact if the value of each of them is. -/
theorem holdExact_iff {members : List (String × Json)} :
    HoldExact members ↔ ∀ m ∈ members, m.2.IsExact := by
  induction members with
  | nil => simp [HoldExact]
  | cons m members ih => simp [HoldExact, ih]

mutual

/-- Nothing in an exact value can only be skipped. -/
theorem isReadable_of_isExact : ∀ {j : Json}, j.IsExact → j.isReadable = true
  | .null, _ | .bool _, _ | .int _, _ | .string _, _ => rfl
  | .array _, h => areReadable_of_areExact h
  | .object _, h => holdReadable_of_holdExact h

theorem areReadable_of_areExact : ∀ {items : List Json}, AreExact items → areReadable items = true
  | [], _ => rfl
  | j :: items, h => by
    rw [areReadable, isReadable_of_isExact h.1, areReadable_of_areExact h.2]
    rfl

theorem holdReadable_of_holdExact : ∀ {members : List (String × Json)}, HoldExact members →
    holdReadable members = true
  | [], _ => rfl
  | (_, j) :: members, h => by
    rw [holdReadable, isReadable_of_isExact h.1, holdReadable_of_holdExact h.2]
    rfl

end

/-! ## Layouts -/

/-- **A layout**: the blanks between the parts of a text. -/
structure Layout where
  /-- What stands before an item or member inside so many arrays and objects, and before the
  bracket that closes them. -/
  line : Nat → List Char
  /-- What stands between a colon and the value after it. -/
  space : List Char
  /-- Before an item there are only blanks. -/
  isGap_of_mem_line : ∀ level, ∀ c ∈ line level, Parser.isGap c = true
  /-- After a colon there are only blanks. -/
  isGap_of_mem_space : ∀ c ∈ space, Parser.isGap c = true

namespace Layout

variable (l : Layout)

mutual

/-- The characters of a value inside `level` arrays and objects. -/
def chars (level : Nat) : Json → List Char
  | .array [] => ['[', ']']
  | .array (j :: rest) => '[' :: l.line (level + 1) ++ chars (level + 1) j ++ items level rest
  | .object [] => ['\x7b', '\x7d']
  | .object ((key, j) :: rest) =>
    '\x7b' :: l.line (level + 1) ++ stringText key ++ ':' :: l.space ++ chars (level + 1) j ++
      members level rest
  | j => scalarText j

/-- The items after the first, with the closing bracket. -/
def items (level : Nat) : List Json → List Char
  | [] => l.line level ++ [']']
  | j :: rest => ',' :: l.line (level + 1) ++ chars (level + 1) j ++ items level rest

/-- The members after the first, with the closing brace. -/
def members (level : Nat) : List (String × Json) → List Char
  | [] => l.line level ++ ['\x7d']
  | (key, j) :: rest =>
    ',' :: l.line (level + 1) ++ stringText key ++ ':' :: l.space ++ chars (level + 1) j ++
      members level rest

end

/-- The layout over several lines. -/
def lines : Layout where
  line := newLine
  space := [' ']
  isGap_of_mem_line level c hc := by
    rcases List.mem_cons.1 hc with rfl | hc
    · rfl
    · rw [List.eq_of_mem_replicate hc]
      rfl
  isGap_of_mem_space := List.forall_mem_singleton.2 rfl

/-- The layout on one line, without blanks. -/
def dense : Layout where
  line _ := []
  space := []
  isGap_of_mem_line _ := List.forall_mem_nil _
  isGap_of_mem_space := List.forall_mem_nil _

mutual

/-- A value over several lines. -/
theorem chars_lines : ∀ (j : Json) (level : Nat), lines.chars level j = prettyChars level j
  | .null, _ | .bool _, _ | .int _, _ | .float _ _, _ | .string _, _ | .unreadable, _ => rfl
  | .array [], _ | .object [], _ => rfl
  | .array (j :: rest), level => by
    rw [chars, prettyChars, chars_lines j, items_lines rest]
    rfl
  | .object ((key, j) :: rest), level => by
    rw [chars, prettyChars, chars_lines j, members_lines rest]
    simp [lines]

theorem items_lines : ∀ (js : List Json) (level : Nat),
    lines.items level js = prettyItems level js
  | [], _ => rfl
  | j :: rest, level => by
    rw [items, prettyItems, chars_lines j, items_lines rest]
    rfl

theorem members_lines : ∀ (ms : List (String × Json)) (level : Nat),
    lines.members level ms = prettyMembers level ms
  | [], _ => rfl
  | (key, j) :: rest, level => by
    rw [members, prettyMembers, chars_lines j, members_lines rest]
    simp [lines]

end

mutual

/-- A value on one line. -/
theorem chars_dense : ∀ (j : Json) (level : Nat), dense.chars level j = compactChars j
  | .null, _ | .bool _, _ | .int _, _ | .float _ _, _ | .string _, _ | .unreadable, _ => rfl
  | .array [], _ | .object [], _ => rfl
  | .array (j :: rest), level => by
    rw [chars, compactChars, chars_dense j, items_dense rest]
    rfl
  | .object ((key, j) :: rest), level => by
    rw [chars, compactChars, chars_dense j, members_dense rest]
    simp [dense]

theorem items_dense : ∀ (js : List Json) (level : Nat), dense.items level js = compactItems js
  | [], _ => rfl
  | j :: rest, level => by
    rw [items, compactItems, chars_dense j, items_dense rest]
    rfl

theorem members_dense : ∀ (ms : List (String × Json)) (level : Nat),
    dense.members level ms = compactMembers ms
  | [], _ => rfl
  | (key, j) :: rest, level => by
    rw [members, compactMembers, chars_dense j, members_dense rest]
    simp [dense]

end

end Layout

namespace Parser

open NetUnits.Text

/-! ## Blanks -/

/-- Blanks are skipped up to what is none. -/
theorem skipGaps_append {gap : List Char} (hgap : ∀ c ∈ gap, isGap c = true) (cs : List Char) :
    skipGaps (gap ++ cs) = skipGaps cs :=
  List.dropWhile_append_of_pos hgap

theorem skipGaps_cons {c : Char} (h : isGap c = false) (cs : List Char) :
    skipGaps (c :: cs) = c :: cs := by
  rw [skipGaps, List.dropWhile_cons_of_neg (by simp [h])]

/-- Blanks before a value do not count. -/
theorem value?_append {gap : List Char} (hgap : ∀ c ∈ gap, isGap c = true) (fuel : Nat)
    (cs : List Char) : value? fuel (gap ++ cs) = value? fuel cs := by
  cases fuel with
  | zero => rfl
  | succ fuel => simp only [value?, skipGaps_append hgap]

theorem elements?_append {gap : List Char} (hgap : ∀ c ∈ gap, isGap c = true) (fuel : Nat)
    (cs : List Char) : elements? fuel (gap ++ cs) = elements? fuel cs := by
  cases fuel with
  | zero => rfl
  | succ fuel => simp only [elements?, value?_append hgap]

theorem members?_append {gap : List Char} (hgap : ∀ c ∈ gap, isGap c = true) (fuel : Nat)
    (cs : List Char) : members? fuel (gap ++ cs) = members? fuel cs := by
  cases fuel with
  | zero => rfl
  | succ fuel => simp only [members?, skipGaps_append hgap]

/-! ## Values -/

/-- A number does not go on after blanks. -/
theorem EndsNumber.append {gap rest : List Char} (hgap : ∀ c ∈ gap, isGap c = true)
    (hrest : EndsNumber rest) : EndsNumber (gap ++ rest) := by
  cases gap with
  | nil => exact hrest
  | cons c gap =>
    rintro d ⟨⟩
    have hc := hgap c List.mem_cons_self
    simp only [isGap, Bool.or_eq_true, beq_iff_eq] at hc
    rcases hc with ((rfl | rfl) | rfl) | rfl <;> decide

variable (l : Layout)

/-- What follows an item does not go on with a number. -/
theorem endsNumber_items (level : Nat) (items : List Json) (rest : List Char) :
    EndsNumber (l.items level items ++ rest) := by
  cases items with
  | nil =>
    rw [Layout.items, List.append_assoc]
    exact .append (l.isGap_of_mem_line level) (by rintro c ⟨⟩; decide)
  | cons => rintro c ⟨⟩; decide

/-- What follows a member does not go on with a number. -/
theorem endsNumber_members (level : Nat) (members : List (String × Json)) (rest : List Char) :
    EndsNumber (l.members level members ++ rest) := by
  cases members with
  | nil =>
    rw [Layout.members, List.append_assoc]
    exact .append (l.isGap_of_mem_line level) (by rintro c ⟨⟩; decide)
  | cons => rintro c ⟨⟩; decide

/-- What begins with none of the marks of strings, arrays and objects is a scalar. -/
theorem value?_cons {c : Char} (hgap : isGap c = false) (hquote : c ≠ '"') (hbracket : c ≠ '[')
    (hbrace : c ≠ '\x7b') (fuel : Nat) (cs : List Char) :
    value? (fuel + 1) (c :: cs) = scalar? (c :: cs) := by
  rw [value?, skipGaps_cons hgap]
  split
  · exact absurd (by simp_all) hquote
  · exact absurd (by simp_all) hbracket
  · exact absurd (by simp_all) hbrace
  · rfl

/-- An integer begins with no blank, and with a digit or a minus sign. -/
theorem exists_cons_toString (i : Int) :
    ∃ c cs, (toString i).toList = c :: cs ∧ isGap c = false ∧
      ∀ d : Char, d.isDigit = false → d ≠ '-' → c ≠ d := by
  have hfirst : ∃ c cs, (toString i).toList = c :: cs ∧ (c.isDigit = true ∨ c = '-') := by
    rw [toList_toString_int]
    split
    · cases hds : Nat.toDigits 10 i.toNat with
      | nil => exact absurd hds Nat.toDigits_ne_nil
      | cons c cs =>
        exact ⟨c, cs, rfl, .inl (isDigit_of_mem_toDigits (hds ▸ List.mem_cons_self))⟩
    · exact ⟨'-', _, rfl, .inr rfl⟩
  obtain ⟨c, cs, hcs, hc⟩ := hfirst
  have hother : ∀ d : Char, d.isDigit = false → d ≠ '-' → c ≠ d := by
    rintro d hd hminus rfl
    rcases hc with hc | rfl
    · rw [hd] at hc
      exact absurd hc (by decide)
    · exact hminus rfl
  have hgap : isGap c = false := by
    simp [isGap, hother ' ' rfl (by decide), hother '\t' rfl (by decide),
      hother '\n' rfl (by decide), hother '\r' rfl (by decide)]
  exact ⟨c, cs, hcs, hgap, hother⟩

/-- **An integer is read back as a value.** -/
theorem value?_int {i : Int} (hi : IsInt64 i) {rest : List Char} (hrest : EndsNumber rest)
    (fuel : Nat) : value? (fuel + 1) ((toString i).toList ++ rest) = some (.int i, rest) := by
  have hread := number?_toString hi hrest
  obtain ⟨c, cs, hcs, hgap, hother⟩ := exists_cons_toString i
  rw [hcs, List.cons_append] at hread ⊢
  rw [value?_cons hgap (hother '"' rfl (by decide)) (hother '[' rfl (by decide))
    (hother '\x7b' rfl (by decide)), ← hread]
  -- no literal begins as a number does
  unfold scalar?
  split
  · exact absurd (by simp_all) (hother 't' rfl (by decide))
  · exact absurd (by simp_all) (hother 'f' rfl (by decide))
  · exact absurd (by simp_all) (hother 'n' rfl (by decide))
  · rfl

/-- The members that are read when all keys are strings. -/
theorem objectOf_map (members : List (String × Json)) :
    objectOf (members.map fun m => (some m.1, m.2)) = .object members := by
  have hall : ∀ members : List (String × Json),
      (members.map fun m => (some m.1, m.2)).mapM (fun m => m.1.map (·, m.2)) =
        some members := by
    intro members
    induction members with
    | nil => rfl
    | cons m members ih => simp [ih]
  rw [objectOf, hall]

/-- A written value begins with no blank, and with no closing bracket. -/
theorem exists_cons_chars (level : Nat) {j : Json} (hj : j.IsExact) :
    ∃ c cs, l.chars level j = c :: cs ∧ isGap c = false ∧ c ≠ ']' := by
  cases j with
  | null => exact ⟨'n', _, rfl, rfl, by decide⟩
  | bool b => cases b <;> exact ⟨_, _, rfl, rfl, by decide⟩
  | int i =>
    obtain ⟨c, cs, hcs, hgap, hother⟩ := exists_cons_toString i
    exact ⟨c, cs, hcs, hgap, hother ']' rfl (by decide)⟩
  | float => exact hj.elim
  | string s => exact ⟨'"', _, rfl, rfl, by decide⟩
  | array items => cases items <;> exact ⟨'[', _, rfl, rfl, by decide⟩
  | object members => cases members <;> exact ⟨'\x7b', _, rfl, rfl, by decide⟩
  | unreadable => exact hj.elim

/-- An array that does not end at once holds the items that follow. -/
theorem value?_array {gap cs : List Char} {c : Char} (hgap : ∀ d ∈ gap, isGap d = true)
    (hc : isGap c = false) (hclose : c ≠ ']') (fuel : Nat) :
    value? (fuel + 1) ('[' :: (gap ++ c :: cs)) =
      (elements? fuel (c :: cs)).map fun (items, cs) => (.array items, cs) := by
  have hopen : isGap '[' = false := by decide
  simp only [value?, skipGaps_cons hopen, skipGaps_append hgap, skipGaps_cons hc]
  split
  · exact absurd (by simp_all) hclose
  · rfl

/-- An object that does not end at once holds the members that follow. -/
theorem value?_object {gap : List Char} (hgap : ∀ d ∈ gap, isGap d = true) (fuel : Nat)
    (cs : List Char) :
    value? (fuel + 1) ('\x7b' :: (gap ++ '"' :: cs)) =
      (members? fuel ('"' :: cs)).map fun (members, cs) => (objectOf members, cs) := by
  have hopen : isGap '\x7b' = false := by decide
  have hquote : isGap '"' = false := by decide
  simp only [value?, skipGaps_cons hopen, skipGaps_append hgap, skipGaps_cons hquote]
  rfl

/-- The last item of an array. -/
theorem elements?_last (level : Nat) {fuel : Nat} {cs rest : List Char} {j : Json}
    (h : value? fuel cs = some (j, l.line level ++ ']' :: rest)) :
    elements? (fuel + 1) cs = some ([j], rest) := by
  have hclose : isGap ']' = false := by decide
  simp only [elements?, h, skipGaps_append (l.isGap_of_mem_line level), skipGaps_cons hclose]

/-- An item of an array before others. -/
theorem elements?_more {fuel : Nat} {cs cs' : List Char} {j : Json}
    (h : value? fuel cs = some (j, ',' :: cs')) :
    elements? (fuel + 1) cs = (elements? fuel cs').map fun (items, cs) => (j :: items, cs) := by
  have hcomma : isGap ',' = false := by decide
  simp only [elements?, h, skipGaps_cons hcomma]

/-- The last member of an object. -/
theorem members?_last (level : Nat) {fuel : Nat} {key : String} {cs rest : List Char} {j : Json}
    (hfuel : key.toList.length < fuel)
    (h : value? fuel cs = some (j, l.line level ++ '\x7d' :: rest)) :
    members? (fuel + 1) (stringText key ++ ':' :: cs) = some ([(some key, j)], rest) := by
  have hquote : isGap '"' = false := by decide
  have hcolon : isGap ':' = false := by decide
  have hclose : isGap '\x7d' = false := by decide
  simp only [members?, stringText, List.cons_append, List.append_assoc, List.nil_append,
    skipGaps_cons hquote, quotedString?_flatMap key _ hfuel, skipGaps_cons hcolon, h,
    skipGaps_append (l.isGap_of_mem_line level), skipGaps_cons hclose]

/-- A member of an object before others. -/
theorem members?_more {fuel : Nat} {key : String} {cs cs' : List Char} {j : Json}
    (hfuel : key.toList.length < fuel) (h : value? fuel cs = some (j, ',' :: cs')) :
    members? (fuel + 1) (stringText key ++ ':' :: cs) =
      (members? fuel cs').map fun (members, cs) => ((some key, j) :: members, cs) := by
  have hquote : isGap '"' = false := by decide
  have hcolon : isGap ':' = false := by decide
  have hcomma : isGap ',' = false := by decide
  simp only [members?, stringText, List.cons_append, List.append_assoc, List.nil_append,
    skipGaps_cons hquote, quotedString?_flatMap key _ hfuel, skipGaps_cons hcolon, h,
    skipGaps_cons hcomma]

mutual

/-- **A written value is read back**, whatever follows it. -/
theorem value?_chars : ∀ (j : Json) (level fuel : Nat) (rest : List Char), j.IsExact →
    2 * (l.chars level j).length ≤ fuel + 1 → EndsNumber rest →
    value? (fuel + 1) (l.chars level j ++ rest) = some (j, rest)
  | .null, _, fuel, _, _, _, _ => value?_cons rfl (by decide) (by decide) (by decide) fuel _
  | .bool true, _, fuel, _, _, _, _ => value?_cons rfl (by decide) (by decide) (by decide) fuel _
  | .bool false, _, fuel, _, _, _, _ => value?_cons rfl (by decide) (by decide) (by decide) fuel _
  | .int _, _, fuel, _, hj, _, hrest => value?_int hj hrest fuel
  | .string s, level, fuel, rest, _, hfuel, _ => by
    have hlength := length_le_length_stringText s
    simp only [Layout.chars, scalarText] at hfuel
    have hquote : isGap '"' = false := by decide
    simp only [Layout.chars, scalarText, stringText, List.cons_append, List.append_assoc,
      List.nil_append, value?, skipGaps_cons hquote,
      quotedString?_flatMap s rest (by omega : s.toList.length < fuel)]
    rfl
  | .array [], _, _, _, _, _, _ => rfl
  | .array (item :: items), level, fuel, rest, hj, hfuel, _ => by
    have hread := elements?_items item items level fuel rest hj.1 hj.2 (by
      simp only [Layout.chars, List.length_cons, List.length_append] at hfuel ⊢
      omega)
    obtain ⟨c, cs, hcs, hc, hclose⟩ := exists_cons_chars l (level + 1) hj.1
    rw [hcs, List.cons_append] at hread
    simp only [Layout.chars, List.cons_append, List.append_assoc, hcs]
    rw [value?_array (l.isGap_of_mem_line _) hc hclose, hread, Option.map_some]
  | .object [], _, _, _, _, _, _ => rfl
  | .object ((key, item) :: members), level, fuel, rest, hj, hfuel, _ => by
    have hread := members?_members key item members level fuel rest hj.1 hj.2 (by
      simp only [Layout.chars, List.length_cons, List.length_append] at hfuel ⊢
      omega)
    simp only [stringText, List.cons_append, List.append_assoc, List.nil_append] at hread
    simp only [Layout.chars, stringText, List.cons_append, List.append_assoc, List.nil_append]
    rw [value?_object (l.isGap_of_mem_line _), hread, Option.map_some]
    exact congrArg (fun j => some (j, rest)) (objectOf_map _)
termination_by j => sizeOf j

/-- The items of an array are read back from any of them on. -/
theorem elements?_items : ∀ (j : Json) (items : List Json) (level fuel : Nat)
    (rest : List Char), j.IsExact → AreExact items →
    2 * (l.chars (level + 1) j ++ l.items level items).length ≤ fuel →
    elements? fuel (l.chars (level + 1) j ++ (l.items level items ++ rest)) =
      some (j :: items, rest)
  | j, [], level, fuel, rest, hj, _, hfuel => by
    obtain ⟨fuel, rfl⟩ : ∃ n, fuel = n + 2 := Nat.exists_eq_add_of_le' (by
      simp only [Layout.items, List.length_append, List.length_singleton] at hfuel
      omega)
    have hitem := value?_chars j (level + 1) fuel (l.items level [] ++ rest) hj (by
      simp only [Layout.items, List.length_append, List.length_singleton] at hfuel
      omega) (endsNumber_items l level [] rest)
    refine elements?_last l level (hitem.trans ?_)
    simp [Layout.items]
  | j, item :: items, level, fuel, rest, hj, hitems, hfuel => by
    simp only [Layout.items, List.length_cons, List.length_append] at hfuel
    obtain ⟨fuel, rfl⟩ : ∃ n, fuel = n + 2 := Nat.exists_eq_add_of_le' (by omega)
    have hitem := value?_chars j (level + 1) fuel (l.items level (item :: items) ++ rest)
      hj (by omega) (endsNumber_items l level _ rest)
    have hread := elements?_items item items level (fuel + 1) rest hitems.1 hitems.2 (by
      rw [List.length_append]
      omega)
    simp only [Layout.items, List.cons_append, List.append_assoc] at hitem ⊢
    rw [elements?_more hitem, elements?_append (l.isGap_of_mem_line _), hread, Option.map_some]
termination_by j items => sizeOf j + sizeOf items

/-- The members of an object are read back from any of them on. -/
theorem members?_members : ∀ (key : String) (j : Json) (members : List (String × Json))
    (level fuel : Nat) (rest : List Char), j.IsExact → HoldExact members →
    2 * (stringText key ++ ':' :: l.space ++ l.chars (level + 1) j ++
      l.members level members).length ≤ fuel →
    members? fuel (stringText key ++ (':' :: (l.space ++ (l.chars (level + 1) j ++
      (l.members level members ++ rest))))) =
      some (((key, j) :: members).map fun m => (some m.1, m.2), rest)
  | key, j, [], level, fuel, rest, hj, _, hfuel => by
    have hkey := length_le_length_stringText key
    simp only [List.length_cons, List.length_append] at hfuel
    obtain ⟨fuel, rfl⟩ : ∃ n, fuel = n + 2 := Nat.exists_eq_add_of_le' (by omega)
    have hitem := value?_chars j (level + 1) fuel (l.members level [] ++ rest) hj
      (by omega) (endsNumber_members l level [] rest)
    rw [← value?_append l.isGap_of_mem_space] at hitem
    refine members?_last l level (by omega) (hitem.trans ?_)
    simp [Layout.members]
  | key, j, (key', item) :: members, level, fuel, rest, hj, hmembers, hfuel => by
    have hkey := length_le_length_stringText key
    simp only [Layout.members, List.length_cons, List.length_append] at hfuel
    obtain ⟨fuel, rfl⟩ : ∃ n, fuel = n + 2 := Nat.exists_eq_add_of_le' (by omega)
    have hitem := value?_chars j (level + 1) fuel
      (l.members level ((key', item) :: members) ++ rest) hj (by omega)
      (endsNumber_members l level _ rest)
    have hread := members?_members key' item members level (fuel + 1) rest hmembers.1
      hmembers.2 (by
        simp only [List.length_cons, List.length_append]
        omega)
    rw [← value?_append l.isGap_of_mem_space] at hitem
    simp only [Layout.members, List.cons_append, List.append_assoc] at hitem ⊢
    rw [members?_more (by omega) hitem, members?_append (l.isGap_of_mem_line _), hread]
    rfl
termination_by _ j members => sizeOf j + sizeOf members

end

/-- **An integer is read only where its own text stands**, after blanks, and where the text does not
go on with a fraction or an exponent. -/
theorem value?_eq_int_iff {fuel : Nat} {cs rest : List Char} {i : Int} :
    value? (fuel + 1) cs = some (.int i, rest) ↔
      IsInt64 i ∧ skipGaps cs = (toString i).toList ++ rest ∧ EndsNumber rest := by
  rw [← number?_eq_int_iff]
  constructor
  · intro h
    unfold value? at h
    split at h
    · obtain ⟨⟨s, _⟩, -, h⟩ := Option.map_eq_some_iff.1 h
      cases s <;> exact nomatch (Prod.mk.inj h).1
    · split at h
      · exact nomatch h
      · obtain ⟨⟨items, _⟩, -, h⟩ := Option.map_eq_some_iff.1 h
        exact nomatch (Prod.mk.inj h).1
    · split at h
      · exact nomatch h
      · obtain ⟨⟨members, _⟩, -, h⟩ := Option.map_eq_some_iff.1 h
        have hobject := (Prod.mk.inj h).1
        unfold objectOf at hobject
        split at hobject <;> exact nomatch hobject
    · unfold scalar? at h
      split at h
      · exact nomatch h
      · exact nomatch h
      · exact nomatch h
      · exact h
  · intro h
    obtain ⟨hi, htext, hrest⟩ := number?_eq_int_iff.1 h
    have hgaps : value? (fuel + 1) cs = value? (fuel + 1) (skipGaps cs) := by
      have hgap : ∀ c ∈ cs.takeWhile isGap, isGap c = true := fun c hc =>
        List.mem_takeWhile_imp hc
      rw [← value?_append hgap (fuel + 1) (skipGaps cs), skipGaps,
        List.takeWhile_append_dropWhile]
    rw [hgaps, htext]
    exact value?_int hi hrest fuel

/-- **An exact value is read back from its characters in any layout**, with blanks around it. -/
theorem ofChars?_chars {j : Json} (hj : j.IsExact) {before after : List Char}
    (hbefore : ∀ c ∈ before, isGap c = true) (hafter : ∀ c ∈ after, isGap c = true) :
    ofChars? (before ++ (l.chars 0 j ++ after)) = some j := by
  have hends : EndsNumber after := by
    rw [← List.append_nil after]
    exact .append hafter fun c hc => nomatch hc
  have hrest : skipGaps after = [] := by
    rw [← List.append_nil after, skipGaps_append hafter]
    rfl
  have hread := value?_chars l j 0 (2 * (before ++ (l.chars 0 j ++ after)).length + 1) after hj (by
    simp only [List.length_append]
    omega) hends
  rw [ofChars?, first?, value?_append hbefore, hread]
  simp only [hrest, List.isEmpty_nil, if_true]

end Parser

/-- **A text writes a value** in some layout, with blanks around it. -/
def Writes (j : Json) (text : String) : Prop :=
  ∃ (l : Layout) (before after : List Char), (∀ c ∈ before, Parser.isGap c = true) ∧
    (∀ c ∈ after, Parser.isGap c = true) ∧ text.toList = before ++ (l.chars 0 j ++ after)

/-- **An exact value is read back** from any text that writes it. -/
theorem Writes.parse?_eq {j : Json} {text : String} (h : j.Writes text) (hj : j.IsExact) :
    parse? text = some j := by
  obtain ⟨l, before, after, hbefore, hafter, htext⟩ := h
  rw [parse?, htext]
  exact Parser.ofChars?_chars l hj hbefore hafter

theorem writes_pretty (j : Json) {blanks : String}
    (hblanks : ∀ c ∈ blanks.toList, Parser.isGap c = true) : j.Writes (j.pretty ++ blanks) := by
  refine ⟨.lines, [], blanks.toList, List.forall_mem_nil _, hblanks, ?_⟩
  rw [String.toList_append, pretty, String.toList_ofList, Layout.chars_lines, List.nil_append]

theorem writes_compact (j : Json) {blanks : String}
    (hblanks : ∀ c ∈ blanks.toList, Parser.isGap c = true) : j.Writes (j.compact ++ blanks) := by
  refine ⟨.dense, [], blanks.toList, List.forall_mem_nil _, hblanks, ?_⟩
  rw [String.toList_append, compact, String.toList_ofList, Layout.chars_dense, List.nil_append]

/-- **An exact value is read back from its text over several lines**, with blanks behind it. -/
theorem parse?_pretty {j : Json} (hj : j.IsExact) {blanks : String}
    (hblanks : ∀ c ∈ blanks.toList, Parser.isGap c = true) :
    parse? (j.pretty ++ blanks) = some j :=
  (j.writes_pretty hblanks).parse?_eq hj

/-- **An exact value is read back from its text on one line**, with blanks behind it. -/
theorem parse?_compact {j : Json} (hj : j.IsExact) {blanks : String}
    (hblanks : ∀ c ∈ blanks.toList, Parser.isGap c = true) :
    parse? (j.compact ++ blanks) = some j :=
  (j.writes_compact hblanks).parse?_eq hj

end NetUnits.Json
