import NetUnits.UnitFile.Printer
import NetUnits.Proofs.Except
import NetUnits.Proofs.Text.Trim
import NetUnits.Proofs.Text.Lines

/-! # What is written

Writing either refuses a list of sections or lays out one line for each header and each entry. The
two sides of this are named, so that readers of written text need not open the printer:

* **`IsName`**, **`IsKey`**, **`IsValue`** — what passes the checks of names, keys and values.
* **`Section.Writable`** — a section all of whose parts pass.
* **`fileLines`** — the lines of a list of sections.
* **`render_eq_ok_iff`** — the text of writable sections is their lines; nothing else has one. -/

namespace NetUnits.UnitFile

open NetUnits.Text

/-! ## What passes the checks -/

/-- **A name that can be written**: not empty, not padded, without control characters and
brackets. -/
structure IsName (name : String) : Prop where
  /-- Something stands between the brackets, or before the equals sign. -/
  ne_nil : name.toList ≠ []
  /-- Reading trims the name and finds it unchanged. -/
  unpadded : trimChars name.toList = name.toList
  /-- No character ends the line or the header. -/
  plain : ∀ c ∈ name.toList, isControl c = false ∧ c ≠ '[' ∧ c ≠ ']'

/-- **A key that can be written**: a name without `=` that begins no comment. -/
structure IsKey (key : String) : Prop extends IsName key where
  /-- The first `=` of the line is the one after the key. -/
  no_equals : '=' ∉ key.toList
  /-- The line is no comment. -/
  no_comment : key.toList.head? ≠ some '#' ∧ key.toList.head? ≠ some ';'

/-- **A value that can be written**: it stays on its line and does not continue it. -/
structure IsValue (value : String) : Prop where
  /-- The value is not broken into lines. -/
  oneLine : OneLine value.toList
  /-- The next line is not joined to the value. -/
  closed : (trimEnd value.toList).getLast? ≠ some '\\'

theorem checkName_eq_ok_iff {header name : String} {u : Unit} :
    checkName header name = .ok u ↔ IsName name := by
  simp only [checkName, ite_error_eq_ok_iff, and_true]
  constructor
  · rintro ⟨hpad, hchars⟩
    simp only [Bool.or_eq_true, List.isEmpty_iff, bne_iff_ne, not_or, ne_eq,
      Decidable.not_not] at hpad
    simp only [List.any_eq_true, not_exists, not_and, Bool.or_eq_true, beq_iff_eq, not_or,
      Bool.not_eq_true] at hchars
    exact ⟨hpad.1, hpad.2, fun c hc => ⟨(hchars c hc).1.1, (hchars c hc).1.2, (hchars c hc).2⟩⟩
  · rintro ⟨hne, hpad, hchars⟩
    refine ⟨by simp [hne, hpad], ?_⟩
    simp only [List.any_eq_true, not_exists, not_and, Bool.or_eq_true, beq_iff_eq, not_or,
      Bool.not_eq_true]
    exact fun c hc => ⟨⟨(hchars c hc).1, (hchars c hc).2.1⟩, (hchars c hc).2.2⟩

theorem checkKey_eq_ok_iff {header key : String} {u : Unit} :
    checkKey header key = .ok u ↔ IsKey key := by
  simp only [checkKey, bind_eq_ok_iff, checkName_eq_ok_iff, ite_error_eq_ok_iff, pure_eq_ok_iff,
    and_true, exists_const]
  constructor
  · rintro ⟨hname, hkey⟩
    simp only [Bool.or_eq_true, List.contains_iff_mem, beq_iff_eq, not_or] at hkey
    exact ⟨hname, hkey.1.1, hkey.1.2, hkey.2⟩
  · rintro ⟨hname, heq, hcomment⟩
    exact ⟨hname, by simp [heq, hcomment]⟩

theorem checkValue_eq_ok_iff {header value : String} {u : Unit} :
    checkValue header value = .ok u ↔ IsValue value := by
  simp only [checkValue, ite_error_eq_ok_iff, and_true]
  constructor
  · rintro ⟨hline, hclosed⟩
    simp only [Bool.or_eq_true, List.contains_iff_mem, not_or] at hline
    exact ⟨hline, by simpa using hclosed⟩
  · rintro ⟨hline, hclosed⟩
    exact ⟨by simp [hline.1, hline.2], by simpa using hclosed⟩

/-- **A section that can be written**: so can its name and all keys and values. -/
structure Section.Writable (s : Section) : Prop where
  /-- The header can be written. -/
  name : IsName s.name
  /-- Each key can be written. -/
  keys : ∀ e ∈ s.entries, IsKey e.1
  /-- Each value can be written. -/
  values : ∀ e ∈ s.entries, IsValue e.2

/-! ## The lines of a file -/

/-- The line of a header. -/
def headerLine (name : String) : List Char :=
  '[' :: name.toList ++ [']']

/-- The line of an entry. -/
def entryLine (e : String × String) : List Char :=
  e.1.toList ++ " = ".toList ++ e.2.toList

/-- **The lines of a section**: its header and its entries. -/
def sectionLines (s : Section) : List (List Char) :=
  headerLine s.name :: s.entries.map entryLine

/-- The lines of sections that follow another one, each section after an empty line. -/
def followingLines (sections : List Section) : List (List Char) :=
  sections.flatMap fun s => [] :: sectionLines s

/-- **The lines of a list of sections**, an empty line between two. -/
def fileLines : List Section → List (List Char)
  | [] => []
  | s :: rest => sectionLines s ++ followingLines rest

theorem renderEntry_eq_ok_iff {header : String} {e : String × String} {cs : List Char} :
    renderEntry header e = .ok cs ↔
      IsKey e.1 ∧ IsValue e.2 ∧ joinLines [entryLine e] = cs := by
  simp only [renderEntry, bind_eq_ok_iff, checkKey_eq_ok_iff, checkValue_eq_ok_iff, pure_eq_ok_iff,
    exists_const, joinLines_cons, joinLines_nil, entryLine]

theorem renderEntries_eq_ok_iff {header : String} {entries : List (String × String)}
    {cs : List Char} :
    renderEntries header entries = .ok cs ↔
      (∀ e ∈ entries, IsKey e.1 ∧ IsValue e.2) ∧ joinLines (entries.map entryLine) = cs := by
  induction entries generalizing cs with
  | nil => simp [renderEntries]
  | cons e rest ih =>
    have hlines : joinLines ((e :: rest).map entryLine) =
        joinLines [entryLine e] ++ joinLines (rest.map entryLine) := by simp
    simp only [renderEntries, bind_eq_ok_iff, renderEntry_eq_ok_iff, ih, pure_eq_ok_iff,
      List.forall_mem_cons, hlines]
    constructor
    · rintro ⟨_, ⟨hk, hv, rfl⟩, _, ⟨hrest, rfl⟩, rfl⟩
      exact ⟨⟨⟨hk, hv⟩, hrest⟩, rfl⟩
    · rintro ⟨⟨⟨hk, hv⟩, hrest⟩, rfl⟩
      exact ⟨_, ⟨hk, hv, rfl⟩, _, ⟨hrest, rfl⟩, rfl⟩

theorem renderSection_eq_ok_iff {s : Section} {cs : List Char} :
    renderSection s = .ok cs ↔ s.Writable ∧ joinLines (sectionLines s) = cs := by
  simp only [renderSection, bind_eq_ok_iff, checkName_eq_ok_iff, renderEntries_eq_ok_iff,
    pure_eq_ok_iff, exists_const, sectionLines, joinLines_cons, headerLine]
  constructor
  · rintro ⟨hname, _, ⟨hentries, rfl⟩, rfl⟩
    exact ⟨⟨hname, fun e he => (hentries e he).1, fun e he => (hentries e he).2⟩, by simp⟩
  · rintro ⟨⟨hname, hkeys, hvalues⟩, rfl⟩
    exact ⟨hname, _, ⟨fun e he => ⟨hkeys e he, hvalues e he⟩, rfl⟩, by simp⟩

theorem renderFollowing_eq_ok_iff {sections : List Section} {cs : List Char} :
    renderFollowing sections = .ok cs ↔
      (∀ s ∈ sections, s.Writable) ∧ joinLines (followingLines sections) = cs := by
  induction sections generalizing cs with
  | nil => simp [renderFollowing, followingLines]
  | cons s rest ih =>
    have hlines : joinLines (followingLines (s :: rest)) =
        '\n' :: joinLines (sectionLines s) ++ joinLines (followingLines rest) := by
      simp [followingLines]
    simp only [renderFollowing, bind_eq_ok_iff, renderSection_eq_ok_iff, ih, pure_eq_ok_iff,
      List.forall_mem_cons, hlines]
    constructor
    · rintro ⟨_, ⟨hs, rfl⟩, _, ⟨hrest, rfl⟩, rfl⟩
      exact ⟨⟨hs, hrest⟩, rfl⟩
    · rintro ⟨⟨hs, hrest⟩, rfl⟩
      exact ⟨_, ⟨hs, rfl⟩, _, ⟨hrest, rfl⟩, rfl⟩

/-- **A list of sections has a text exactly if all of them can be written**; the text is that of
their lines. -/
theorem render_eq_ok_iff {sections : List Section} {text : String} :
    render sections = .ok text ↔
      (∀ s ∈ sections, s.Writable) ∧ joinLines (fileLines sections) = text.toList := by
  have hchars : ∀ {cs}, renderChars sections = .ok cs ↔
      (∀ s ∈ sections, s.Writable) ∧ joinLines (fileLines sections) = cs := by
    intro cs
    cases sections with
    | nil => simp [renderChars, fileLines]
    | cons s rest =>
      simp only [renderChars, bind_eq_ok_iff, renderSection_eq_ok_iff, renderFollowing_eq_ok_iff,
        pure_eq_ok_iff, List.forall_mem_cons, fileLines, joinLines_append]
      constructor
      · rintro ⟨_, ⟨hs, rfl⟩, _, ⟨hrest, rfl⟩, rfl⟩
        exact ⟨⟨hs, hrest⟩, rfl⟩
      · rintro ⟨⟨hs, hrest⟩, rfl⟩
        exact ⟨_, ⟨hs, rfl⟩, _, ⟨hrest, rfl⟩, rfl⟩
  rw [render, map_eq_ok_iff]
  constructor
  · rintro ⟨cs, hcs, rfl⟩
    rwa [String.toList_ofList, ← hchars]
  · intro h
    exact ⟨text.toList, hchars.2 h, String.ofList_toList⟩

/-! ## Each line is one line -/

/-- A name that can be written holds no line end. -/
theorem IsName.oneLine {name : String} (h : IsName name) : OneLine name.toList :=
  ⟨fun hmem => absurd (h.plain _ hmem).1 (by decide),
    fun hmem => absurd (h.plain _ hmem).1 (by decide)⟩

theorem oneLine_headerLine {name : String} (h : IsName name) : OneLine (headerLine name) := by
  simp [headerLine, h.oneLine, oneLine_nil]

theorem oneLine_entryLine {e : String × String} (hk : IsKey e.1) (hv : IsValue e.2) :
    OneLine (entryLine e) := by
  simp [entryLine, hk.oneLine, hv.oneLine]

theorem Section.Writable.oneLine {s : Section} (h : s.Writable) :
    ∀ line ∈ sectionLines s, OneLine line := by
  simp only [sectionLines, List.mem_cons, List.mem_map, forall_eq_or_imp]
  refine ⟨oneLine_headerLine h.name, ?_⟩
  rintro _ ⟨e, he, rfl⟩
  exact oneLine_entryLine (h.keys e he) (h.values e he)

/-- **No line of a written file holds a line end.** -/
theorem oneLine_fileLines {sections : List Section} (h : ∀ s ∈ sections, s.Writable) :
    ∀ line ∈ fileLines sections, OneLine line := by
  have hfollowing : ∀ rest, (∀ s ∈ rest, s.Writable) →
      ∀ line ∈ followingLines rest, OneLine line := by
    intro rest hrest line hline
    obtain ⟨s, hs, hmem⟩ := List.mem_flatMap.1 hline
    rcases List.mem_cons.1 hmem with rfl | hmem
    · exact oneLine_nil
    · exact (hrest s hs).oneLine line hmem
  cases sections with
  | nil => simp [fileLines]
  | cons s rest =>
    rw [List.forall_mem_cons] at h
    simp only [fileLines, List.mem_append]
    rintro line (hline | hline)
    · exact h.1.oneLine line hline
    · exact hfollowing rest h.2 line hline

end NetUnits.UnitFile
