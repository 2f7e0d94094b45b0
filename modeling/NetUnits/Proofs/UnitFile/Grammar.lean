import NetUnits.Proofs.UnitFile.Concatenation

/-! # The grammar of unit files

A trimmed line says nothing, or it is a header or an entry. The grammar lays sections out in lines
of these three kinds, and a text is read exactly as the grammar has it. What is wrong with another
text is wrong with the first of its lines that does not fit:

* **`SaysNothing`**, **`SaysHeader`**, **`SaysEntry`** — the three kinds of lines.
* **`Lays`** — sections laid out in lines; **`sectionsFrom_none_eq_ok_iff`** — these are read.
* **`Offends`** — what is wrong with a line; **`sectionsFrom_eq_error_iff`** — the first such line.
* **`FirstOffence`** — that line, cut out of its text.
* **`parses`** — which texts are read, as what, and what is wrong with the others. -/

namespace NetUnits.UnitFile

open NetUnits.Text

/-! ## What a line says -/

/-- **A line that says nothing**: it is blank, or a comment. -/
def SaysNothing (text : List Char) : Prop :=
  text = [] ∨ text.head? = some '#' ∨ text.head? = some ';'

/-- **A header**: a name that is not blank, between brackets. -/
def SaysHeader (text : List Char) (name : String) : Prop :=
  ∃ inner, text = '[' :: (inner ++ [']']) ∧ trimChars inner ≠ [] ∧
    name = String.ofList (trimChars inner)

/-- **An entry**: a line of another kind, which holds an equals sign. Key and value are the two
sides of the first one, trimmed. -/
def SaysEntry (text : List Char) (entry : String × String) : Prop :=
  ¬SaysNothing text ∧ text.head? ≠ some '[' ∧ ∃ key value, text = key ++ '=' :: value ∧ '=' ∉ key ∧
    entry = (String.ofList (trimChars key), String.ofList (trimChars value))

theorem SaysHeader.head? {text : List Char} {name : String} (h : SaysHeader text name) :
    text.head? = some '[' := by
  obtain ⟨inner, rfl, -⟩ := h
  rfl

/-- No header says nothing. -/
theorem not_saysNothing_of_head? {text : List Char} (h : text.head? = some '[') :
    ¬SaysNothing text := by
  rintro (rfl | hhash | hsemicolon)
  · simp at h
  · simp [h] at hhash
  · simp [h] at hsemicolon

/-- A trimmed line is passed over exactly if it says nothing. -/
theorem isSilent_iff (text : List Char) :
    isSilent (trimChars text) = true ↔ SaysNothing (trimChars text) := by
  have hstart : trimStart (trimChars text) = trimChars text :=
    (trimChars_eq_self_iff.1 (trimChars_trimChars text)).1
  rw [isSilent, isComment, hstart, Bool.or_eq_true, List.isEmpty_iff, SaysNothing]
  cases trimChars text with
  | nil => simp
  | cons c cs =>
    by_cases hhash : c = '#'
    · simp [hhash]
    · by_cases hsemicolon : c = ';'
      · simp [hsemicolon]
      · split <;> simp_all

theorem headerName_eq_ok_iff {n : Nat} {text : List Char} {name : String} :
    headerName n text = .ok name ↔ SaysHeader text name := by
  unfold headerName SaysHeader
  split
  · rename_i inner
    by_cases hlast : inner.getLast? = some ']'
    · obtain ⟨front, rfl⟩ := List.getLast?_eq_some_iff.1 hlast
      simp only [hlast, if_true, List.dropLast_concat, List.isEmpty_iff, ite_error_eq_ok_iff,
        Except.ok.injEq, List.cons.injEq, true_and]
      constructor
      · rintro ⟨hne, rfl⟩
        exact ⟨front, rfl, hne, rfl⟩
      · rintro ⟨inner, heq, hne, rfl⟩
        obtain rfl := List.append_cancel_right heq
        exact ⟨hne, rfl⟩
    · rw [if_neg hlast]
      refine ⟨fun h => (nomatch h), ?_⟩
      rintro ⟨front, heq, -⟩
      obtain rfl := (List.cons.inj heq).2
      exact absurd (List.getLast?_concat ..) hlast
  · rename_i hbracket
    refine ⟨fun h => (nomatch h), ?_⟩
    rintro ⟨front, rfl, -⟩
    exact absurd rfl (hbracket _)

theorem entryOf_eq_ok_iff {n : Nat} {text : List Char} {entry : String × String}
    (hspeaks : ¬SaysNothing text) (hbracket : text.head? ≠ some '[') :
    entryOf n text = .ok entry ↔ SaysEntry text entry := by
  have hsplit : entryOf n text = .ok entry ↔ ∃ key value, splitOnce '=' text = some (key, value) ∧
      entry = (String.ofList (trimChars key), String.ofList (trimChars value)) := by
    unfold entryOf
    cases splitOnce '=' text with
    | none => simp
    | some sides =>
      obtain ⟨key, value⟩ := sides
      simp [eq_comm]
  simp only [hsplit, splitOnce_eq_some_iff, SaysEntry, hspeaks, hbracket, not_false_eq_true, ne_eq,
    true_and, and_assoc]

/-! ## Sections laid out in lines -/

/-- **Sections laid out in lines**: each header begins a section, which holds the entries up to the
next header. The entries before the first header continue a section that was begun earlier. -/
inductive Lays : List (List Char) → List (String × String) → List Section → Prop where
  /-- Without lines there is nothing. -/
  | nil : Lays [] [] []
  /-- Blank lines and comments leave everything as it is. -/
  | silent {text texts entries sections} (line : SaysNothing text)
      (rest : Lays texts entries sections) : Lays (text :: texts) entries sections
  /-- An entry comes before those after it. -/
  | entry {text entry texts entries sections} (line : SaysEntry text entry)
      (rest : Lays texts entries sections) : Lays (text :: texts) (entry :: entries) sections
  /-- A header takes the entries up to the next header for its section. -/
  | header {text name texts entries sections} (line : SaysHeader text name)
      (rest : Lays texts entries sections) : Lays (text :: texts) [] (⟨name, entries⟩ :: sections)

@[simp] theorem lays_nil_iff {entries : List (String × String)} {sections : List Section} :
    Lays [] entries sections ↔ entries = [] ∧ sections = [] := by
  constructor
  · intro h
    cases h
    exact ⟨rfl, rfl⟩
  · rintro ⟨rfl, rfl⟩
    exact .nil

section Cons

variable {text : List Char} {texts : List (List Char)} {entries : List (String × String)}
  {sections : List Section}

theorem lays_cons_iff_of_saysNothing (h : SaysNothing text) :
    Lays (text :: texts) entries sections ↔ Lays texts entries sections := by
  refine ⟨fun hlays => ?_, .silent h⟩
  cases hlays with
  | silent _ rest => exact rest
  | entry line _ => exact absurd h line.1
  | header line _ => exact absurd h (not_saysNothing_of_head? line.head?)

theorem lays_cons_iff_of_head? (h : text.head? = some '[') :
    Lays (text :: texts) entries sections ↔ entries = [] ∧ ∃ name own others,
      SaysHeader text name ∧ Lays texts own others ∧ sections = ⟨name, own⟩ :: others := by
  constructor
  · intro hlays
    cases hlays with
    | silent line _ => exact absurd line (not_saysNothing_of_head? h)
    | entry line _ => exact absurd h line.2.1
    | header line rest => exact ⟨rfl, _, _, _, line, rest, rfl⟩
  · rintro ⟨rfl, name, own, others, line, rest, rfl⟩
    exact .header line rest

theorem lays_cons_iff_of_entry (hspeaks : ¬SaysNothing text) (h : text.head? ≠ some '[') :
    Lays (text :: texts) entries sections ↔ ∃ entry others,
      entries = entry :: others ∧ SaysEntry text entry ∧ Lays texts others sections := by
  constructor
  · intro hlays
    cases hlays with
    | silent line _ => exact absurd line hspeaks
    | entry line rest => exact ⟨_, _, rfl, line, rest⟩
    | header line _ => exact absurd line.head? h
  · rintro ⟨entry, others, rfl, line, rest⟩
    exact .entry line rest

end Cons

/-- The trimmed texts of lines. -/
def textsOf (lines : List Line) : List (List Char) :=
  lines.map fun line => trimChars line.text

@[simp] theorem textsOf_cons (line : Line) (lines : List Line) :
    textsOf (line :: lines) = trimChars line.text :: textsOf lines := rfl

section Step

variable {current : Option Section} {line : Line} {lines : List Line} {sections : List Section}

/-- A line that says nothing is passed over. -/
theorem sectionsFrom_cons_of_saysNothing (h : SaysNothing (trimChars line.text)) :
    sectionsFrom current (line :: lines) = sectionsFrom current lines := by
  rw [sectionsFrom_cons, if_pos ((isSilent_iff _).2 h)]

/-- A header is read if it is one, and the lines after it are read for its section. -/
theorem sectionsFrom_cons_eq_ok_iff_of_head? (h : (trimChars line.text).head? = some '[') :
    sectionsFrom current (line :: lines) = .ok sections ↔
      ∃ name tail, SaysHeader (trimChars line.text) name ∧
        sectionsFrom (some ⟨name, []⟩) lines = .ok tail ∧ sections = current.toList ++ tail := by
  rw [sectionsFrom_cons, if_neg (mt (isSilent_iff _).1 (not_saysNothing_of_head? h)), if_pos h]
  simp only [← headerName_eq_ok_iff (n := line.number)]
  cases headerName line.number (trimChars line.text) with
  | error e => simp
  | ok name => simp [map_eq_ok_iff, @eq_comm _ sections]

/-- An entry is read if it is one and a section was begun, and the lines after it with it. -/
theorem sectionsFrom_cons_eq_ok_iff_of_entry (hspeaks : ¬SaysNothing (trimChars line.text))
    (h : (trimChars line.text).head? ≠ some '[') :
    sectionsFrom current (line :: lines) = .ok sections ↔
      ∃ s entry, current = some s ∧ SaysEntry (trimChars line.text) entry ∧
        sectionsFrom (some ⟨s.name, s.entries ++ [entry]⟩) lines = .ok sections := by
  rw [sectionsFrom_cons, if_neg (mt (isSilent_iff _).1 hspeaks), if_neg h]
  simp only [← entryOf_eq_ok_iff (n := line.number) hspeaks h]
  cases current with
  | none => simp
  | some s =>
    cases entryOf line.number (trimChars line.text) with
    | error e => simp
    | ok entry => simp

end Step

/-- **After a section was begun**, the lines add their first entries to it and lay out the sections
that follow. -/
theorem sectionsFrom_some_eq_ok_iff {s : Section} {lines : List Line} {sections : List Section} :
    sectionsFrom (some s) lines = .ok sections ↔ ∃ entries others,
      Lays (textsOf lines) entries others ∧
        sections = ⟨s.name, s.entries ++ entries⟩ :: others := by
  induction lines generalizing s sections with
  | nil => simp [textsOf, eq_comm]
  | cons line lines ih =>
    rw [textsOf_cons]
    by_cases hsilent : SaysNothing (trimChars line.text)
    · rw [sectionsFrom_cons_of_saysNothing hsilent, ih]
      simp only [lays_cons_iff_of_saysNothing hsilent]
    · by_cases hheader : (trimChars line.text).head? = some '['
      · simp only [sectionsFrom_cons_eq_ok_iff_of_head? hheader, lays_cons_iff_of_head? hheader, ih]
        constructor
        · rintro ⟨name, _, hname, ⟨own, others, hlays, rfl⟩, rfl⟩
          exact ⟨[], _, ⟨rfl, name, own, others, hname, hlays, rfl⟩, by simp⟩
        · rintro ⟨_, _, ⟨rfl, name, own, others, hname, hlays, rfl⟩, rfl⟩
          exact ⟨name, _, hname, ⟨own, others, hlays, rfl⟩, by simp⟩
      · simp only [sectionsFrom_cons_eq_ok_iff_of_entry hsilent hheader,
          lays_cons_iff_of_entry hsilent hheader, ih]
        constructor
        · rintro ⟨_, entry, ⟨⟩, hentry, entries, others, hlays, rfl⟩
          exact ⟨entry :: entries, others, ⟨entry, entries, rfl, hentry, hlays⟩, by simp⟩
        · rintro ⟨_, others, ⟨entry, entries, rfl, hentry, hlays⟩, rfl⟩
          exact ⟨s, entry, rfl, hentry, entries, others, hlays, by simp⟩

/-- **What is read are the sections that the lines lay out**, without an entry before the first. -/
theorem sectionsFrom_none_eq_ok_iff {lines : List Line} {sections : List Section} :
    sectionsFrom none lines = .ok sections ↔ Lays (textsOf lines) [] sections := by
  induction lines with
  | nil => simp [textsOf, eq_comm]
  | cons line lines ih =>
    rw [textsOf_cons]
    by_cases hsilent : SaysNothing (trimChars line.text)
    · rw [sectionsFrom_cons_of_saysNothing hsilent, ih, lays_cons_iff_of_saysNothing hsilent]
    · by_cases hheader : (trimChars line.text).head? = some '['
      · simp only [sectionsFrom_cons_eq_ok_iff_of_head? hheader, lays_cons_iff_of_head? hheader,
          sectionsFrom_some_eq_ok_iff]
        constructor
        · rintro ⟨name, _, hname, ⟨own, others, hlays, rfl⟩, rfl⟩
          exact ⟨trivial, name, own, others, hname, hlays, rfl⟩
        · rintro ⟨-, name, own, others, hname, hlays, rfl⟩
          exact ⟨name, _, hname, ⟨own, others, hlays, rfl⟩, rfl⟩
      · -- an entry needs a section that was begun before it
        rw [sectionsFrom_cons_eq_ok_iff_of_entry hsilent hheader,
          lays_cons_iff_of_entry hsilent hheader]
        simp

/-! ## Which lines lay out sections -/

/-- **A line of the grammar.** -/
def IsLine (text : List Char) : Prop :=
  SaysNothing text ∨ (∃ name, SaysHeader text name) ∨ ∃ entry, SaysEntry text entry

/-- Lines of the grammar lay out something. -/
theorem exists_lays_iff {texts : List (List Char)} :
    (∃ entries sections, Lays texts entries sections) ↔ ∀ text ∈ texts, IsLine text := by
  constructor
  · rintro ⟨entries, sections, h⟩
    induction h with
    | nil => simp
    | silent line _ ih => exact List.forall_mem_cons.2 ⟨.inl line, ih⟩
    | entry line _ ih => exact List.forall_mem_cons.2 ⟨.inr (.inr ⟨_, line⟩), ih⟩
    | header line _ ih => exact List.forall_mem_cons.2 ⟨.inr (.inl ⟨_, line⟩), ih⟩
  · intro h
    induction texts with
    | nil => exact ⟨[], [], .nil⟩
    | cons text texts ih =>
      obtain ⟨htext, htexts⟩ := List.forall_mem_cons.1 h
      obtain ⟨entries, sections, hlays⟩ := ih htexts
      rcases htext with hnothing | ⟨name, hheader⟩ | ⟨entry, hentry⟩
      · exact ⟨entries, sections, .silent hnothing hlays⟩
      · exact ⟨[], _, .header hheader hlays⟩
      · exact ⟨_, sections, .entry hentry hlays⟩

/-- **Every line that says something is a header, or has one before it.** -/
def Headed (texts : List (List Char)) : Prop :=
  ∀ before text after, texts = before ++ text :: after →
    SaysNothing text ∨ ∃ header ∈ before ++ [text], ∃ name, SaysHeader header name

/-- No entry is laid out before the first header exactly if all that say something are headed. -/
theorem Lays.headed_iff {texts : List (List Char)} {entries : List (String × String)}
    {sections : List Section} (h : Lays texts entries sections) :
    Headed texts ↔ entries = [] := by
  induction h with
  | nil => simp [Headed]
  | @silent text texts entries sections line _ ih =>
    rw [← ih]
    constructor
    · intro hheaded before next after heq
      rcases hheaded (text :: before) next after (by rw [heq]; rfl) with
        hnothing | ⟨header, hmem, name, hheader⟩
      · exact .inl hnothing
      · refine .inr ⟨header, ?_, name, hheader⟩
        rcases List.mem_cons.1 hmem with rfl | hmem
        · exact absurd line (not_saysNothing_of_head? hheader.head?)
        · exact hmem
    · intro hheaded before next after heq
      cases before with
      | nil =>
        obtain ⟨rfl, -⟩ := List.cons.inj heq
        exact .inl line
      | cons first before =>
        obtain ⟨rfl, htexts⟩ := List.cons.inj heq
        rcases hheaded before next after htexts with hnothing | ⟨header, hmem, hheader⟩
        · exact .inl hnothing
        · exact .inr ⟨header, List.mem_cons_of_mem _ hmem, hheader⟩
  | @entry text entry texts entries sections line _ _ =>
    refine ⟨fun hheaded => ?_, fun hnil => absurd hnil (List.cons_ne_nil _ _)⟩
    -- the entry itself is neither silent nor headed
    rcases hheaded [] text texts rfl with hnothing | ⟨header, hmem, name, hheader⟩
    · exact absurd hnothing line.1
    · obtain rfl : header = text := by simpa using hmem
      exact absurd hheader.head? line.2.1
  | @header text name texts entries sections line _ _ =>
    refine ⟨fun _ => rfl, fun _ before next after heq => .inr ⟨text, ?_, name, line⟩⟩
    cases before with
    | nil => simpa using (List.cons.inj heq).1
    | cons first before =>
      rw [(List.cons.inj heq).1]
      exact List.mem_cons_self

/-- **Lines lay out sections alone** exactly if they are of the grammar and headed. -/
theorem exists_lays_nil_iff {texts : List (List Char)} :
    (∃ sections, Lays texts [] sections) ↔ (∀ text ∈ texts, IsLine text) ∧ Headed texts := by
  constructor
  · rintro ⟨sections, h⟩
    exact ⟨exists_lays_iff.1 ⟨[], sections, h⟩, h.headed_iff.2 rfl⟩
  · rintro ⟨hlines, hheaded⟩
    obtain ⟨entries, sections, h⟩ := exists_lays_iff.2 hlines
    obtain rfl := h.headed_iff.1 hheaded
    exact ⟨sections, h⟩

/-! ## The first offending line -/

/-- **What is wrong with a line**, with a header before it or without. -/
inductive Offends (headed : Bool) (n : Nat) (text : List Char) : Error → Prop where
  /-- It begins like a header, and does not end like one. -/
  | unterminated (bracket : text.head? = some '[')
      (unclosed : ∀ inner, text ≠ '[' :: (inner ++ [']'])) :
      Offends headed n text (.unterminatedHeader n (String.ofList text))
  /-- It is a header with a blank name. -/
  | nameless {inner} (header : text = '[' :: (inner ++ [']'])) (blank : trimChars inner = []) :
      Offends headed n text (.emptyHeader n)
  /-- It stands before the first header. -/
  | outside (speaks : ¬SaysNothing text) (bracket : text.head? ≠ some '[')
      (first : headed = false) : Offends headed n text (.entryOutsideSection n (String.ofList text))
  /-- It stands where an entry should be, and holds no equals sign. -/
  | separator (speaks : ¬SaysNothing text) (bracket : text.head? ≠ some '[') (later : headed = true)
      (equals : '=' ∉ text) : Offends headed n text (.missingSeparator n (String.ofList text))

section Kinds

variable {headed : Bool} {n : Nat} {text : List Char} {e : Error}

/-- A line that says nothing does not offend. -/
theorem not_offends_of_saysNothing (h : SaysNothing text) : ¬Offends headed n text e := by
  intro hoffends
  cases hoffends with
  | unterminated bracket _ => exact not_saysNothing_of_head? bracket h
  | nameless header _ => exact not_saysNothing_of_head? (by rw [header]; rfl) h
  | outside speaks _ _ => exact speaks h
  | separator speaks _ _ _ => exact speaks h

/-- A line that begins like a header offends by its end or its name, wherever it stands. -/
theorem offends_iff_of_head? (h : text.head? = some '[') :
    Offends headed n text e ↔
      ((∀ inner, text ≠ '[' :: (inner ++ [']'])) ∧
        e = .unterminatedHeader n (String.ofList text)) ∨
      ∃ inner, text = '[' :: (inner ++ [']']) ∧ trimChars inner = [] ∧ e = .emptyHeader n := by
  constructor
  · intro hoffends
    cases hoffends with
    | unterminated _ unclosed => exact .inl ⟨unclosed, rfl⟩
    | nameless header blank => exact .inr ⟨_, header, blank, rfl⟩
    | outside _ bracket _ => exact absurd h bracket
    | separator _ bracket _ _ => exact absurd h bracket
  · rintro (⟨unclosed, rfl⟩ | ⟨inner, header, blank, rfl⟩)
    · exact .unterminated h unclosed
    · exact .nameless header blank

/-- Any other line that says something offends by its place, or as an entry. -/
theorem offends_iff_of_entry (hspeaks : ¬SaysNothing text) (h : text.head? ≠ some '[') :
    Offends headed n text e ↔
      (headed = false ∧ e = .entryOutsideSection n (String.ofList text)) ∨
      (headed = true ∧ '=' ∉ text ∧ e = .missingSeparator n (String.ofList text)) := by
  constructor
  · intro hoffends
    cases hoffends with
    | unterminated bracket _ => exact absurd bracket h
    | nameless header _ => exact absurd (by rw [header]; rfl) h
    | outside _ _ first => exact .inl ⟨first, rfl⟩
    | separator _ _ later equals => exact .inr ⟨later, equals, rfl⟩
  · rintro (⟨first, rfl⟩ | ⟨later, equals, rfl⟩)
    · exact .outside hspeaks h first
    · exact .separator hspeaks h later equals

theorem headerName_eq_error_iff (headed : Bool) (h : text.head? = some '[') :
    headerName n text = .error e ↔ Offends headed n text e := by
  rw [offends_iff_of_head? h]
  obtain ⟨inner, rfl⟩ : ∃ inner, text = '[' :: inner := by
    cases text with
    | nil => exact nomatch h
    | cons c inner => exact ⟨inner, by simpa using h⟩
  by_cases hlast : inner.getLast? = some ']'
  · obtain ⟨front, rfl⟩ := List.getLast?_eq_some_iff.1 hlast
    have hinner : ∀ inner, '[' :: (front ++ [']']) = '[' :: (inner ++ [']']) ↔ front = inner := by
      simp
    simp only [headerName, hlast, if_true, List.dropLast_concat, List.isEmpty_iff, hinner]
    by_cases hblank : trimChars front = [] <;> simp [hblank, eq_comm]
  · have hopen : ∀ front, '[' :: inner ≠ '[' :: (front ++ [']']) := fun front heq => by
      obtain rfl := (List.cons.inj heq).2
      exact hlast (List.getLast?_concat ..)
    simp [headerName, hlast, hopen, @eq_comm _ e]

theorem entryOf_eq_error_iff (hspeaks : ¬SaysNothing text) (h : text.head? ≠ some '[') :
    entryOf n text = .error e ↔ Offends true n text e := by
  rw [offends_iff_of_entry hspeaks h, ← splitOnce_eq_none_iff]
  unfold entryOf
  cases splitOnce '=' text with
  | none => simp [eq_comm]
  | some sides => simp

end Kinds

/-- **One line is refused exactly if it offends.** -/
theorem sectionsFrom_singleton_eq_error_iff {current : Option Section} {line : Line} {e : Error} :
    sectionsFrom current [line] = .error e ↔
      Offends current.isSome line.number (trimChars line.text) e := by
  by_cases hsilent : SaysNothing (trimChars line.text)
  · rw [sectionsFrom_cons_of_saysNothing hsilent]
    exact ⟨fun h => (nomatch h), fun h => absurd h (not_offends_of_saysNothing hsilent)⟩
  · rw [sectionsFrom_cons, if_neg (mt (isSilent_iff _).1 hsilent)]
    by_cases hheader : (trimChars line.text).head? = some '['
    · rw [if_pos hheader, ← headerName_eq_error_iff current.isSome hheader]
      cases headerName line.number (trimChars line.text) with
      | error e' => simp
      | ok name => exact ⟨fun h => (nomatch h), fun h => (nomatch h)⟩
    · rw [if_neg hheader]
      cases current with
      | none =>
        rw [offends_iff_of_entry hsilent hheader]
        simp [eq_comm]
      | some s =>
        rw [Option.isSome_some, ← entryOf_eq_error_iff hsilent hheader]
        cases entryOf line.number (trimChars line.text) with
        | error e' => simp
        | ok entry => exact ⟨fun h => (nomatch h), fun h => (nomatch h)⟩

/-- **What is wrong with lines is wrong with the first that offends.** -/
theorem sectionsFrom_eq_error_iff {current : Option Section} {lines : List Line} {e : Error} :
    sectionsFrom current lines = .error e ↔ ∃ before line after sections,
      lines = before ++ line :: after ∧ sectionsFrom current before = .ok sections ∧
        Offends (!sections.isEmpty) line.number (trimChars line.text) e := by
  have hheaded : ∀ sections : List Section, sections.getLast?.isSome = !sections.isEmpty := by
    intro sections
    cases sections <;> simp
  constructor
  · intro h
    -- the last line offends, or one of those before it
    induction lines using List.reverseRecOn with
    | nil => exact nomatch h
    | append_singleton lines line ih =>
      rw [sectionsFrom_append] at h
      cases hread : sectionsFrom current lines with
      | error e' =>
        obtain rfl : e' = e := by simpa [hread, Except.bind] using h
        obtain ⟨before, first, after, sections, rfl, hbefore, hoffends⟩ := ih hread
        exact ⟨before, first, after ++ [line], sections, by simp, hbefore, hoffends⟩
      | ok sections =>
        refine ⟨lines, line, [], sections, rfl, hread, ?_⟩
        rw [← hheaded, ← sectionsFrom_singleton_eq_error_iff]
        rw [hread] at h
        cases hline : sectionsFrom sections.getLast? [line] with
        | error e' => simpa [Except.bind, Except.map, hline] using h
        | ok others => simp [Except.bind, Except.map, hline] at h
  · rintro ⟨before, line, after, sections, rfl, hbefore, hoffends⟩
    rw [← hheaded, ← sectionsFrom_singleton_eq_error_iff] at hoffends
    have hfirst : sectionsFrom sections.getLast? (line :: after) = .error e := by
      rw [← List.singleton_append, sectionsFrom_append, hoffends]
      rfl
    rw [sectionsFrom_append, hbefore]
    simp [Except.bind, Except.map, hfirst]

/-! ## The place of the first offending line -/

/-- **The first offending line in its text**, which is cut before the line and after it. -/
structure FirstOffence (text : String) (e : Error) (line : Line) (before own after : String) :
    Prop where
  /-- The text is cut in three. -/
  text_eq : text = before ++ own ++ after
  /-- The first cut is in front of a physical line. -/
  isWhole : IsWhole before.toList
  /-- The number of the line is that of this physical line. -/
  number_eq : line.number = (linesOf before.toList).length + 1
  /-- The line comes after the logical lines before it, and stands alone between the cuts. -/
  logicalLines_own : logicalLines (before ++ own).toList = logicalLines before.toList ++ [line]
  /-- It is a logical line of the whole text as well. -/
  logicalLines_text : ∃ rest,
    logicalLines text.toList = logicalLines before.toList ++ line :: rest
  /-- What stands before it can be read, and what is wrong with the line is what is wrong. -/
  offends : ∃ sections, parse before = .ok sections ∧
    Offends (!sections.isEmpty) line.number (trimChars line.text) e
  /-- Whatever else stands after it, nothing changes. -/
  unaffected : after ≠ "" → ∀ other, parse (before ++ own ++ other) = .error e

/-- Each logical line is made of one of the parts. -/
theorem exists_parts_of_numbered {n : Nat} {parts : List (List (List Char))}
    {before after : List Line} {line : Line} (h : numbered n parts = before ++ line :: after) :
    ∃ as part bs, parts = as ++ part :: bs ∧ before = numbered n as ∧
      line = ⟨n + as.flatten.length, finishedText part⟩ := by
  induction before generalizing n parts with
  | nil =>
    cases parts with
    | nil => exact absurd h.symm (List.cons_ne_nil _ _)
    | cons part parts =>
      rw [numbered_cons] at h
      exact ⟨[], part, parts, rfl, rfl, (List.cons.inj h).1.symm⟩
  | cons first before ih =>
    cases parts with
    | nil => exact absurd h.symm (List.cons_ne_nil _ _)
    | cons part parts =>
      rw [numbered_cons] at h
      obtain ⟨rfl, hrest⟩ := List.cons.inj h
      obtain ⟨as, next, bs, rfl, rfl, rfl⟩ := ih hrest
      refine ⟨part :: as, next, bs, rfl, rfl, ?_⟩
      rw [List.flatten_cons, List.length_append, Nat.add_assoc]

/-- **A text is cut around any of its logical lines**: in front of its first physical line, and
after its last one, unless the text ends there. -/
theorem exists_cuts {text : List Char} {as bs : List (List (List Char))} {part : List (List Char)}
    (h : logicalParts text = as ++ part :: bs) :
    ∃ before own after, text = before ++ own ++ after ∧ IsWhole before ∧
      logicalParts before = as ∧ linesOf before = as.flatten ∧
      logicalParts (before ++ own) = as ++ [part] ∧
      (after ≠ [] → IsWhole (before ++ own) ∧ leftOpen (before ++ own) = false) := by
  have hdivision : Division readsOn (linesOf text) (as ++ part :: bs) :=
    h ▸ division_divide (linesOf text)
  have hraws : linesOf text = as.flatten ++ (part ++ bs.flatten) := by
    rw [← hdivision.flatten_eq]
    simp
  have hpart : part ≠ [] := hdivision.ne_nil part (by simp)
  obtain ⟨before, tail, rfl, hwhole, hbefore, htail⟩ := exists_cut hraws (by simp [hpart])
  -- behind the last logical line there is nothing to cut off
  obtain ⟨own, after, rfl, hown, hafter⟩ : ∃ own after, tail = own ++ after ∧ linesOf own = part ∧
      (after ≠ [] → IsWhole own ∧ bs ≠ []) := by
    by_cases hbs : bs.flatten = []
    · exact ⟨tail, [], by simp, by rw [htail, hbs, List.append_nil], fun hnil => absurd rfl hnil⟩
    · obtain ⟨own, after, rfl, hownWhole, hown, -⟩ := exists_cut htail hbs
      exact ⟨own, after, rfl, hown, fun _ => ⟨hownWhole, fun hnil => hbs (by rw [hnil]; rfl)⟩⟩
  have hboth : logicalParts (before ++ own) = as ++ [part] := by
    have hfirst : Division readsOn (as ++ [part]).flatten (as ++ [part]) := by
      have hall : Division readsOn (linesOf (before ++ (own ++ after))) ((as ++ [part]) ++ bs) := by
        rwa [List.append_assoc]
      exact hall.of_append
    rw [logicalParts, hwhole.linesOf_append, hbefore, hown, hfirst.eq_divide]
    simp
  refine ⟨before, own, after, by rw [List.append_assoc], hwhole, ?_, hbefore, hboth,
    fun hne => ?_⟩
  · rw [logicalParts, hbefore]
    exact hdivision.of_append.eq_divide.symm
  · obtain ⟨hownWhole, hbs⟩ := hafter hne
    refine ⟨hwhole.append hownWhole, ?_⟩
    -- the line was followed by another one, so it does not wait for more
    rw [leftOpen, hboth, List.getLast?_concat, Option.any_some]
    refine hdivision.ended part ?_
    rw [List.dropLast_append_of_ne_nil (List.cons_ne_nil _ _), List.dropLast_cons_of_ne_nil hbs]
    exact List.mem_append_right _ List.mem_cons_self

/-- **A text that cannot be read has a first offending line.** -/
theorem exists_firstOffence {text : String} {e : Error} (h : parse text = .error e) :
    ∃ line before own after, FirstOffence text e line before own after := by
  obtain ⟨first, line, rest, sections, hlines, hread, hoffends⟩ := sectionsFrom_eq_error_iff.1 h
  rw [logicalLines_eq] at hlines
  obtain ⟨as, part, bs, hparts, rfl, hline⟩ := exists_parts_of_numbered hlines
  obtain ⟨before, own, after, htext, hstart, hbefore, hraws, hboth, hclosed⟩ := exists_cuts hparts
  have hfirst : logicalLines before = numbered 1 as := by rw [logicalLines_eq, hbefore]
  have hown : logicalLines (before ++ own) = numbered 1 as ++ [line] := by
    rw [logicalLines_eq, hboth, numbered_append, hline]
    rfl
  refine ⟨line, String.ofList before, String.ofList own, String.ofList after,
    ?_, ?_, ?_, ?_, ?_, ?_, ?_⟩
  · rw [← String.ofList_append, ← String.ofList_append, ← htext, String.ofList_toList]
  · rwa [String.toList_ofList]
  · rw [String.toList_ofList, hraws, hline, Nat.add_comm]
  · rw [String.toList_append, String.toList_ofList, String.toList_ofList, hown, hfirst]
  · refine ⟨rest, ?_⟩
    rw [logicalLines_eq, hlines, String.toList_ofList, hfirst]
  · refine ⟨sections, ?_, hoffends⟩
    rw [parse, String.toList_ofList, hfirst, hread]
  · intro hafter other
    obtain ⟨hwhole, hclosed⟩ := hclosed fun hnil => hafter (congrArg String.ofList hnil)
    have hother : logicalLines (String.ofList before ++ String.ofList own ++ other).toList =
        numbered 1 as ++ line ::
          (logicalLines other.toList).map (Line.shifted (linesOf (before ++ own)).length) := by
      rw [String.toList_append, String.toList_append, String.toList_ofList, String.toList_ofList,
        logicalLines_append hwhole hclosed, hown, List.append_assoc, List.singleton_append]
    exact sectionsFrom_eq_error_iff.2 ⟨_, line, _, sections, hother, hread, hoffends⟩

/-- What is wrong with the first offending line is wrong with the text. -/
theorem FirstOffence.parse_eq {text : String} {e : Error} {line : Line} {before own after : String}
    (h : FirstOffence text e line before own after) : parse text = .error e := by
  obtain ⟨rest, hlines⟩ := h.logicalLines_text
  obtain ⟨sections, hread, hoffends⟩ := h.offends
  exact sectionsFrom_eq_error_iff.2 ⟨_, line, rest, sections, hlines, hread, hoffends⟩

/-! ## Main result -/

/-- **Which texts are read, and as what.** A text is read as the sections that its logical lines lay
out. It can be read exactly if each logical line, trimmed, is blank, a comment, a header, or an
entry that does not begin like a header, and no line that says something stands before the first
header. What is wrong with any other text is wrong with its first offending line. -/
theorem parses (text : String) :
    (∀ sections, parse text = .ok sections ↔
      Lays (textsOf (logicalLines text.toList)) [] sections) ∧
    ((∃ sections, parse text = .ok sections) ↔
      (∀ line ∈ textsOf (logicalLines text.toList), IsLine line) ∧
        Headed (textsOf (logicalLines text.toList))) ∧
    (∀ e, parse text = .error e ↔
      ∃ line before own after, FirstOffence text e line before own after) := by
  have hread : ∀ sections, parse text = .ok sections ↔
      Lays (textsOf (logicalLines text.toList)) [] sections :=
    fun sections => sectionsFrom_none_eq_ok_iff
  refine ⟨hread, ?_, fun e => ⟨exists_firstOffence, ?_⟩⟩
  · rw [← exists_lays_nil_iff]
    exact exists_congr hread
  · rintro ⟨line, before, own, after, h⟩
    exact h.parse_eq

/-- **A line that begins like a header is none else**: it holds an equals sign and has a header
before it, and is no entry all the same. -/
theorem not_parses_bracket :
    let text := "[A]\n[x=1\n"
    (∀ line ∈ textsOf (logicalLines text.toList),
      SaysNothing line ∨ (∃ name, SaysHeader line name) ∨ '=' ∈ line) ∧
      Headed (textsOf (logicalLines text.toList)) ∧
      parse text = .error (.unterminatedHeader 2 "[x=1") := by
  intro text
  have htexts : textsOf (logicalLines text.toList) = ["[A]".toList, "[x=1".toList] := by
    decide +kernel
  have hheader : SaysHeader "[A]".toList "A" := ⟨['A'], by decide, by decide, by decide +kernel⟩
  rw [htexts]
  refine ⟨?_, ?_, by decide +kernel⟩
  · simp only [List.forall_mem_cons, List.not_mem_nil, false_implies, implies_true, and_true]
    exact ⟨.inr (.inl ⟨"A", hheader⟩), .inr (.inr (by decide))⟩
  · intro before line after heq
    refine .inr ⟨"[A]".toList, ?_, "A", hheader⟩
    cases before with
    | nil => simpa using (List.cons.inj heq).1
    | cons first before =>
      rw [← (List.cons.inj heq).1]
      exact List.mem_cons_self

end NetUnits.UnitFile
