import NetUnits.Proofs.UnitFile.Parser
import NetUnits.Proofs.UnitFile.Printer

/-! # Reading back what is written

A written file is read back with the same sections and keys in the same order. Values are trimmed
on the way, which is the one thing that writing does not refuse:

* **`parse_of_render`** — the sections of a written file are the trimmed ones.
* **`parse_render_iff`** — they are the written ones exactly if no value is padded. -/

namespace NetUnits.UnitFile

open NetUnits.Text

/-! ## Single lines -/

/-- A name that can be written begins with a character that is neither blank nor a bracket. -/
theorem IsName.exists_cons {name : String} (h : IsName name) :
    ∃ c cs, name.toList = c :: cs ∧ isBlank c = false ∧ c ≠ '[' := by
  obtain ⟨c, cs, hcs⟩ := List.exists_cons_of_ne_nil h.ne_nil
  have hstart := trimStart_eq_self_iff.1 (trimChars_eq_self_iff.1 h.unpadded).1
  exact ⟨c, cs, hcs, hstart c (by simp [hcs]), (h.plain c (by simp [hcs])).2.1⟩

/-- A header is not padded, whatever its name. -/
theorem trimChars_headerLine (name : String) : trimChars (headerLine name) = headerLine name := by
  rw [trimChars_eq_self_iff, trimStart_eq_self_iff, trimEnd_eq_self_iff]
  refine ⟨fun c hc => ?_, fun c hc => ?_⟩
  · obtain rfl : '[' = c := by simpa [headerLine] using hc
    rfl
  · rw [headerLine, List.getLast?_concat] at hc
    obtain rfl : ']' = c := Option.some.inj hc
    rfl

/-- An entry ends in what is left of its value, or in its equals sign. -/
theorem trimEnd_entryLine (e : String × String) :
    trimEnd (entryLine e) = (e.1.toList ++ [' ']) ++ '=' :: trimEnd (' ' :: e.2.toList) := by
  have hline : entryLine e = (e.1.toList ++ [' ']) ++ '=' :: (' ' :: e.2.toList) := by
    simp [entryLine]
  rw [hline, trimEnd_append_cons isBlank_equals]

/-- An entry begins with its key. -/
theorem trimChars_entryLine {e : String × String} (h : IsName e.1) :
    trimChars (entryLine e) = trimEnd (entryLine e) := by
  obtain ⟨c, cs, hcs, hblank, -⟩ := h.exists_cons
  have hstart : trimStart (entryLine e) = entryLine e := by
    simp [trimStart_eq_self_iff, entryLine, hcs, hblank]
  rw [trimChars, hstart]

/-- **An entry that can be written does not continue on the next line.** -/
theorem isOpen_entryLine {e : String × String} (hv : IsValue e.2) :
    isOpen (entryLine e) = false := by
  have hlast : (trimEnd (entryLine e)).getLast? ≠ some '\\' := by
    rw [trimEnd_entryLine, ← List.singleton_append (l := e.2.toList), trimEnd_append]
    by_cases hnil : trimEnd e.2.toList = []
    · -- nothing is left of the value, so the line ends in its equals sign
      have hspace : trimEnd [' '] = [] := rfl
      rw [if_pos hnil, hspace, List.getLast?_concat]
      decide
    · rw [if_neg hnil, List.getLast?_append_of_ne_nil _ (List.cons_ne_nil _ _),
        ← List.cons_append, List.getLast?_append_of_ne_nil _ hnil]
      exact hv.closed
  simp [isOpen, hlast]

/-- Nor does a header. -/
theorem isOpen_headerLine (name : String) : isOpen (headerLine name) = false := by
  have hend : trimEnd (headerLine name) = headerLine name :=
    (trimChars_eq_self_iff.1 (trimChars_headerLine name)).2
  have hlast : (headerLine name).getLast? = some ']' := by
    rw [headerLine, List.getLast?_concat]
  simp [isOpen, hend, hlast]

/-- The name of a header that can be written is read back. -/
theorem headerName_headerLine {name : String} (h : IsName name) (n : Nat) :
    headerName n (headerLine name) = .ok name := by
  simp [headerName, headerLine, h.unpadded, h.ne_nil]

/-- **Key and value of an entry that can be written are read back**, the value trimmed. -/
theorem entryOf_entryLine {e : String × String} (h : IsKey e.1) (n : Nat) :
    entryOf n (trimEnd (entryLine e)) = .ok (e.1, trim e.2) := by
  have hsplit : splitOnce '=' (trimEnd (entryLine e)) =
      some (e.1.toList ++ [' '], trimEnd (' ' :: e.2.toList)) := by
    -- the key holds no equals sign, so the line is split behind the key
    rw [splitOnce_eq_some_iff]
    exact ⟨trimEnd_entryLine e, by simp [h.no_equals]⟩
  rw [entryOf, hsplit]
  simp only [trimChars_append_singleton isBlank_space, h.unpadded, trimChars_trimEnd,
    trimChars_cons_of_isBlank isBlank_space, String.ofList_toList, trim]

/-- An entry is neither empty nor a comment. -/
theorem isSilent_trimEnd_entryLine {e : String × String} (h : IsKey e.1) :
    isSilent (trimEnd (entryLine e)) = false := by
  obtain ⟨c, cs, hcs, hblank, -⟩ := h.exists_cons
  obtain ⟨hhash, hsemi⟩ := h.no_comment
  rw [hcs, List.head?_cons] at hhash hsemi
  rw [trimEnd_entryLine, hcs]
  simp only [isSilent, isComment, List.cons_append, trimStart_cons, hblank, Bool.false_eq_true,
    if_false, List.isEmpty_cons, Bool.false_or]
  split <;> simp_all

/-! ## Lines in sequence -/

/-- An empty line says nothing. -/
theorem sectionsFrom_empty_line (current : Option Section) (n : Nat) (rest : List (List Char)) :
    sectionsFrom current (joinFrom none n ([] :: rest)) =
      sectionsFrom current (joinFrom none (n + 1) rest) := rfl

/-- A header begins a section. -/
theorem sectionsFrom_headerLine {name : String} (h : IsName name) (current : Option Section)
    (n : Nat) (rest : List (List Char)) :
    sectionsFrom current (joinFrom none n (headerLine name :: rest)) =
      (sectionsFrom (some ⟨name, []⟩) (joinFrom none (n + 1) rest)).map (current.toList ++ ·) := by
  rw [joinFrom_cons_of_not_isOpen (isOpen_headerLine name), sectionsFrom_cons]
  have hsilent : isSilent (headerLine name) = false := rfl
  have hhead : (headerLine name).head? = some '[' := rfl
  simp [trimChars_headerLine, headerName_headerLine h, hsilent, hhead]

/-- An entry is added to the section. -/
theorem sectionsFrom_entryLine {e : String × String} (hk : IsKey e.1) (hv : IsValue e.2)
    (s : Section) (n : Nat) (rest : List (List Char)) :
    sectionsFrom (some s) (joinFrom none n (entryLine e :: rest)) =
      sectionsFrom (some { s with entries := s.entries ++ [(e.1, trim e.2)] })
        (joinFrom none (n + 1) rest) := by
  have hhead : (trimEnd (entryLine e)).head? ≠ some '[' := by
    obtain ⟨c, cs, hcs, -, hne⟩ := hk.exists_cons
    simpa [trimEnd_entryLine, hcs] using hne
  rw [joinFrom_cons_of_not_isOpen (isOpen_entryLine hv), sectionsFrom_cons]
  simp [trimChars_entryLine hk.toIsName, isSilent_trimEnd_entryLine hk, hhead,
    entryOf_entryLine hk]

/-- The entries of a section are added one after the other. -/
theorem sectionsFrom_entryLines {entries : List (String × String)}
    (h : ∀ e ∈ entries, IsKey e.1 ∧ IsValue e.2) (s : Section) (n : Nat)
    (rest : List (List Char)) :
    sectionsFrom (some s) (joinFrom none n (entries.map entryLine ++ rest)) =
      sectionsFrom (some { s with entries := s.entries ++ entries.map fun e => (e.1, trim e.2) })
        (joinFrom none (n + entries.length) rest) := by
  induction entries generalizing s n with
  | nil => simp
  | cons e entries ih =>
    obtain ⟨⟨hk, hv⟩, hrest⟩ := List.forall_mem_cons.1 h
    rw [List.map_cons, List.cons_append, sectionsFrom_entryLine hk hv, ih hrest]
    simp [Nat.add_comm, Nat.add_left_comm]

/-- The lines of a section are read as the trimmed section. -/
theorem sectionsFrom_sectionLines {s : Section} (h : s.Writable) (current : Option Section)
    (n : Nat) (rest : List (List Char)) :
    sectionsFrom current (joinFrom none n (sectionLines s ++ rest)) =
      (sectionsFrom (some s.trimmed)
        (joinFrom none (n + 1 + s.entries.length) rest)).map (current.toList ++ ·) := by
  rw [sectionLines, List.cons_append, sectionsFrom_headerLine h.name,
    sectionsFrom_entryLines fun e he => ⟨h.keys e he, h.values e he⟩]
  rfl

/-- Sections after another one are read as the trimmed sections. -/
theorem sectionsFrom_followingLines {sections : List Section} (h : ∀ s ∈ sections, s.Writable)
    (s : Section) (n : Nat) :
    sectionsFrom (some s) (joinFrom none n (followingLines sections)) =
      .ok (s :: sections.map Section.trimmed) := by
  -- a header closes the section before it, so one section is open all the way
  induction sections generalizing s n with
  | nil => rfl
  | cons t rest ih =>
    obtain ⟨ht, hrest⟩ := List.forall_mem_cons.1 h
    have hlines : followingLines (t :: rest) = [] :: (sectionLines t ++ followingLines rest) := rfl
    rw [hlines, sectionsFrom_empty_line, sectionsFrom_sectionLines ht, ih hrest]
    rfl

/-- **A written file is read back with its values trimmed.** -/
theorem parse_of_render {sections : List Section} {text : String}
    (h : render sections = .ok text) : parse text = .ok (sections.map Section.trimmed) := by
  obtain ⟨hw, htext⟩ := render_eq_ok_iff.1 h
  rw [parse, ← htext, logicalLines, linesOf_joinLines (oneLine_fileLines hw)]
  cases sections with
  | nil => rfl
  | cons s rest =>
    obtain ⟨hs, hrest⟩ := List.forall_mem_cons.1 hw
    rw [fileLines, sectionsFrom_sectionLines hs, sectionsFrom_followingLines hrest]
    rfl

/-! ## When a file reads back as it was written -/

/-- **A written file reads back as it was written exactly if no value is padded.** In any case the
sections, their order, their names and their keys are the same, and values differ by the blanks
around them only. -/
theorem parse_render_iff {sections : List Section} {text : String}
    (h : render sections = .ok text) :
    parse text = .ok (sections.map Section.trimmed) ∧
      (parse text = .ok sections ↔ ∀ s ∈ sections, ∀ e ∈ s.entries, trim e.2 = e.2) := by
  refine ⟨parse_of_render h, ?_⟩
  rw [parse_of_render h, Except.ok.injEq]
  constructor
  · intro heq s hs
    exact Section.trimmed_eq_self_iff.1 (map_eq_self_iff.1 heq s hs)
  · intro hall
    exact map_eq_self_iff.2 fun s hs => Section.trimmed_eq_self_iff.2 (hall s hs)

/-- A file with a repeated section, a repeated key and a backslash inside a value. -/
theorem parse_render_unpadded :
    render [⟨"Route", [("To", "a\\b")]⟩, ⟨"Route", [("To", "c=d"), ("To", "")]⟩] =
        .ok "[Route]\nTo = a\\b\n\n[Route]\nTo = c=d\nTo = \n" ∧
      parse "[Route]\nTo = a\\b\n\n[Route]\nTo = c=d\nTo = \n" =
        .ok [⟨"Route", [("To", "a\\b")]⟩, ⟨"Route", [("To", "c=d"), ("To", "")]⟩] := by
  have hrender : render [⟨"Route", [("To", "a\\b")]⟩, ⟨"Route", [("To", "c=d"), ("To", "")]⟩] =
      .ok "[Route]\nTo = a\\b\n\n[Route]\nTo = c=d\nTo = \n" := by decide +kernel
  exact ⟨hrender, (parse_render_iff hrender).2.2 (by decide)⟩

/-- **A padded value is written, and lost in reading.** -/
theorem parse_render_padded :
    render [⟨"Network", [("Description", "v ")]⟩] = .ok "[Network]\nDescription = v \n" ∧
      parse "[Network]\nDescription = v \n" ≠ .ok [⟨"Network", [("Description", "v ")]⟩] := by
  decide +kernel

end NetUnits.UnitFile
