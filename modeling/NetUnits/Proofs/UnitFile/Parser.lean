import NetUnits.UnitFile.Parser
import NetUnits.Proofs.Except
import NetUnits.Proofs.Lists
import NetUnits.Proofs.Text.Trim

/-! # What is read

Reading goes line by line, and trims every value:

* **`joinFrom_cons_of_not_isOpen`** — a line that is not continued stands for itself.
* **`sectionsFrom_cons`** — what one logical line does.
* **`Section.trimmed`** — a section with its values trimmed; **`Section.Unpadded`** — one that
  trimming leaves alone.
* **`unpadded_of_parse`** — all sections that are read are of this kind. -/

namespace NetUnits.UnitFile

open NetUnits.Text

/-! ## One line -/

/-- A line that is not continued is a logical line of its own. -/
theorem joinFrom_cons_of_not_isOpen {raw : List Char} (h : isOpen raw = false) (n : Nat)
    (rest : List (List Char)) :
    joinFrom none n (raw :: rest) = ⟨n, raw⟩ :: joinFrom none (n + 1) rest := by
  simp [joinFrom_cons, extend, h]

/-- One line says nothing, begins a section, or adds to the section before it. -/
theorem sectionsFrom_cons (current : Option Section) (line : Line) (rest : List Line) :
    sectionsFrom current (line :: rest) =
      if isSilent (trimChars line.text) then sectionsFrom current rest
      else if (trimChars line.text).head? = some '[' then
        match headerName line.number (trimChars line.text) with
        | .error e => .error e
        | .ok name => (sectionsFrom (some ⟨name, []⟩) rest).map (current.toList ++ ·)
      else
        match current with
        | none => .error (.entryOutsideSection line.number (String.ofList (trimChars line.text)))
        | some s =>
          match entryOf line.number (trimChars line.text) with
          | .error e => .error e
          | .ok entry => sectionsFrom (some { s with entries := s.entries ++ [entry] }) rest := by
  rfl

/-! ## Padded values -/

/-- **The section with its values trimmed.** -/
def Section.trimmed (s : Section) : Section :=
  ⟨s.name, s.entries.map fun e => (e.1, trim e.2)⟩

/-- **No value of the section is padded.** -/
def Section.Unpadded (s : Section) : Prop :=
  ∀ e ∈ s.entries, trim e.2 = e.2

/-- Exactly the sections without padded values are left alone. -/
theorem Section.trimmed_eq_self_iff {s : Section} : s.trimmed = s ↔ s.Unpadded := by
  obtain ⟨name, entries⟩ := s
  simp only [trimmed, Unpadded, mk.injEq, true_and, map_eq_self_iff, Prod.ext_iff]

/-- Values are trimmed when an entry is read. -/
theorem trim_of_entryOf {number : Nat} {text : List Char} {entry : String × String}
    (h : entryOf number text = .ok entry) : trim entry.2 = entry.2 := by
  unfold entryOf at h
  split at h
  · obtain rfl := Except.ok.inj h
    simp [trim]
  · simp at h

/-- If the section begun before holds no padded value, no section does. -/
theorem unpadded_of_sectionsFrom {lines : List Line} {current : Option Section}
    {sections : List Section} (h : sectionsFrom current lines = .ok sections)
    (hcur : ∀ s ∈ current.toList, s.Unpadded) : ∀ s ∈ sections, s.Unpadded := by
  induction lines generalizing current sections with
  | nil =>
    obtain rfl := Except.ok.inj h
    exact hcur
  | cons line rest ih =>
    rw [sectionsFrom_cons] at h
    split at h
    · exact ih h hcur
    · split at h
      · split at h
        · simp at h
        · rename_i name _
          -- the section begun before is closed, and the one that begins has no entries yet
          obtain ⟨tail, htail, rfl⟩ := map_eq_ok_iff.1 h
          have hnew : ∀ s ∈ (some (Section.mk name [])).toList, s.Unpadded := by
            simp [Section.Unpadded]
          intro s hs
          rcases List.mem_append.1 hs with hs | hs
          · exact hcur s hs
          · exact ih htail hnew s hs
      · split at h
        · simp at h
        · rename_i s
          split at h
          · simp at h
          · rename_i entry hentry
            -- the open section has one more entry, whose value was trimmed in reading
            refine ih h ?_
            rintro t ht e he
            obtain rfl : t = { s with entries := s.entries ++ [entry] } := by simpa using ht
            rcases List.mem_append.1 he with he | he
            · exact hcur s (by simp) e he
            · obtain rfl : e = entry := by simpa using he
              exact trim_of_entryOf hentry

/-- **No section that is read holds a padded value.** -/
theorem unpadded_of_parse {text : String} {sections : List Section}
    (h : parse text = .ok sections) : ∀ s ∈ sections, s.Unpadded :=
  unpadded_of_sectionsFrom h (by simp)

end NetUnits.UnitFile
