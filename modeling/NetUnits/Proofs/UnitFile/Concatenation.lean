import NetUnits.Proofs.Text.Lines
import NetUnits.Proofs.UnitFile.Joining
import NetUnits.Proofs.UnitFile.Parser

/-! # Texts in sequence

A text can be read in two pieces if the first ends where a logical line ends. What the first piece
leaves behind is its last section, and the second one begins with a header, so the sections of both
follow one another; a fault of the second piece is found again that many lines further down:

* **`leftOpen`** — whether the last logical line of a text waits for more.
* **`logicalLines_append`** — the logical lines of two texts in sequence.
* **`sectionsFrom_append`** — reading lines in two steps.
* **`parse_append`** — the sections, or the fault, of two texts in sequence. -/

namespace NetUnits.UnitFile

open NetUnits.Text

/-! ## Logical lines in sequence -/

/-- **Whether the last logical line of a text is left open**: it ends in a backslash, and there is
no line to join. -/
def leftOpen (text : List Char) : Bool :=
  (logicalParts text).getLast?.any readsOn

/-- The line some lines further down. -/
def Line.shifted (k : Nat) (line : Line) : Line :=
  ⟨line.number + k, line.text⟩

/-- The first physical line may have any number. -/
theorem numbered_add (n k : Nat) (parts : List (List (List Char))) :
    numbered (n + k) parts = (numbered n parts).map (Line.shifted k) := by
  induction parts generalizing n with
  | nil => rfl
  | cons part parts ih =>
    rw [numbered_cons, numbered_cons, List.map_cons, ← ih, Nat.add_right_comm]
    rfl

/-- Physical lines of a text that is left closed make up logical lines of their own. -/
theorem logicalParts_append {a : List Char} (hwhole : IsWhole a) (hclosed : leftOpen a = false)
    (b : List Char) : logicalParts (a ++ b) = logicalParts a ++ logicalParts b := by
  have ha : Division readsOn (linesOf a) (logicalParts a) := division_divide _
  have hb : Division readsOn (linesOf b) (logicalParts b) := division_divide _
  have hlast : ∀ part, (logicalParts a).getLast? = some part → readsOn part = false := by
    intro part hpart
    rw [leftOpen, hpart, Option.any_some] at hclosed
    exact hclosed
  rw [logicalParts, hwhole.linesOf_append]
  exact (ha.append hb hlast).eq_divide.symm

/-- **The logical lines of two texts in sequence**, if the first ends where a logical line ends. -/
theorem logicalLines_append {a : List Char} (hwhole : IsWhole a) (hclosed : leftOpen a = false)
    (b : List Char) :
    logicalLines (a ++ b) =
      logicalLines a ++ (logicalLines b).map (Line.shifted (linesOf a).length) := by
  have hdivision : Division readsOn (linesOf a) (logicalParts a) := division_divide _
  rw [logicalLines_eq, logicalLines_eq, logicalLines_eq, logicalParts_append hwhole hclosed,
    numbered_append, hdivision.flatten_eq, numbered_add]

/-! ## Reading lines in sequence -/

/-- A section that has been begun is among those read. -/
theorem ne_nil_of_sectionsFrom_some {s : Section} {lines : List Line} {sections : List Section}
    (h : sectionsFrom (some s) lines = .ok sections) : sections ≠ [] := by
  induction lines generalizing s with
  | nil =>
    obtain rfl := Except.ok.inj h
    exact List.cons_ne_nil _ _
  | cons line lines ih =>
    rw [sectionsFrom_cons] at h
    split at h
    · exact ih h
    · split at h
      · split at h
        · exact nomatch h
        · obtain ⟨tail, -, rfl⟩ := map_eq_ok_iff.1 h
          exact List.cons_ne_nil _ _
      · dsimp only at h
        split at h
        · exact nomatch h
        · exact ih h

/-- **Reading in two steps**: the second continues the last section of the first. -/
theorem sectionsFrom_append (current : Option Section) (a b : List Line) :
    sectionsFrom current (a ++ b) =
      (sectionsFrom current a).bind fun sections =>
        (sectionsFrom sections.getLast? b).map (sections.dropLast ++ ·) := by
  induction a generalizing current with
  | nil =>
    rw [List.nil_append, sectionsFrom_nil]
    have hread : sectionsFrom current b = (sectionsFrom current b).map ([] ++ ·) := by
      cases sectionsFrom current b <;> rfl
    cases current <;> exact hread
  | cons line a ih =>
    rw [List.cons_append, sectionsFrom_cons, sectionsFrom_cons]
    split
    · exact ih current
    · split
      · split
        · rfl
        · rename_i name _
          rw [ih]
          cases hread : sectionsFrom (some ⟨name, []⟩) a with
          | error e => rfl
          | ok sections =>
            -- the section begun here stays last, whatever stands before it
            have hne := ne_nil_of_sectionsFrom_some hread
            have hlast : (current.toList ++ sections).getLast? = sections.getLast? := by
              rw [List.getLast?_append_of_ne_nil _ hne]
            have hfront : (current.toList ++ sections).dropLast =
                current.toList ++ sections.dropLast := List.dropLast_append_of_ne_nil hne
            simp only [Except.bind, Except.map, hlast, hfront]
            cases sectionsFrom sections.getLast? b <;> simp
      · split
        · rfl
        · split
          · rfl
          · exact ih _

/-- **A section begun before stands in front** of those that lines make up by themselves. A fault is
the same, unless it is that no section was begun. -/
theorem sectionsFrom_some {lines : List Line}
    (h : ∀ n text, sectionsFrom none lines ≠ .error (.entryOutsideSection n text)) (s : Section) :
    sectionsFrom (some s) lines = (sectionsFrom none lines).map (s :: ·) := by
  induction lines with
  | nil => rfl
  | cons line lines ih =>
    rw [sectionsFrom_cons] at h
    rw [sectionsFrom_cons, sectionsFrom_cons]
    by_cases hsilent : isSilent (trimChars line.text)
    · rw [if_pos hsilent] at h
      rw [if_pos hsilent, if_pos hsilent]
      exact ih h
    · rw [if_neg hsilent] at h
      rw [if_neg hsilent, if_neg hsilent]
      by_cases hheader : (trimChars line.text).head? = some '['
      · -- a header closes the section begun before
        rw [if_pos hheader, if_pos hheader]
        cases headerName line.number (trimChars line.text) with
        | error e => rfl
        | ok name =>
          dsimp only
          cases sectionsFrom (some ⟨name, []⟩) lines <;> rfl
      · -- an entry by itself stands outside of all sections
        rw [if_neg hheader] at h
        exact absurd rfl (h line.number (String.ofList (trimChars line.text)))

/-! ## Line numbers -/

/-- **The fault some lines further down.** -/
def Error.shifted (k : Nat) : Error → Error
  | .unterminatedHeader line text => .unterminatedHeader (line + k) text
  | .emptyHeader line => .emptyHeader (line + k)
  | .entryOutsideSection line text => .entryOutsideSection (line + k) text
  | .missingSeparator line text => .missingSeparator (line + k) text
  | .unrenderable header text reason => .unrenderable header text reason
  | .unreadable path fault => .unreadable path fault

theorem headerName_add (n k : Nat) (text : List Char) :
    headerName (n + k) text = (headerName n text).mapError (Error.shifted k) := by
  unfold headerName
  split
  · split
    · dsimp only
      split <;> rfl
    · rfl
  · rfl

theorem entryOf_add (n k : Nat) (text : List Char) :
    entryOf (n + k) text = (entryOf n text).mapError (Error.shifted k) := by
  unfold entryOf
  split <;> rfl

/-- **Lines further down are read alike**, and their faults are found further down. -/
theorem sectionsFrom_shifted (current : Option Section) (k : Nat) (lines : List Line) :
    sectionsFrom current (lines.map (Line.shifted k)) =
      (sectionsFrom current lines).mapError (Error.shifted k) := by
  induction lines generalizing current with
  | nil => rfl
  | cons line lines ih =>
    have hnumber : (line.shifted k).number = line.number + k := rfl
    have htext : (line.shifted k).text = line.text := rfl
    rw [List.map_cons, sectionsFrom_cons, sectionsFrom_cons, hnumber, htext, headerName_add]
    split
    · exact ih current
    · split
      · cases headerName line.number (trimChars line.text) with
        | error e => rfl
        | ok name =>
          simp only [Except.mapError, ih]
          cases sectionsFrom (some ⟨name, []⟩) lines <;> rfl
      · cases current with
        | none => rfl
        | some s =>
          simp only [entryOf_add]
          cases entryOf line.number (trimChars line.text) with
          | error e => rfl
          | ok entry => exact ih _

/-! ## Main result -/

/-- The sections of two texts in sequence, once those of the first are read. -/
theorem parse_append_of_ok {a b : String} (hwhole : IsWhole a.toList)
    (hclosed : leftOpen a.toList = false) {sections : List Section} (ha : parse a = .ok sections) :
    parse (a ++ b) =
      (sectionsFrom sections.getLast? ((logicalLines b.toList).map
        (Line.shifted (linesOf a.toList).length))).map (sections.dropLast ++ ·) := by
  rw [parse, String.toList_append, logicalLines_append hwhole hclosed, sectionsFrom_append]
  rw [parse] at ha
  rw [ha]
  rfl

/-- **Two texts in sequence**, the first of which ends where a logical line ends. If both can be
read, so can they together, with the sections of the first followed by those of the second. If only
the first can be read, the fault of the second is theirs, further down by the lines of the first, as
long as it is not that no section was begun. If the first cannot be read, its fault is theirs. -/
theorem parse_append {a b : String} (hwhole : IsWhole a.toList)
    (hclosed : leftOpen a.toList = false) :
    (∀ sections others, parse a = .ok sections → parse b = .ok others →
      parse (a ++ b) = .ok (sections ++ others)) ∧
    (∀ sections e, parse a = .ok sections → parse b = .error e →
      (∀ n t, e ≠ .entryOutsideSection n t) →
      parse (a ++ b) = .error (e.shifted (linesOf a.toList).length)) ∧
    (∀ e, parse a = .error e → parse (a ++ b) = .error e) := by
  -- the section that the first text leaves behind is closed by the first header of the second
  have hread : ∀ sections, parse a = .ok sections →
      (∀ n text, parse b ≠ .error (.entryOutsideSection n text)) →
      parse (a ++ b) =
        ((parse b).mapError (Error.shifted (linesOf a.toList).length)).map (sections ++ ·) := by
    intro sections ha hinside
    rw [parse_append_of_ok hwhole hclosed ha, sectionsFrom_shifted]
    rcases List.eq_nil_or_concat sections with rfl | ⟨front, s, rfl⟩
    · rw [List.getLast?_nil, ← parse]
      rfl
    · rw [List.concat_eq_append, List.getLast?_concat, List.dropLast_concat,
        sectionsFrom_some hinside, ← parse]
      cases parse b <;> simp [Except.map, Except.mapError]
  refine ⟨fun sections others ha hb => ?_, fun sections e ha hb hinside => ?_, fun e ha => ?_⟩
  · rw [hread sections ha (by simp [hb]), hb]
    rfl
  · rw [hread sections ha (by simpa [hb] using hinside), hb]
    rfl
  · rw [parse, String.toList_append, logicalLines_append hwhole hclosed, sectionsFrom_append,
      ← parse, ha]
    rfl

/-- A text that ends in a continued line, before one that begins with a comment and before one with
a fault. -/
theorem parse_append_continued :
    let a := "# c\\\n[Match]\nName=e\\\n 0\n"
    let b := "; x\n[Network]\nDHCP=yes\n"
    let c := "[Link]\n[\n"
    (IsWhole a.toList ∧ leftOpen a.toList = false ∧ parse a = .ok [⟨"Match", [("Name", "e 0")]⟩] ∧
      parse b = .ok [⟨"Network", [("DHCP", "yes")]⟩] ∧
      parse c = .error (.unterminatedHeader 2 "[")) ∧
      parse (a ++ b) = .ok [⟨"Match", [("Name", "e 0")]⟩, ⟨"Network", [("DHCP", "yes")]⟩] ∧
      parse (a ++ c) = .error (.unterminatedHeader 6 "[") := by
  intro a b c
  have hwhole : IsWhole a.toList := by decide +kernel
  have hclosed : leftOpen a.toList = false := by decide +kernel
  have ha : parse a = .ok [⟨"Match", [("Name", "e 0")]⟩] := by decide +kernel
  have hb : parse b = .ok [⟨"Network", [("DHCP", "yes")]⟩] := by decide +kernel
  have hc : parse c = .error (.unterminatedHeader 2 "[") := by decide +kernel
  have happend : parse (a ++ c) =
      .error (Error.shifted (linesOf a.toList).length (.unterminatedHeader 2 "[")) :=
    (parse_append hwhole hclosed).2.1 _ _ ha hc (by simp)
  exact ⟨⟨hwhole, hclosed, ha, hb, hc⟩, (parse_append hwhole hclosed).1 _ _ ha hb,
    happend.trans (by decide +kernel)⟩

end NetUnits.UnitFile
