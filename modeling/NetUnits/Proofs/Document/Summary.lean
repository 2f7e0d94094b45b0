import NetUnits.Document.Conversion
import NetUnits.Document.Summary
import NetUnits.Proofs.Text.Words

/-! # What a listing says of network files, and what it chooses them by

Criteria look at all blocks of a section, the summary of a file at the first block only. As long as
a file has each section once they see the same; where a section is repeated, a file may be chosen by
a name that is not shown, and addresses may be missing.

* **`Text.isInfix_of_mem_wordsOf`** — words occur in their text.
* **`Document.textsOf`** — the texts of a key in all blocks of a section.
* **`FileSummary.Shows`** — a summary shows all that is looked at when a file is chosen.
* **`Document.FirstSuffices`** — later blocks have nothing to add;
  **`FileSummary.shows_describe_iff`** — exactly then all is shown. -/

namespace NetUnits

open NetUnits.Text

/-! ## Words -/

/-- **Words occur in their text.** -/
theorem Text.isInfix_of_mem_wordsOf {word cs : List Char} (h : word ∈ wordsOf cs) :
    word <:+: cs :=
  (wordsOf_eq_iff.1 rfl).isInfix h

/-- A text occurs in what it is joined to. -/
theorem Text.isInfix_intercalate {separator text : String} {texts : List String}
    (h : text ∈ texts) : text.toList <:+: (separator.intercalate texts).toList := by
  induction texts with
  | nil => cases h
  | cons first rest ih =>
    obtain rfl | hrest := List.mem_cons.1 h
    · cases rest with
      | nil => simp
      | cons next rest =>
        rw [String.intercalate_cons_cons, String.append_assoc, String.toList_append]
        exact (List.prefix_append _ _).isInfix
    · rw [String.intercalate_cons_of_ne_nil (List.ne_nil_of_mem hrest), String.toList_append]
      exact (ih hrest).trans (List.suffix_append _ _).isInfix

namespace Document

variable {d : Document} {header key : String}

/-! ## Sections in blocks -/

/-- The blocks of the section with a name; none if there is no such section. -/
def blocksOf (d : Document) (header : String) : List Block :=
  ((d.get? header).map Section.blocks).getD []

/-- **The texts of a key** in all blocks of a section, in order. -/
def textsOf (d : Document) (header key : String) : List String :=
  (d.blocksOf header).flatMap (textsAt · key)

theorem firstBlock?_eq : d.firstBlock? header = (d.blocksOf header).head? := by
  rw [firstBlock?, blocksOf]
  cases d.get? header <;> rfl

/-- The texts in a section are those of its first block and of the later ones. -/
theorem textsOf_eq : d.textsOf header key =
    ((d.firstBlock? header).map (textsAt · key)).getD [] ++
      (d.blocksOf header).tail.flatMap (textsAt · key) := by
  rw [firstBlock?_eq, textsOf]
  cases d.blocksOf header <;> rfl

/-- A text of the first block occurs in the joined ones. -/
theorem exists_joined? {block : Block} {text : String} (hblock : d.firstBlock? header = some block)
    (htext : text ∈ textsAt block key) :
    ∃ shown, d.joined? header key = some shown ∧ text.toList <:+: shown.toList := by
  refine ⟨", ".intercalate (textsAt block key), ?_, isInfix_intercalate htext⟩
  rw [joined?, hblock, Option.map_some]
  cases htexts : textsAt block key with
  | nil => cases htexts ▸ htext
  | cons => rfl

/-- **Later blocks have nothing to add** to what is shown of the first: their names occur in it, and
they have no settings that are shown. -/
structure FirstSuffices (d : Document) : Prop where
  /-- Names of later blocks are shown anyway. -/
  names : ∀ block ∈ (d.blocksOf "Match").tail, ∀ text ∈ textsAt block "Name",
    ∀ word ∈ wordsOf text.toList,
      ∃ shown, d.joined? "Match" "Name" = some shown ∧ word <:+: shown.toList
  /-- Later blocks have no addresses, name servers and VLANs. -/
  settings : ∀ key ∈ ["Address", "DNS", "VLAN"], ∀ block ∈ (d.blocksOf "Network").tail,
    textsAt block key = []

/-- Where both sections are there once at most, there are no later blocks. -/
theorem firstSuffices_of_length_le (hmatch : (d.blocksOf "Match").length ≤ 1)
    (hnetwork : (d.blocksOf "Network").length ≤ 1) : d.FirstSuffices := by
  have htail {l : List Block} (h : l.length ≤ 1) : l.tail = [] :=
    List.eq_nil_of_length_eq_zero (by rw [List.length_tail]; omega)
  constructor
  · rw [htail hmatch]
    exact fun _ h => nomatch h
  · rw [htail hnetwork]
    exact fun _ _ _ h => nomatch h

end Document

/-! ## Names that criteria ask for -/

namespace MatchCriteria

variable {d : Document} {word : String}

theorem asks_beq_iff {words : List (List Char)} :
    asks (some word) (· == ·) words = true ↔ word.toList ∈ words := by
  simp [asks]

/-- A file that is chosen by a name has it among the words of its names. -/
theorem mem_words_of_accepts {c : MatchCriteria} (hname : c.name = some word)
    (h : c.accepts d = true) : word.toList ∈ words d "Name" := by
  rw [accepts, hname, Bool.and_eq_true, Bool.and_eq_true] at h
  exact asks_beq_iff.1 h.1.1

/-- Each of these words is a name by which a file can be chosen. -/
theorem accepts_of_mem_words (h : word.toList ∈ words d "Name") :
    ({ name := some word } : MatchCriteria).accepts d = true := by
  rw [accepts, asks_beq_iff.2 h]
  rfl

/-- The words of a key are those of its texts in all blocks. -/
theorem mem_words_iff {key : String} {word : List Char} :
    word ∈ words d key ↔ ∃ text ∈ d.textsOf "Match" key, word ∈ wordsOf text.toList :=
  List.mem_flatMap

end MatchCriteria

namespace FileSummary

open NetUnits.Document

variable {d : Document}

/-- **A summary shows all that is looked at** when the file is chosen, and all main settings. -/
structure Shows (f : FileSummary) (d : Document) : Prop where
  /-- Each name by which criteria choose the file occurs in what it is shown to match. -/
  named : ∀ (c : MatchCriteria) (word : String), c.name = some word → c.accepts d = true →
    ∃ shown, f.matchName = some shown ∧ word.toList <:+: shown.toList
  /-- The addresses, name servers and VLANs of all blocks are shown, in order. -/
  settings : ∃ headline, f.headline = some headline ∧
    (d.textsOf "Network" "Address").Sublist headline.address ∧
      (d.textsOf "Network" "DNS").Sublist headline.dns ∧
        (d.textsOf "Network" "VLAN").Sublist headline.vlan

/-- Of the settings of a network those of the first block are shown. -/
theorem networkHeadline_texts (d : Document) :
    (networkHeadline d).address = ((d.firstBlock? "Network").map (textsAt · "Address")).getD [] ∧
      (networkHeadline d).dns = ((d.firstBlock? "Network").map (textsAt · "DNS")).getD [] ∧
        (networkHeadline d).vlan = ((d.firstBlock? "Network").map (textsAt · "VLAN")).getD [] := by
  rw [networkHeadline]
  cases d.firstBlock? "Network" <;> exact ⟨rfl, rfl, rfl⟩

/-- The texts of the first block are all if and only if later ones have none. -/
theorem textsOf_sublist_iff {header key : String} :
    (d.textsOf header key).Sublist (((d.firstBlock? header).map (textsAt · key)).getD []) ↔
      ∀ block ∈ (d.blocksOf header).tail, textsAt block key = [] := by
  rw [textsOf_eq, ← List.flatMap_eq_nil_iff]
  constructor
  · intro h
    have hlength := h.length_le
    rw [List.length_append] at hlength
    exact List.eq_nil_of_length_eq_zero (by omega)
  · intro h
    simp [h]

/-- **Names of the first block are shown**, and those of later ones if they occur there. -/
theorem named_iff :
    (∀ (c : MatchCriteria) (word : String), c.name = some word → c.accepts d = true →
      ∃ shown, d.joined? "Match" "Name" = some shown ∧ word.toList <:+: shown.toList) ↔
    ∀ block ∈ (d.blocksOf "Match").tail, ∀ text ∈ textsAt block "Name",
      ∀ word ∈ wordsOf text.toList,
        ∃ shown, d.joined? "Match" "Name" = some shown ∧ word <:+: shown.toList := by
  constructor
  · intro h block hblock text htext word hword
    have hmem : word ∈ MatchCriteria.words d "Name" := by
      refine MatchCriteria.mem_words_iff.2 ⟨text, ?_, hword⟩
      exact List.mem_flatMap.2 ⟨block, List.mem_of_mem_tail hblock, htext⟩
    have haccepts : ({ name := some (String.ofList word) } : MatchCriteria).accepts d = true :=
      MatchCriteria.accepts_of_mem_words (by rwa [String.toList_ofList])
    simpa using h _ _ rfl haccepts
  · intro h c word hname haccepts
    obtain ⟨text, htext, hword⟩ :=
      MatchCriteria.mem_words_iff.1 (MatchCriteria.mem_words_of_accepts hname haccepts)
    rw [textsOf_eq] at htext
    obtain hfirst | hlater := List.mem_append.1 htext
    · cases hblock : d.firstBlock? "Match" with
      | none =>
        rw [hblock] at hfirst
        cases hfirst
      | some block =>
        rw [hblock] at hfirst
        obtain ⟨shown, hshown, hoccurs⟩ := exists_joined? hblock hfirst
        exact ⟨shown, hshown, (isInfix_of_mem_wordsOf hword).trans hoccurs⟩
    · obtain ⟨block, hblock, htext⟩ := List.mem_flatMap.1 hlater
      exact h block hblock text htext _ hword

theorem shows_of_firstSuffices (filename : String) (h : d.FirstSuffices) :
    ((bare filename .network).describe d).Shows d where
  named := named_iff.2 h.names
  settings := by
    obtain ⟨haddress, hdns, hvlan⟩ := networkHeadline_texts d
    refine ⟨networkHeadline d, rfl, ?_, ?_, ?_⟩
    · rw [haddress, textsOf_sublist_iff]
      exact h.settings "Address" (by simp)
    · rw [hdns, textsOf_sublist_iff]
      exact h.settings "DNS" (by simp)
    · rw [hvlan, textsOf_sublist_iff]
      exact h.settings "VLAN" (by simp)

/-- A file with each section once is shown as it is chosen. -/
theorem shows_of_length_le (filename : String) (hmatch : (d.blocksOf "Match").length ≤ 1)
    (hnetwork : (d.blocksOf "Network").length ≤ 1) :
    ((bare filename .network).describe d).Shows d :=
  shows_of_firstSuffices filename (firstSuffices_of_length_le hmatch hnetwork)

/-- **A network file is shown as it is chosen exactly if its first blocks suffice.** -/
theorem shows_describe_iff (filename : String) (d : Document) :
    ((bare filename .network).describe d).Shows d ↔ d.FirstSuffices := by
  refine ⟨fun h => ⟨named_iff.1 h.named, ?_⟩, shows_of_firstSuffices filename⟩
  obtain ⟨haddress, hdns, hvlan⟩ := networkHeadline_texts d
  obtain ⟨_, hheadline, hshows⟩ := h.settings
  obtain rfl := Option.some.inj hheadline
  rw [haddress, hdns, hvlan, textsOf_sublist_iff, textsOf_sublist_iff, textsOf_sublist_iff]
    at hshows
  simpa using hshows

/-- A text with two blocks of each section. -/
def repeatedText : String :=
  "[Match]\nName=eth0\n[Match]\nName=eth1\n" ++
    "[Network]\nAddress=192.0.2.1/24\n[Network]\nAddress=192.0.2.2/24\n"

/-- **A repeated section is not shown**: the file is chosen by a name that it is not shown to match,
and has an address that is not shown. -/
theorem not_shows_describe_repeated :
    ∃ d, Document.ofText repeatedText .none .none .network = .ok d ∧
      ({ name := some "eth1" } : MatchCriteria).accepts d = true ∧
        ((bare "a.network" .network).describe d).matchName = some "eth0" ∧
          d.textsOf "Network" "Address" = ["192.0.2.1/24", "192.0.2.2/24"] ∧
            ((bare "a.network" .network).describe d).headline.map Headline.address =
              some ["192.0.2.1/24"] ∧
                ¬((bare "a.network" .network).describe d).Shows d := by
  have hread : (Document.ofText repeatedText .none .none .network).toOption.map (fun d =>
      (({ name := some "eth1" } : MatchCriteria).accepts d,
        ((bare "a.network" .network).describe d).matchName, d.textsOf "Network" "Address",
        ((bare "a.network" .network).describe d).headline.map Headline.address)) =
      some (true, some "eth0", ["192.0.2.1/24", "192.0.2.2/24"], some ["192.0.2.1/24"]) := by
    decide +kernel
  cases hdocument : Document.ofText repeatedText .none .none .network with
  | error e =>
    rw [hdocument] at hread
    cases hread
  | ok d =>
    rw [hdocument] at hread
    simp only [Except.toOption, Option.map_some, Option.some.injEq, Prod.mk.injEq] at hread
    obtain ⟨haccepts, hmatch, haddress, hshown⟩ := hread
    refine ⟨d, rfl, haccepts, hmatch, haddress, hshown, fun h => ?_⟩
    obtain ⟨shown, hshown, hoccurs⟩ := h.named _ "eth1" rfl haccepts
    obtain rfl := Option.some.inj (hmatch.symm.trans hshown)
    exact absurd hoccurs (by decide)

end FileSummary

end NetUnits
