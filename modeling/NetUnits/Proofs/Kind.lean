import NetUnits.Proofs.Path
import NetUnits.Service.Error

/-! # Names of configuration files

A file in the configuration directory has its kind by its extension. Its name is accepted if it also
stays inside the directory:

* **`Kind.IsNameFor`** — a name for a file of a kind in a directory.
* **`Kind.ofSafeFilename?_eq_some_iff`** — when a name is accepted;
  **`Kind.ofSafeFilename?_eq_some_iff_isNameFor`** — which names these are, for each kind.
* **`Kind.isStep_of_ofSafeFilename?`** — such a name is one step into the directory.
* **`Kind.ofSafeFilename_of_eq_some`**, **`Kind.ofSafeFilename_of_eq_none`** — what is said of a
  name. -/

namespace NetUnits.Kind

variable {filename : String} {kind : Kind}

/-- What has an extension is not empty. -/
theorem ne_empty_of_ofFilename? (h : ofFilename? filename = some kind) : filename ≠ "" := by
  rintro rfl
  have hnone : ofFilename? "" = none := by decide
  exact nomatch hnone.symm.trans h

/-- **A name is accepted** if it stays inside the directory and has the extension of a kind. -/
theorem ofSafeFilename?_eq_some_iff :
    ofSafeFilename? filename = some kind ↔
      staysInside filename = true ∧ ofFilename? filename = some kind := by
  constructor
  · intro h
    obtain ⟨hsafe, hkind⟩ := Option.ite_none_right_eq_some.1 h
    exact ⟨(Bool.and_eq_true_iff.1 hsafe).2, hkind⟩
  · rintro ⟨hinside, hkind⟩
    have hname : filename.isEmpty = false := by simpa using ne_empty_of_ofFilename? hkind
    simp [ofSafeFilename?, hname, hinside, hkind]

/-! ## Names that are accepted -/

theorem hasTwoDots_iff {cs : List Char} : hasTwoDots cs = true ↔ ['.', '.'] <:+: cs := by
  fun_induction hasTwoDots cs with
  | case1 rest => exact iff_of_true rfl ⟨[], rest, rfl⟩
  | case2 c cs hcs ih =>
    rw [ih, List.infix_cons_iff]
    refine ⟨.inr, fun h => h.resolve_left fun hprefix => ?_⟩
    obtain ⟨rest, hrest⟩ := hprefix
    obtain ⟨rfl, rfl⟩ := List.cons.inj hrest
    exact hcs rest rfl rfl
  | case3 => exact iff_of_false Bool.false_ne_true fun h => absurd h.length_le (by decide)

theorem hasExtension_iff {extension : String} :
    hasExtension filename extension = true ↔
      ∃ stem, stem ≠ "" ∧ filename = stem ++ extension := by
  rw [hasExtension, Bool.and_eq_true, decide_eq_true_iff, List.isSuffixOf_iff_suffix]
  constructor
  · rintro ⟨hlength, front, hfront⟩
    refine ⟨String.ofList front, fun hempty => ?_, ?_⟩
    · have hnil : front = [] := by simpa using hempty
      rw [← hfront, hnil, List.nil_append] at hlength
      exact absurd hlength (Nat.lt_irrefl _)
    · rw [← String.toList_inj, String.toList_append, String.toList_ofList, hfront]
  · rintro ⟨stem, hstem, rfl⟩
    have hpos : 0 < stem.toList.length :=
      List.length_pos_iff.2 fun hnil => hstem (String.toList_eq_nil_iff.1 hnil)
    rw [String.toList_append, List.length_append]
    exact ⟨by omega, List.suffix_append _ _⟩

/-- No extension ends with another one. -/
theorem eq_of_extension_suffix : ∀ k ∈ fileKinds, ∀ k' ∈ fileKinds,
    k.extension.toList <:+ k'.extension.toList → k = k' := by
  decide

/-- **No name has two extensions.** -/
theorem eq_of_hasExtension {kind' : Kind} (hmem : kind ∈ fileKinds) (hmem' : kind' ∈ fileKinds)
    (h : hasExtension filename kind.extension = true)
    (h' : hasExtension filename kind'.extension = true) : kind = kind' := by
  obtain ⟨stem, -, rfl⟩ := hasExtension_iff.1 h
  obtain ⟨stem', -, heq⟩ := hasExtension_iff.1 h'
  have hsuffix : kind.extension.toList <:+ (stem ++ kind.extension).toList := by
    rw [String.toList_append]
    exact List.suffix_append _ _
  have hsuffix' : kind'.extension.toList <:+ (stem ++ kind.extension).toList := by
    rw [heq, String.toList_append]
    exact List.suffix_append _ _
  rcases Nat.le_total kind.extension.toList.length kind'.extension.toList.length with hle | hle
  · exact eq_of_extension_suffix _ hmem _ hmem'
      (List.suffix_of_suffix_length_le hsuffix hsuffix' hle)
  · exact (eq_of_extension_suffix _ hmem' _ hmem
      (List.suffix_of_suffix_length_le hsuffix' hsuffix hle)).symm

/-- The kind of a file is the one whose extension it has. -/
theorem hasExtension_of_ofFilename? (h : ofFilename? filename = some kind) :
    hasExtension filename kind.extension = true := by
  have hfound : fileKinds.find? (fun k => hasExtension filename k.extension) = some kind := h
  have hkind := List.find?_some hfound
  exact hkind

/-- **A file has a kind** if it has the extension of the kind, and something before it. -/
theorem ofFilename?_eq_some_iff :
    ofFilename? filename = some kind ↔
      kind ∈ fileKinds ∧ ∃ stem, stem ≠ "" ∧ filename = stem ++ kind.extension := by
  rw [← hasExtension_iff]
  constructor
  · exact fun h => ⟨List.mem_of_find?_eq_some h, hasExtension_of_ofFilename? h⟩
  · rintro ⟨hmem, h⟩
    obtain ⟨kind', hkind'⟩ : ∃ kind', ofFilename? filename = some kind' :=
      Option.isSome_iff_exists.1 (List.find?_isSome.2 ⟨kind, hmem, h⟩)
    have hmem' : kind' ∈ fileKinds := List.mem_of_find?_eq_some hkind'
    rw [hkind', eq_of_hasExtension hmem' hmem (hasExtension_of_ofFilename? hkind') h]

/-- **A name for a file of a kind in a directory**: it holds nothing that leads out of the
directory, and consists of something and the extension of the kind. -/
structure IsNameFor (kind : Kind) (filename : String) : Prop where
  /-- It is no path. -/
  slash : '/' ∉ filename.toList
  /-- It does not name the directory above. -/
  dots : ¬ ['.', '.'] <:+: filename.toList
  /-- It does not end before its end. -/
  nul : '\x00' ∉ filename.toList
  /-- Such files are in the directory. -/
  isFileKind : kind ∈ [network, netdev, link]
  /-- It has the extension, and is not the extension alone. -/
  stem : ∃ stem, stem ≠ "" ∧ filename = stem ++ kind.extension

/-- **A name is accepted as one of a kind** exactly if it is a name for a file of the kind in a
directory. -/
theorem ofSafeFilename?_eq_some_iff_isNameFor :
    ofSafeFilename? filename = some kind ↔ IsNameFor kind filename := by
  have hinside : staysInside filename = true ↔ '/' ∉ filename.toList ∧
      ¬ ['.', '.'] <:+: filename.toList ∧ '\x00' ∉ filename.toList := by
    rw [← hasTwoDots_iff]
    simp [staysInside, and_assoc]
  rw [ofSafeFilename?_eq_some_iff, hinside, ofFilename?_eq_some_iff]
  constructor
  · rintro ⟨⟨hslash, hdots, hnul⟩, hmem, hstem⟩
    exact ⟨hslash, hdots, hnul, hmem, hstem⟩
  · intro h
    exact ⟨⟨h.slash, h.dots, h.nul⟩, h.isFileKind, h.stem⟩

/-- **A name that is accepted is one step into a directory.** -/
theorem isStep_of_ofSafeFilename? (h : ofSafeFilename? filename = some kind) :
    Path.IsStep filename := by
  obtain ⟨hinside, hkind⟩ := ofSafeFilename?_eq_some_iff.1 h
  have hslash : '/' ∉ filename.toList := by
    intro hmem
    simp [staysInside, hmem] at hinside
  refine ⟨hslash, ne_empty_of_ofFilename? hkind, ?_, ?_⟩
  · rintro rfl
    have hnone : ofFilename? "." = none := by decide
    exact nomatch hnone.symm.trans hkind
  · rintro rfl
    have hnone : ofFilename? ".." = none := by decide
    exact nomatch hnone.symm.trans hkind

/-- Such a name is accepted as it is. -/
theorem ofSafeFilename_of_eq_some (h : ofSafeFilename? filename = some kind) :
    ofSafeFilename filename = .ok kind := by
  rw [ofSafeFilename, h]

/-- All other names are refused. -/
theorem ofSafeFilename_of_eq_none (h : ofSafeFilename? filename = none) :
    ofSafeFilename filename = .error (.invalidFilename filename) := by
  rw [ofSafeFilename, h]

/-- Only names that are not accepted are refused, as what they are. -/
theorem eq_of_ofSafeFilename_eq_error {e : ServiceError} (h : ofSafeFilename filename = .error e) :
    ofSafeFilename? filename = none ∧ e = .invalidFilename filename := by
  cases hkind : ofSafeFilename? filename with
  | none =>
    rw [ofSafeFilename_of_eq_none hkind] at h
    exact ⟨rfl, (Except.error.inj h).symm⟩
  | some kind =>
    rw [ofSafeFilename_of_eq_some hkind] at h
    cases h

end NetUnits.Kind
