import Mathlib.Data.List.Basic
import NetUnits.Path

/-! # Names inside directories

A path that is made of a directory and a name ends with the name, however the directory is written:

* **`Path.IsStep`** — the name of one thing in a directory; **`Path.IsIn`** — a path leads to one.
* **`Path.parts_join`** — such a path has one part more than the directory, and this is the name;
  **`Path.name_eq_of_join_eq`** — so different names are never at the same place.
* **`Path.exists_toList_join`**, **`Path.toList_join`** — how such a path is written.
* **`Path.parent_join`** — the directory around such a path is the directory, as **`Path.tidy`**
  writes it; **`Path.leadsTo_join`** — so the path leads to the name in the directory. -/

namespace NetUnits.Path

/-- **One step into a directory**: a name without slashes that leads somewhere else, and not to the
directory above. -/
structure IsStep (name : String) : Prop where
  /-- It is the name of one thing, not a path. -/
  slash : '/' ∉ name.toList
  /-- It is there. -/
  ne_empty : name ≠ ""
  /-- It does not stay in the directory. -/
  ne_dot : name ≠ "."
  /-- It does not leave the directory. -/
  ne_dots : name ≠ ".."

/-- **A path leads to something directly inside a directory.** -/
def IsIn (dir path : String) : Prop :=
  ∃ name, IsStep name ∧ path = join dir name

theorem IsStep.isAbsolute {name : String} (h : IsStep name) : isAbsolute name = false := by
  rw [Path.isAbsolute, beq_eq_false_iff_ne]
  exact fun hhead => h.slash (List.mem_of_mem_head? hhead)

/-! ## How a path is written -/

/-- What stands before a name inside a directory: the directory, with a slash behind it. -/
def lead (dir : String) : List Char :=
  if dir.isEmpty || dir.toList.getLast? == some '/' then dir.toList else dir.toList ++ ['/']

/-- A slash is put behind a directory unless it ends with one, or is written as nothing. -/
theorem lead_eq_or (dir : String) :
    lead dir = dir.toList ∧ (dir.toList = [] ∨ dir.toList.getLast? = some '/') ∨
      lead dir = dir.toList ++ ['/'] ∧ dir.toList ≠ [] := by
  unfold lead
  by_cases hdir : dir = ""
  · exact .inl ⟨by simp [hdir], .inl (by simp [hdir])⟩
  · by_cases hslash : dir.toList.getLast? = some '/'
    · exact .inl ⟨by simp [hslash], .inr hslash⟩
    · exact .inr ⟨by simp [hdir, hslash], by simpa using hdir⟩

theorem toList_join_eq_lead (dir : String) {name : String} (hname : isAbsolute name = false) :
    (join dir name).toList = lead dir ++ name.toList := by
  unfold join lead
  by_cases hdir : dir = ""
  · simp [hdir]
  · by_cases hslash : dir.toList.getLast? = some '/'
    · simp [hname, hdir, hslash]
    · simp [hname, hdir, hslash]

/-- What stands before a name inside a directory does not depend on the name. -/
theorem exists_toList_join (dir : String) : ∃ lead, ∀ name, isAbsolute name = false →
    (join dir name).toList = lead ++ name.toList :=
  ⟨lead dir, fun _ => toList_join_eq_lead dir⟩

/-- **A path inside a directory begins where the directory begins.** -/
theorem isAbsolute_join (dir : String) {name : String} (hname : isAbsolute name = false) :
    isAbsolute (join dir name) = isAbsolute dir := by
  have hhead : ∀ cs : List Char, dir.toList ≠ [] →
      (dir.toList ++ cs).head? = dir.toList.head? := by
    intro cs hne
    obtain ⟨c, rest, hdir⟩ := List.exists_cons_of_ne_nil hne
    rw [hdir]
    rfl
  rw [isAbsolute, toList_join_eq_lead dir hname, isAbsolute]
  obtain ⟨heq, hempty | hslash⟩ | ⟨heq, hne⟩ := lead_eq_or dir
  · rw [heq, hempty]
    exact hname
  · rw [heq, hhead]
    rintro hnil
    rw [hnil] at hslash
    cases hslash
  · rw [heq, List.append_assoc, hhead _ hne]

/-- A slash stands between a directory and a name unless the directory ends with one. -/
theorem toList_join {dir name : String} {c : Char} (hlast : dir.toList.getLast? = some c)
    (hc : c ≠ '/') (hname : isAbsolute name = false) :
    (join dir name).toList = dir.toList ++ '/' :: name.toList := by
  have hdir : dir.isEmpty = false := by
    by_contra hempty
    rw [Bool.not_eq_false, String.isEmpty_iff] at hempty
    simp [hempty] at hlast
  simp [join, hname, hdir, hlast, hc]

/-! ## Parts -/

/-- Between slashes there are the parts before a slash and those after it. -/
theorem partsFrom_append (acc cs ds : List Char) :
    partsFrom acc (cs ++ '/' :: ds) = partsFrom acc cs ++ partsFrom [] ds := by
  induction cs generalizing acc with
  | nil => simp [partsFrom]
  | cons c cs ih =>
    by_cases hc : c = '/'
    · simp [partsFrom, hc, ih]
    · simp [partsFrom, hc, ih]

/-- Without a slash there is one part. -/
theorem partsFrom_of_notMem {acc cs : List Char} (h : '/' ∉ cs) :
    partsFrom acc cs = [acc.reverse ++ cs] := by
  induction cs generalizing acc with
  | nil => simp [partsFrom]
  | cons c cs ih =>
    obtain ⟨hc, hcs⟩ : '/' ≠ c ∧ '/' ∉ cs := by simpa using h
    rw [partsFrom, if_neg (Ne.symm hc), ih hcs]
    simp

/-- **A name inside a directory is one part more.** -/
theorem parts_join (dir : String) {name : String} (h : IsStep name) :
    parts (join dir name) = parts dir ++ [name] := by
  have hname : ∀ front : List (List Char),
      (((front ++ [name.toList]).filter fun p => !p.isEmpty).map String.ofList).filter (· != ".") =
        ((front.filter fun p => !p.isEmpty).map String.ofList).filter (· != ".") ++ [name] := by
    intro front
    simp [List.filter_append, h.ne_empty, h.ne_dot]
  have hone : partsFrom [] name.toList = [name.toList] := partsFrom_of_notMem h.slash
  by_cases hdir : dir.isEmpty
  · have hempty : dir = "" := by simpa using hdir
    have hparts := hname []
    rw [hempty, join_empty, parts, steps, hone]
    exact hparts
  · by_cases hslash : dir.toList.getLast? = some '/'
    · obtain ⟨front, hfront⟩ : ∃ front, dir.toList = front ++ ['/'] :=
        List.getLast?_eq_some_iff.1 hslash
      have hjoin : (join dir name).toList = front ++ '/' :: name.toList := by
        simp [join, h.isAbsolute, hdir, hfront]
      -- nothing stands behind the last slash of the directory
      have hends : partsFrom [] (front ++ ['/']) = partsFrom [] front ++ [[]] := by
        rw [partsFrom_append]
        rfl
      rw [parts, steps, hjoin, partsFrom_append, hone, hname, parts, steps, hfront, hends]
      simp [List.filter_append]
    · obtain ⟨c, hlast⟩ : ∃ c, dir.toList.getLast? = some c :=
        Option.isSome_iff_exists.1 (by simpa using hdir)
      have hjoin := toList_join hlast (fun hc => hslash (hc ▸ hlast)) h.isAbsolute
      rw [parts, steps, hjoin, partsFrom_append, hone, hname]
      rfl

/-- **Different names are never at the same place**, whatever directories they are in. -/
theorem name_eq_of_join_eq {dir dir' name name' : String} (h : IsStep name) (h' : IsStep name')
    (heq : join dir name = join dir' name') : name = name' := by
  have hparts := congrArg parts heq
  rw [parts_join dir h, parts_join dir' h'] at hparts
  exact List.singleton_inj.1 (List.append_inj' hparts rfl).2

/-! ## The directory around a name -/

theorem withoutTail_lead (dir : String) :
    withoutTail (lead dir).reverse = withoutTail dir.toList.reverse := by
  obtain ⟨heq, -⟩ | ⟨heq, -⟩ := lead_eq_or dir
  · rw [heq]
  · rw [heq, List.reverse_append]
    rfl

/-- What ends with neither a slash nor a step that stays where it is ends with a name. -/
theorem withoutTail_eq_self {cs : List Char} (hslash : ¬ ['/'] <+: cs)
    (hdot : ¬ ['.', '/'] <+: cs) : withoutTail cs = cs := by
  fun_cases withoutTail cs with
  | case1 rest => exact absurd ⟨rest, rfl⟩ hslash
  | case2 rest => exact absurd ⟨rest, rfl⟩ hdot
  | case3 => rfl

theorem withoutTail_suffix (cs : List Char) : withoutTail cs <:+ cs := by
  fun_induction withoutTail cs with
  | case1 rest ih => exact ih.trans (List.suffix_cons _ _)
  | case2 rest ih => exact ih.trans ((List.suffix_cons _ _).trans (List.suffix_cons _ _))
  | case3 => exact List.suffix_rfl

/-- A name of one thing is a name at the end of a path. -/
theorem IsStep.withoutTail_append {name : String} (h : IsStep name) (front : List Char) :
    withoutTail (name.toList.reverse ++ front) = name.toList.reverse ++ front := by
  obtain ⟨c, rest, hcs⟩ : ∃ c rest, name.toList.reverse = c :: rest :=
    List.exists_cons_of_ne_nil (by simpa using h.ne_empty)
  have hslash : '/' ∉ c :: rest := by
    rw [← hcs, List.mem_reverse]
    exact h.slash
  rw [hcs]
  refine withoutTail_eq_self (fun hprefix => ?_) fun hprefix => ?_
  · obtain ⟨tail, htail⟩ := hprefix
    rw [List.singleton_append, List.cons_append] at htail
    exact hslash ((List.cons.inj htail).1 ▸ List.mem_cons_self)
  · cases rest with
    | nil =>
      -- then the name is a dot
      obtain ⟨tail, htail⟩ := hprefix
      have hdot : name.toList.reverse = ['.'] := by rw [hcs, ← (List.cons.inj htail).1]
      refine h.ne_dot (String.toList_inj.1 ?_)
      rw [← List.reverse_reverse name.toList, hdot]
      rfl
    | cons d rest =>
      obtain ⟨tail, htail⟩ := hprefix
      have hd : '/' = d := (List.cons.inj (List.cons.inj htail).2).1
      exact hslash (hd ▸ List.mem_cons_of_mem _ List.mem_cons_self)

/-- **A directory as it is shown by paths inside of it**: without what names nothing at its end. -/
def tidy (dir : String) : String :=
  let above := withoutTail dir.toList.reverse
  if above.isEmpty && isAbsolute dir then "/" else String.ofList above.reverse

/-- **The directory around a name inside a directory** is that directory. -/
theorem parent_join (dir : String) {name : String} (h : IsStep name) :
    parent (join dir name) = tidy dir := by
  have hname : ∀ c ∈ name.toList.reverse, (c != '/') = true := by
    intro c hc
    rw [bne_iff_ne]
    rintro rfl
    exact h.slash (List.mem_reverse.1 hc)
  -- what is left when the name is dropped ends with the slash before the name
  have hdrop : (lead dir).reverse.dropWhile (· != '/') = (lead dir).reverse := by
    obtain ⟨heq, hempty | hslash⟩ | ⟨heq, -⟩ := lead_eq_or dir
    · rw [heq, hempty]
      rfl
    · obtain ⟨front, hfront⟩ := List.getLast?_eq_some_iff.1 hslash
      rw [heq, hfront, List.reverse_append]
      rfl
    · rw [heq, List.reverse_append]
      rfl
  rw [parent, tidy, isAbsolute_join dir h.isAbsolute, toList_join_eq_lead dir h.isAbsolute,
    List.reverse_append, h.withoutTail_append, List.dropWhile_append_of_pos hname, hdrop,
    withoutTail_lead]

/-- The parts of a path that is written so. -/
def partsIn (cs : List Char) : List String :=
  (((partsFrom [] cs).filter fun p => !p.isEmpty).map String.ofList).filter (· != ".")

/-- What names nothing at the end of a path is no part of it. -/
theorem partsIn_withoutTail (cs : List Char) :
    partsIn (withoutTail cs).reverse = partsIn cs.reverse := by
  have hslash : ∀ rest last : List Char, partsIn (rest.reverse ++ '/' :: last) =
      partsIn rest.reverse ++ partsIn last := by
    intro rest last
    simp only [partsIn, partsFrom_append, List.filter_append, List.map_append]
  fun_induction withoutTail cs with
  | case1 rest ih =>
    rw [ih, List.reverse_cons, hslash]
    exact (List.append_nil _).symm
  | case2 rest ih =>
    have hdot : partsIn ['.'] = [] := by decide
    rw [ih, List.reverse_cons, List.reverse_cons, List.append_assoc, List.singleton_append, hslash,
      hdot, List.append_nil]
  | case3 => rfl

/-- **A directory is shown with the parts that it has.** -/
theorem parts_tidy (dir : String) : parts (tidy dir) = parts dir := by
  have hsame : partsIn (withoutTail dir.toList.reverse).reverse = parts dir := by
    rw [partsIn_withoutTail, List.reverse_reverse]
    rfl
  simp only [tidy]
  split
  · rename_i hroot
    have hnil : withoutTail dir.toList.reverse = [] := by
      simpa using (Bool.and_eq_true_iff.1 hroot).1
    rw [← hsame, hnil]
    decide
  · rw [← hsame]
    exact congrArg partsIn String.toList_ofList

theorem isAbsolute_tidy (dir : String) : isAbsolute (tidy dir) = isAbsolute dir := by
  simp only [tidy]
  split
  · rename_i hroot
    exact (Bool.and_eq_true_iff.1 hroot).2.symm
  · rename_i hroot
    obtain ⟨tail, htail⟩ := withoutTail_suffix dir.toList.reverse
    have hdir : dir.toList = (withoutTail dir.toList.reverse).reverse ++ tail.reverse := by
      rw [← List.reverse_append, htail, List.reverse_reverse]
    cases habove : (withoutTail dir.toList.reverse).reverse with
    | nil =>
      have hnil : withoutTail dir.toList.reverse = [] := by simpa using habove
      simp only [hnil, List.isEmpty_nil, Bool.true_and, Bool.not_eq_true] at hroot
      rw [hroot]
      rfl
    | cons c rest =>
      rw [isAbsolute, isAbsolute, hdir, habove, String.toList_ofList]
      rfl

/-- A directory that does not end with what names nothing is shown as it is written. -/
theorem tidy_eq_self {dir : String} (hslash : ¬ ['/'] <:+ dir.toList)
    (hdot : ¬ ['/', '.'] <:+ dir.toList) : tidy dir = dir := by
  have hreverse : ∀ cs : List Char, cs.reverse <+: dir.toList.reverse → cs <:+ dir.toList :=
    fun _ => List.reverse_prefix.1
  have hsame : withoutTail dir.toList.reverse = dir.toList.reverse :=
    withoutTail_eq_self (fun h => hslash (hreverse ['/'] h)) fun h => hdot (hreverse ['/', '.'] h)
  simp only [tidy, hsame]
  split
  · rename_i hroot
    obtain ⟨hnil, habsolute⟩ := Bool.and_eq_true_iff.1 hroot
    have hempty : dir.toList = [] := by simpa using hnil
    rw [isAbsolute, hempty] at habsolute
    cases habsolute
  · rw [List.reverse_reverse, String.ofList_toList]

/-- **A path leads to a name in a directory**: the name is its last part, and the directory around
it is that directory, however it is written. -/
structure LeadsTo (dir name path : String) : Prop where
  /-- The name comes after the directory. -/
  parts_eq : parts path = parts dir ++ [name]
  /-- The directory around the path has the same parts. -/
  parts_parent : parts (parent path) = parts dir
  /-- It begins where the directory begins. -/
  isAbsolute_parent : isAbsolute (parent path) = isAbsolute dir
  /-- It is even written so, if the directory is written without a slash or a dot at its end. -/
  parent_eq : ¬ ['/'] <:+ dir.toList → ¬ ['/', '.'] <:+ dir.toList → parent path = dir

/-- **A name joined to a directory leads to the name in it.** -/
theorem leadsTo_join (dir : String) {name : String} (h : IsStep name) :
    LeadsTo dir name (join dir name) where
  parts_eq := parts_join dir h
  parts_parent := by rw [parent_join dir h, parts_tidy]
  isAbsolute_parent := by rw [parent_join dir h, isAbsolute_tidy]
  parent_eq := fun hslash hdot => by rw [parent_join dir h, tidy_eq_self hslash hdot]

end NetUnits.Path
