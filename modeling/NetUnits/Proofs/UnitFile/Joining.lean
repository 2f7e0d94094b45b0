import NetUnits.UnitFile.Parser
import NetUnits.Proofs.Division
import NetUnits.Proofs.Text.Trim

/-! # Physical lines that make up a logical line

The logical lines of a text divide its physical lines. The rule is that a physical line is continued
if it ends in a backslash and stands in no comment. Lines are joined by the text read so far, and
that differs from the rule where a blank line follows a text with two backslashes at its end: one of
them is used up by the blank line, and the other one asks for a line more.

* **`joinedText`** — the text of physical lines that are joined.
* **`logicalParts`** — the physical lines of each logical line; **`logicalLines_eq`** — the logical
  lines are made of them.
* **`continues`** — the rule; **`overruns`** — where it is broken; **`readsOn_eq`** — what is done.
* **`joins`** — how each text is joined, and the texts that are joined by the rule. -/

namespace NetUnits.UnitFile

open NetUnits.Text

/-! ## The text of joined lines -/

/-- **The text of physical lines that are joined**: at each break the backslash and the blanks
around it give way to a space. -/
def joinedText : List (List Char) → List Char
  | [] => []
  | raw :: rest => rest.foldl (fun text next => withoutBackslash text ++ ' ' :: trimStart next) raw

@[simp] theorem joinedText_nil : joinedText [] = [] := rfl

@[simp] theorem joinedText_singleton (raw : List Char) : joinedText [raw] = raw := rfl

/-- One physical line more. -/
theorem joinedText_concat {part : List (List Char)} (h : part ≠ []) (raw : List Char) :
    joinedText (part ++ [raw]) = withoutBackslash (joinedText part) ++ ' ' :: trimStart raw := by
  obtain ⟨first, rest, rfl⟩ := List.exists_cons_of_ne_nil h
  rw [List.cons_append, joinedText, joinedText, List.foldl_append]
  rfl

/-- Whether another physical line is read after the lines of `part`. -/
def readsOn (part : List (List Char)) : Bool :=
  isOpen (joinedText part)

/-- **The physical lines of each logical line.** -/
def logicalParts (text : List Char) : List (List (List Char)) :=
  divide readsOn (linesOf text)

/-- The text of a logical line. A backslash at the end of the text has no line to join. -/
def finishedText (part : List (List Char)) : List Char :=
  if readsOn part then withoutBackslash (joinedText part) else joinedText part

/-- **The logical lines made of physical lines**, the first of which has number `n`. -/
def numbered (n : Nat) : List (List (List Char)) → List Line
  | [] => []
  | part :: parts => ⟨n, finishedText part⟩ :: numbered (n + part.length) parts

@[simp] theorem numbered_nil (n : Nat) : numbered n [] = [] := rfl

@[simp] theorem numbered_cons (n : Nat) (part : List (List Char))
    (parts : List (List (List Char))) :
    numbered n (part :: parts) = ⟨n, finishedText part⟩ :: numbered (n + part.length) parts := rfl

theorem numbered_append (n : Nat) (as bs : List (List (List Char))) :
    numbered n (as ++ bs) = numbered n as ++ numbered (n + as.flatten.length) bs := by
  induction as generalizing n with
  | nil => simp
  | cons part as ih =>
    rw [List.cons_append, numbered_cons, ih, numbered_cons, List.cons_append, List.flatten_cons,
      List.length_append, Nat.add_assoc]

/-- **A logical line begins where a part begins.** -/
theorem exists_number_iff {n m : Nat} {parts : List (List (List Char))} :
    (∃ line ∈ numbered n parts, line.number = m) ↔
      ∃ as bs, parts = as ++ bs ∧ bs ≠ [] ∧ m = n + as.flatten.length := by
  constructor
  · rintro ⟨line, hline, rfl⟩
    induction parts generalizing n with
    | nil => exact absurd hline List.not_mem_nil
    | cons part parts ih =>
      rw [numbered_cons] at hline
      rcases List.mem_cons.1 hline with rfl | hline
      · exact ⟨[], part :: parts, rfl, List.cons_ne_nil _ _, rfl⟩
      · obtain ⟨as, bs, rfl, hbs, hm⟩ := ih hline
        refine ⟨part :: as, bs, rfl, hbs, ?_⟩
        rw [hm, List.flatten_cons, List.length_append, Nat.add_assoc]
  · rintro ⟨as, bs, rfl, hbs, rfl⟩
    obtain ⟨part, parts, rfl⟩ := List.exists_cons_of_ne_nil hbs
    refine ⟨⟨n + as.flatten.length, finishedText part⟩, ?_, rfl⟩
    rw [numbered_append, numbered_cons]
    exact List.mem_append_right _ List.mem_cons_self

/-- The line that the physical lines of `part` leave unfinished. -/
def pendingOf (n : Nat) (part : List (List Char)) : Option Line :=
  if part.isEmpty then none else some ⟨n, withoutBackslash (joinedText part)⟩

/-- The next physical line belongs to the unfinished line. -/
theorem extend_pendingOf (n : Nat) (part : List (List Char)) (raw : List Char) :
    extend (pendingOf n part) (n + part.length) raw = ⟨n, joinedText (part ++ [raw])⟩ := by
  by_cases h : part = []
  · subst h
    rfl
  · have hpending : pendingOf n part = some ⟨n, withoutBackslash (joinedText part)⟩ := by
      simp [pendingOf, h]
    rw [hpending, joinedText_concat h]
    rfl

/-- Lines are joined part by part. -/
theorem joinFrom_eq (n : Nat) (part : List (List Char)) (h : part ≠ [] → readsOn part = true)
    (raws : List (List Char)) :
    joinFrom (pendingOf n part) (n + part.length) raws =
      numbered n (divideFrom readsOn part raws) := by
  induction raws generalizing n part with
  | nil =>
    by_cases hpart : part = []
    · subst hpart
      rfl
    · have hdivide : divideFrom readsOn part [] = [part] := by simp [divideFrom, hpart]
      rw [hdivide, numbered_cons, numbered_nil, finishedText, if_pos (h hpart), joinFrom_nil]
      simp [pendingOf, hpart]
  | cons raw raws ih =>
    rw [joinFrom_cons, extend_pendingOf, divideFrom_cons]
    change (if readsOn (part ++ [raw]) then _ else _) = _
    have hlength : n + part.length + 1 = n + (part ++ [raw]).length := by simp [Nat.add_assoc]
    by_cases hopen : readsOn (part ++ [raw])
    · have hpending : pendingOf n (part ++ [raw]) =
          some ⟨n, withoutBackslash (joinedText (part ++ [raw]))⟩ := by simp [pendingOf]
      rw [if_pos hopen, if_pos hopen, hlength, ← hpending]
      exact ih n _ fun _ => hopen
    · rw [if_neg hopen, if_neg hopen, numbered_cons, finishedText, if_neg hopen, hlength]
      exact congrArg _ (ih (n + (part ++ [raw]).length) [] fun hnil => absurd rfl hnil)

/-- **The logical lines of a text are made of its physical lines**, each of which belongs to one. -/
theorem logicalLines_eq (text : List Char) : logicalLines text = numbered 1 (logicalParts text) :=
  joinFrom_eq 1 [] (fun hnil => absurd rfl hnil) (linesOf text)

/-! ## The rule -/

/-- Whether a text ends in a backslash, blanks after it aside. -/
def endsInBackslash (text : List Char) : Bool :=
  (trimEnd text).getLast? == some '\\'

/-- Whether a line is blank. -/
def isBlankLine (raw : List Char) : Bool :=
  (trimEnd raw).isEmpty

/-- **The rule**: a physical line is continued if it ends in a backslash, and the logical line that
it belongs to is no comment. -/
def continues (part : List (List Char)) : Bool :=
  !isComment (joinedText part) && part.getLast?.any endsInBackslash

/-- **A blank line overruns the rule** if the text before it, of which a backslash is taken off for
the break, ends in another one. -/
def overruns (part : List (List Char)) : Bool :=
  !isComment (joinedText part) && part.getLast?.any isBlankLine &&
    endsInBackslash (withoutBackslash (joinedText part.dropLast))

/-- The last character of two texts that is not blank. -/
theorem getLast?_trimEnd_append (a b : List Char) :
    (trimEnd (a ++ b)).getLast? = (trimEnd b).getLast?.or (trimEnd a).getLast? := by
  rw [trimEnd_append]
  by_cases h : trimEnd b = []
  · rw [if_pos h, h]
    rfl
  · rw [if_neg h, List.getLast?_append_of_ne_nil _ h, List.getLast?_eq_some_getLast h,
      Option.some_or]

/-- Blanks in front do not matter to it. -/
theorem getLast?_trimEnd_trimStart (cs : List Char) :
    (trimEnd (trimStart cs)).getLast? = (trimEnd cs).getLast? := by
  induction cs with
  | nil => rfl
  | cons c cs ih =>
    rw [trimStart_cons]
    by_cases hc : isBlank c
    · have hnil : trimEnd [c] = [] := by simpa [hc] using trimEnd_append_singleton [] c
      rw [if_pos hc, ih, ← List.singleton_append, getLast?_trimEnd_append, hnil,
        List.getLast?_nil, Option.or_none]
    · rw [if_neg hc]

/-- **After a join the new line counts**, or the text before it if the new line is blank. -/
theorem endsInBackslash_join (text raw : List Char) :
    endsInBackslash (text ++ ' ' :: trimStart raw) =
      (endsInBackslash raw || isBlankLine raw && endsInBackslash text) := by
  have hspace : (trimEnd [' ']).getLast? = none := rfl
  rw [endsInBackslash, ← List.singleton_append, getLast?_trimEnd_append, getLast?_trimEnd_append,
    getLast?_trimEnd_trimStart, hspace, Option.or_none]
  unfold endsInBackslash isBlankLine
  cases h : (trimEnd raw).getLast? with
  | none =>
    rw [List.getLast?_eq_none_iff.1 h]
    simp
  | some c =>
    have hne : trimEnd raw ≠ [] := fun hnil => by simp [hnil] at h
    simp [hne]

/-- **Another line is read by the rule, or because a blank line overruns it.** -/
theorem readsOn_eq (part : List (List Char)) :
    readsOn part = (continues part || overruns part) := by
  rcases List.eq_nil_or_concat part with rfl | ⟨before, raw, rfl⟩
  · rfl
  · rw [List.concat_eq_append, readsOn, isOpen, continues, overruns, List.getLast?_concat,
      Option.any_some, Option.any_some, List.dropLast_concat, Bool.and_assoc,
      ← Bool.and_or_distrib_left]
    congr 1
    by_cases h : before = []
    · subst h
      have hnone : endsInBackslash (withoutBackslash (joinedText [])) = false := rfl
      rw [hnone, Bool.and_false, Bool.or_false]
      rfl
    · rw [joinedText_concat h]
      exact endsInBackslash_join _ raw

/-- The rule does not continue a blank line. -/
theorem continues_of_isBlankLine {blank : List Char} (h : isBlankLine blank = true)
    (read : List (List Char)) : continues (read ++ [blank]) = false := by
  have hnil : trimEnd blank = [] := by simpa [isBlankLine] using h
  simp [continues, endsInBackslash, hnil]

/-- What overruns the rule ends in a blank line. -/
theorem exists_isBlankLine_of_overruns {part : List (List Char)} (h : overruns part = true) :
    ∃ read blank, part = read ++ [blank] ∧ isBlankLine blank = true := by
  simp only [overruns, Bool.and_eq_true] at h
  obtain ⟨blank, hlast, hblank⟩ := (Option.any_eq_true _ _).1 h.1.2
  obtain ⟨read, rfl⟩ := List.getLast?_eq_some_iff.1 hlast
  exact ⟨read, blank, rfl, hblank⟩

/-! ## How a text is joined -/

/-- The physical lines are divided by the rule and by what overruns it. -/
theorem division_logicalParts (text : List Char) :
    Division (fun part => continues part || overruns part) (linesOf text) (logicalParts text) := by
  rw [← funext readsOn_eq]
  exact division_divide (linesOf text)

/-- **Lines are joined by the rule** exactly if no blank line that is followed by another line
overruns it. -/
theorem division_continues_iff {raws : List (List Char)} {parts : List (List (List Char))}
    (h : Division (fun part => continues part || overruns part) raws parts) :
    Division continues raws parts ↔
      ∀ part ∈ parts, ∀ read rest, part = read ++ rest → rest ≠ [] → overruns read = false := by
  constructor
  · intro hrule part hpart read rest heq hrest
    by_cases hread : read = []
    · subst hread
      rfl
    · -- the rule goes on with what is read, so it ends in no blank line
      have hgoes := hrule.within part hpart read rest heq hread hrest
      by_contra hover
      rw [Bool.not_eq_false] at hover
      obtain ⟨front, blank, rfl, hblank⟩ := exists_isBlankLine_of_overruns hover
      exact Bool.false_ne_true ((continues_of_isBlankLine hblank front).symm.trans hgoes)
  · intro hnone
    refine ⟨h.flatten_eq, h.ne_nil, fun part hpart read rest heq hread hrest => ?_,
      fun part hpart => ?_⟩
    · have hgoes := h.within part hpart read rest heq hread hrest
      have hover := hnone part hpart read rest heq hrest
      simpa only [hover, Bool.or_false] using hgoes
    · exact (Bool.or_eq_false_iff.1 (h.ended part hpart)).1

/-- Within a part no other part begins. -/
theorem length_flatten_ne {as bs cs ds : List (List (List Char))} {part : List (List Char)}
    (h : as ++ part :: bs = cs ++ ds) {k : Nat} (hpos : 0 < k) (hlt : k < part.length) :
    cs.flatten.length ≠ as.flatten.length + k := by
  rcases List.append_eq_append_iff.1 h with ⟨es, rfl, hes⟩ | ⟨es, rfl, -⟩
  · cases es with
    | nil =>
      rw [List.append_nil]
      omega
    | cons first es =>
      obtain ⟨rfl, -⟩ := List.cons.inj hes
      rw [List.flatten_append, List.flatten_cons, List.length_append, List.length_append]
      omega
  · rw [List.flatten_append, List.length_append]
    omega

/-- **The rule is kept exactly if every line after a blank one begins a logical line.** -/
theorem division_continues_iff_number {raws : List (List Char)} {parts : List (List (List Char))}
    (h : Division (fun part => continues part || overruns part) raws parts) :
    Division continues raws parts ↔
      ∀ before blank after, raws = before ++ blank :: after → isBlankLine blank = true →
        after ≠ [] → ∃ line ∈ numbered 1 parts, line.number = before.length + 2 := by
  constructor
  · intro hrule before blank after heq hblank hafter
    subst heq
    obtain ⟨as, bs, rfl, has, hbs⟩ :=
      hrule.exists_append_of_stops (continues_of_isBlankLine hblank)
    refine exists_number_iff.2 ⟨as, bs, rfl, fun hnil => hafter (by rw [← hbs, hnil]; rfl), ?_⟩
    rw [has, List.length_append, List.length_singleton]
    omega
  · intro hbegins
    rw [division_continues_iff h]
    intro part hpart read rest heq hrest
    by_contra hover
    rw [Bool.not_eq_false] at hover
    obtain ⟨as, bs, rfl⟩ := List.append_of_mem hpart
    -- the line after the blank one would have to begin a part within the part
    obtain ⟨front, blank, rfl, hblank⟩ := exists_isBlankLine_of_overruns hover
    have hraws : raws = (as.flatten ++ front) ++ blank :: (rest ++ bs.flatten) := by
      rw [← h.flatten_eq, heq]
      simp
    have hnumber := hbegins _ blank _ hraws hblank (by simp [hrest])
    obtain ⟨cs, ds, hparts, -, hm⟩ := exists_number_iff.1 hnumber
    have hpos := List.length_pos_of_ne_nil hrest
    refine length_flatten_ne hparts (k := front.length + 1) (Nat.succ_pos _) ?_ ?_
    · rw [heq, List.length_append, List.length_append, List.length_singleton]
      omega
    · rw [List.length_append] at hm
      omega

/-! ## Main results -/

/-- **How a text is joined.** Its physical lines are divided, in order, into those of each logical
line. A line is continued by the rule, or because a blank line overruns the rule. The rule is kept
exactly if no blank line with a line after it follows a text that still ends in a backslash when one
is taken off; this is exactly if every line after a blank one, header or not, begins a logical line
of its own. -/
theorem joins (text : List Char) :
    ∃ parts, Division (fun part => continues part || overruns part) (linesOf text) parts ∧
      logicalLines text = numbered 1 parts ∧
      (Division continues (linesOf text) parts ↔
        ∀ part ∈ parts, ∀ read rest, part = read ++ rest → rest ≠ [] → overruns read = false) ∧
      (Division continues (linesOf text) parts ↔
        ∀ before blank after, linesOf text = before ++ blank :: after → isBlankLine blank = true →
          after ≠ [] → ∃ line ∈ logicalLines text, line.number = before.length + 2) := by
  have hdivision := division_logicalParts text
  refine ⟨logicalParts text, hdivision, logicalLines_eq text, division_continues_iff hdivision, ?_⟩
  rw [logicalLines_eq]
  exact division_continues_iff_number hdivision

/-- **A header after a blank line is swallowed**, since the value before ends in two backslashes.
By the rule the blank line would end the value. -/
theorem joins_header_after_blank :
    let text := "[Network]\nDescription=a\\\\\n\n[Match]\nName=eth0\n"
    parse text = .ok [⟨"Network", [("Description", "a [Match]"), ("Name", "eth0")]⟩] ∧
      ¬∃ parts, Division continues (linesOf text.toList) parts ∧
        logicalLines text.toList = numbered 1 parts := by
  refine ⟨by decide +kernel, ?_⟩
  rintro ⟨parts, hrule, hlines⟩
  rw [hrule.eq_divide] at hlines
  revert hlines
  decide +kernel

end NetUnits.UnitFile
