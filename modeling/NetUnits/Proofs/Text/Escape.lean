import NetUnits.Text.Escape
import Mathlib.Order.Basic

/-! # What remains of a text without its control sequences

A text consists of characters that are shown and of sequences that begin with an escape. A
sequence is complete, or the end of the text cuts it off:

* **`IsControlSequence`**, **`IsSequence`**, **`IsUnfinished`** — the sequences.
* **`Remains`** — what remains of a text, part by part; **`stripEscapes_eq_iff`** — exactly this is
  left of it.
* **`Remains.escapeChar_notMem`**, **`Remains.sublist`** — no escape remains, and nothing is added.
* **`stripEscapes_append`**, **`IsSequence.stripEscapes_append`** — what a text begins with stays if
  it has no escape, and goes if it is a sequence; all else is left alone.
* **`Strips`** — what it means to remove the sequences; **`strips_plain`** — they are removed. -/

namespace NetUnits.Text

/-! ## Sequences -/

/-- **The final characters**, which end a control sequence. -/
def IsFinal (c : Char) : Prop :=
  '@' ≤ c ∧ c ≤ '~'

theorem isFinal_eq_true_iff {c : Char} : isFinal c = true ↔ IsFinal c := by
  simp [isFinal, IsFinal]

theorem isFinal_eq_false_iff {c : Char} : isFinal c = false ↔ ¬IsFinal c := by
  rw [← isFinal_eq_true_iff, Bool.not_eq_true]

/-- **A complete control sequence**: an escape, a bracket, any characters that are not final, and
one that is. -/
inductive IsControlSequence : List Char → Prop
  | mk {parameters : List Char} {final : Char} (hparameters : ∀ c ∈ parameters, ¬IsFinal c)
      (hfinal : IsFinal final) :
      IsControlSequence (escapeChar :: '[' :: (parameters ++ [final]))

/-- **A complete sequence**: a control sequence, or an escape with one character that opens none. -/
inductive IsSequence : List Char → Prop
  | control {q : List Char} (h : IsControlSequence q) : IsSequence q
  | pair {c : Char} (h : c ≠ '[') : IsSequence [escapeChar, c]

/-- **A sequence that the end of the text cuts off.** -/
inductive IsUnfinished : List Char → Prop
  | escape : IsUnfinished [escapeChar]
  | control {parameters : List Char} (h : ∀ c ∈ parameters, ¬IsFinal c) :
      IsUnfinished (escapeChar :: '[' :: parameters)

/-! ## What remains -/

/-- **What remains of a text.** -/
inductive Remains : List Char → List Char → Prop
  /-- Of nothing, nothing. -/
  | nil : Remains [] []
  /-- A character outside of sequences stays. -/
  | char {c : Char} {text rest : List Char} (h : c ≠ escapeChar) (hrest : Remains text rest) :
      Remains (c :: text) (c :: rest)
  /-- A complete sequence goes. -/
  | sequence {q text rest : List Char} (h : IsSequence q) (hrest : Remains text rest) :
      Remains (q ++ text) rest
  /-- What is left of a sequence at the end goes too. -/
  | unfinished {q : List Char} (h : IsUnfinished q) : Remains q []

section Remains

variable {text rest parameters q a b : List Char}

/-- A character that is not final leaves a control sequence open. -/
theorem stripInSequence_append (h : ∀ c ∈ parameters, ¬IsFinal c) (text : List Char) :
    stripInSequence (parameters ++ text) = stripInSequence text := by
  induction parameters with
  | nil => rfl
  | cons c cs ih =>
    obtain ⟨hc, hcs⟩ := List.forall_mem_cons.1 h
    rw [List.cons_append, stripInSequence, isFinal_eq_false_iff.2 hc, ih hcs]
    rfl

/-- What comes behind a bracket that opens a control sequence. -/
theorem stripEscapes_bracket (text : List Char) :
    stripEscapes (escapeChar :: '[' :: text) = stripInSequence text := by
  rw [stripEscapes, if_pos rfl, stripAfterEscape, if_pos rfl]

/-- **A complete sequence is passed over.** -/
theorem IsSequence.stripEscapes_append (h : IsSequence q) (text : List Char) :
    stripEscapes (q ++ text) = stripEscapes text := by
  cases h with
  | control h =>
    obtain ⟨hparameters, hfinal⟩ := h
    rw [List.cons_append, List.cons_append, stripEscapes_bracket, List.append_assoc,
      stripInSequence_append hparameters, List.singleton_append, stripInSequence,
      if_pos (isFinal_eq_true_iff.2 hfinal)]
  | @pair c h =>
    rw [List.cons_append, List.singleton_append, stripEscapes, if_pos rfl, stripAfterEscape,
      if_neg h]

/-- Nothing is left of a sequence that is cut off. -/
theorem IsUnfinished.stripEscapes_eq_nil (h : IsUnfinished q) : stripEscapes q = [] := by
  cases h with
  | escape => simp [stripEscapes, stripAfterEscape]
  | @control parameters h =>
    rw [stripEscapes_bracket, ← List.append_nil parameters, stripInSequence_append h,
      stripInSequence]

/-- What remains of a text is left of it. -/
theorem Remains.stripEscapes_eq (h : Remains text rest) : stripEscapes text = rest := by
  induction h with
  | nil => exact stripEscapes_nil
  | char hc _ ih => rw [stripEscapes_cons hc, ih]
  | sequence hq _ ih => rw [hq.stripEscapes_append, ih]
  | unfinished hq => exact hq.stripEscapes_eq_nil

-- the scan goes back and forth between its three states, so one induction is on the text in all of
-- them; inside of a control sequence it has to know what was read of it

mutual

/-- What is left of a text remains of it. -/
theorem remains_stripEscapes : ∀ text, Remains text (stripEscapes text)
  | [] => by
    rw [stripEscapes]
    exact .nil
  | c :: cs => by
    rw [stripEscapes]
    split
    case isTrue hc =>
      rw [hc]
      exact remains_stripAfterEscape cs
    case isFalse hc => exact .char hc (remains_stripEscapes cs)

/-- The same for a text that follows an escape. -/
theorem remains_stripAfterEscape :
    ∀ text, Remains (escapeChar :: text) (stripAfterEscape text)
  | [] => by
    rw [stripAfterEscape]
    exact .unfinished .escape
  | c :: cs => by
    rw [stripAfterEscape]
    split
    case isTrue hc =>
      have hnone : ∀ d ∈ ([] : List Char), ¬IsFinal d := by simp
      rw [hc]
      exact remains_stripInSequence hnone cs
    case isFalse hc => exact .sequence (.pair hc) (remains_stripEscapes cs)

/-- The same inside of a control sequence, behind some of its characters. -/
theorem remains_stripInSequence {parameters : List Char} (h : ∀ c ∈ parameters, ¬IsFinal c) :
    ∀ text, Remains (escapeChar :: '[' :: (parameters ++ text)) (stripInSequence text)
  | [] => by
    rw [stripInSequence, List.append_nil]
    exact .unfinished (.control h)
  | c :: cs => by
    rw [stripInSequence, List.append_cons]
    split
    case isTrue hc =>
      exact .sequence (.control (.mk h (isFinal_eq_true_iff.1 hc))) (remains_stripEscapes cs)
    case isFalse hc =>
      have hmore : ∀ d ∈ parameters ++ [c], ¬IsFinal d :=
        List.forall_mem_append.2 ⟨h, by simpa using mt isFinal_eq_true_iff.2 hc⟩
      exact remains_stripInSequence hmore cs

end

/-- **Exactly what remains of a text is left of it.** -/
theorem stripEscapes_eq_iff : stripEscapes text = rest ↔ Remains text rest :=
  ⟨fun h => h ▸ remains_stripEscapes text, Remains.stripEscapes_eq⟩

/-- No escape remains. -/
theorem Remains.escapeChar_notMem (h : Remains text rest) : escapeChar ∉ rest := by
  induction h with
  | nil => simp
  | char hc _ ih => simpa [Ne.symm hc] using ih
  | sequence _ _ ih => exact ih
  | unfinished _ => simp

/-- What remains of a text is in it, in order. -/
theorem Remains.sublist (h : Remains text rest) : rest.Sublist text := by
  induction h with
  | nil => exact .slnil
  | char _ _ ih => exact ih.cons_cons _
  | sequence _ _ ih => exact ih.trans (List.sublist_append_right _ _)
  | unfinished _ => exact List.nil_sublist _

/-- **A text before the first escape is left as it is**, whatever follows. -/
theorem stripEscapes_append (h : escapeChar ∉ a) (b : List Char) :
    stripEscapes (a ++ b) = a ++ stripEscapes b := by
  induction a with
  | nil => rfl
  | cons c cs ih =>
    obtain ⟨hc, hcs⟩ := not_or.1 (mt List.mem_cons.2 h)
    rw [List.cons_append, stripEscapes_cons (Ne.symm hc), ih hcs, List.cons_append]

/-- **A text is left as it is exactly if it has no escape.** -/
theorem stripEscapes_eq_self_iff : stripEscapes text = text ↔ escapeChar ∉ text := by
  constructor
  · intro h
    exact (stripEscapes_eq_iff.1 h).escapeChar_notMem
  · intro h
    simpa using stripEscapes_append h []

end Remains

/-! ## Strings -/

theorem toList_plain (s : String) : (plain s).toList = stripEscapes s.toList := by
  rw [plain, String.toList_ofList]

/-- The same for strings. -/
theorem remains_plain (s : String) : Remains s.toList (plain s).toList := by
  rw [toList_plain]
  exact remains_stripEscapes _

theorem plain_eq_self_iff {s : String} : plain s = s ↔ escapeChar ∉ s.toList := by
  rw [← String.toList_inj, toList_plain]
  exact stripEscapes_eq_self_iff

/-- **What it means to remove the sequences of a text.** -/
structure Strips (f : String → String) : Prop where
  /-- No escape is left. -/
  escape_notMem : ∀ s, escapeChar ∉ (f s).toList
  /-- Nothing is added or moved. -/
  sublist : ∀ s, (f s).toList.Sublist s.toList
  /-- Nothing happens to a text without escapes, and only to such a text. -/
  eq_self_iff : ∀ s, f s = s ↔ escapeChar ∉ s.toList
  /-- There is nothing left to do. -/
  idempotent : ∀ s, f (f s) = f s
  /-- A complete control sequence goes, and takes nothing of the text around it. -/
  sequence : ∀ a q b : String, escapeChar ∉ a.toList → IsControlSequence q.toList →
    f (a ++ q ++ b) = a ++ f b
  /-- So it is with all of the text: characters stay, sequences go. -/
  remains : ∀ s, Remains s.toList (f s).toList

/-- **Control sequences are removed**, and nothing else. -/
theorem strips_plain : Strips plain where
  escape_notMem := fun s => (remains_plain s).escapeChar_notMem
  sublist := fun s => (remains_plain s).sublist
  eq_self_iff := fun _ => plain_eq_self_iff
  idempotent := fun s => plain_eq_self_iff.2 (remains_plain s).escapeChar_notMem
  sequence := by
    intro a q b ha hq
    rw [← String.toList_inj, toList_plain, String.toList_append, String.toList_append,
      List.append_assoc, stripEscapes_append ha, (IsSequence.control hq).stripEscapes_append,
      String.toList_append, toList_plain]
  remains := remains_plain

/-- An escape takes the character behind it, be it an escape; what follows is no sequence then. -/
example : stripEscapes ['a', '\x1b', '\x1b', '[', 'm', '\x1b', '[', '2', ';', '5', 'H', 'b'] =
    ['a', '[', 'm', 'b'] := by
  decide

end NetUnits.Text
