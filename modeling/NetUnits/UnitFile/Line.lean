import NetUnits.Text.Trim
import NetUnits.Text.Lines

/-!
# Logical lines

A physical line that ends in a backslash is continued by the next one: the backslash and the
blanks around the break give way to one space. Comment lines are never continued.

* **`Line`** — a logical line with the number of its first physical line.
* **`isOpen`** — whether the text read so far asks for another physical line.
* **`logicalLines`** — the logical lines of a text.
-/

namespace NetUnits.UnitFile

open NetUnits.Text

/-- **A logical line**: its text, and the number of the physical line it begins on. -/
structure Line where
  /-- Number of the first physical line, from 1. -/
  number : Nat
  /-- The joined text. -/
  text : List Char
deriving DecidableEq

/-- Whether a line is a comment: its first character that is not blank is `#` or `;`. -/
def isComment (text : List Char) : Bool :=
  match trimStart text with
  | '#' :: _ => true
  | ';' :: _ => true
  | _ => false

/-- **Whether a line is continued**: it ends in a backslash, blanks after it aside, and is no
comment. -/
def isOpen (text : List Char) : Bool :=
  !isComment text && (trimEnd text).getLast? == some '\\'

/-- The text of a continued line without the backslash and the blanks before it. -/
def withoutBackslash (text : List Char) : List Char :=
  trimEnd (trimEnd text).dropLast

/-- The line that `raw`, physical line number `n`, completes or continues. -/
def extend (pending : Option Line) (n : Nat) (raw : List Char) : Line :=
  match pending with
  | some line => ⟨line.number, line.text ++ ' ' :: trimStart raw⟩
  | none => ⟨n, raw⟩

/-- The logical lines of the physical lines from number `n` on, after an unfinished line. -/
def joinFrom (pending : Option Line) (n : Nat) : List (List Char) → List Line
  | [] => pending.toList
  | raw :: rest =>
    let line := extend pending n raw
    if isOpen line.text then
      -- the number stays that of the first physical line
      joinFrom (some ⟨line.number, withoutBackslash line.text⟩) (n + 1) rest
    else line :: joinFrom none (n + 1) rest

/-- **The logical lines** of a text. -/
def logicalLines (text : List Char) : List Line :=
  joinFrom none 1 (linesOf text)

@[simp] theorem joinFrom_nil (pending : Option Line) (n : Nat) :
    joinFrom pending n [] = pending.toList := rfl

/-- One physical line either leaves a line unfinished or closes it. -/
theorem joinFrom_cons (pending : Option Line) (n : Nat) (raw : List Char)
    (rest : List (List Char)) :
    joinFrom pending n (raw :: rest) =
      if isOpen (extend pending n raw).text then
        joinFrom (some ⟨(extend pending n raw).number,
          withoutBackslash (extend pending n raw).text⟩) (n + 1) rest
      else extend pending n raw :: joinFrom none (n + 1) rest := rfl

@[simp] theorem logicalLines_nil : logicalLines [] = [] := rfl

end NetUnits.UnitFile
