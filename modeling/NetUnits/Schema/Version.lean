import NetUnits.Text.Trim
import NetUnits.Text.Lines
import NetUnits.Text.Numeral

/-!
# Versions and generations

Schemas are installed in generations, numbered as systemd's versions are. A host gets the newest
generation that is not newer than its systemd.

* **`Version.parse?`** — the number a version text begins with.
* **`Version.ofProbe?`** — the number in what `networkctl --version` prints.
* **`Version.bestFit`** — the generation for a target.
* **`Version.resolve`** — the generation for a version text.
-/

namespace NetUnits.Version

open NetUnits.Text

/-- The generation assumed when nothing better is known. -/
def defaultGeneration : Nat := 257

/-- The text after one letter `v`, in either case, at its start. -/
def afterLetter : List Char → List Char
  | 'v' :: cs => cs
  | 'V' :: cs => cs
  | cs => cs

/-- **The number of a version text**: its leading digits, after blanks and a letter `v`. -/
def parseChars? (cs : List Char) : Option Nat :=
  natUpTo? maxNat32 ((afterLetter (trimStart cs)).takeWhile Char.isDigit)

/-- The number of a version text. -/
def parse? (text : String) : Option Nat :=
  parseChars? text.toList

/-- What the line with the version begins with. -/
def probeLead : List Char := "systemd ".toList

/-- The number of a line of a version probe. -/
def ofProbeLine? (line : List Char) : Option Nat :=
  let cs := trimChars line
  if probeLead.isPrefixOf cs then parseChars? (cs.drop probeLead.length) else none

/-- **The number in the output of a version probe**: that of the first line `systemd …` that has
one. -/
def ofProbe? (output : String) : Option Nat :=
  (linesOf output.toList).findSome? ofProbeLine?

/-- **The generation that fits a target**, of generations in ascending order: the greatest not
above the target, else the least; if there are none, the given one. -/
def bestFit (target fallback : Nat) (available : List Nat) : Nat :=
  match available.head?, available.getLast? with
  | some oldest, some newest =>
    if target ≤ oldest then oldest
    else if newest ≤ target then newest
    -- the order is ascending, so the last one that is left is the greatest
    else (available.filter (· ≤ target)).getLast?.getD oldest
  | _, _ => fallback

/-- **The generation for a version text**; a text without a number counts as `fallback`. -/
def resolve (text : String) (available : List Nat) (fallback : Nat) : Nat :=
  bestFit ((parse? text).getD fallback) fallback available

/-- **The generation for what a host reports**: the output of a version probe, or a version. -/
def resolveReport (text : String) (available : List Nat) (fallback : Nat) : Nat :=
  match ofProbe? text with
  | some n => resolve (toString n) available fallback
  | none => resolve text available fallback

@[simp] theorem bestFit_nil (target fallback : Nat) : bestFit target fallback [] = fallback := rfl

end NetUnits.Version
