/-!
# Character classes

Three classes decide how text is read: blanks are trimmed and separate words, control characters
are refused in names, and letter case is ignored for ASCII letters only.

* **`isBlank`** — the Unicode property White_Space.
* **`isControl`** — the general category Cc.
* **`equalFold`** — equality of two character lists up to the case of ASCII letters.
-/

namespace NetUnits.Text

/-- **Blank characters** are those with the Unicode property White_Space. -/
def isBlank (c : Char) : Bool :=
  let n := c.toNat
  (0x09 ≤ n && n ≤ 0x0D) || n == 0x20 || n == 0x85 || n == 0xA0 || n == 0x1680 ||
    (0x2000 ≤ n && n ≤ 0x200A) || n == 0x2028 || n == 0x2029 || n == 0x202F || n == 0x205F ||
    n == 0x3000

/-- **Control characters** are those of the general category Cc. -/
def isControl (c : Char) : Bool :=
  let n := c.toNat
  n < 0x20 || (0x7F ≤ n && n ≤ 0x9F)

/-- **Equality up to ASCII case**: `A` to `Z` equal `a` to `z`, all else only itself. -/
def equalFold (a b : List Char) : Bool :=
  a.map Char.toLower == b.map Char.toLower

@[simp] theorem equalFold_self (a : List Char) : equalFold a a = true := by
  simp [equalFold]

end NetUnits.Text
