import NetUnits.Text.Numeral

/-!
# Values of a document

A value is a truth value, an integer of 64 bits, a text, or a list of values.

* **`Value.display`** — the text of a value; the items of a list are separated by spaces.
* **`Value.texts`** — the texts of all scalars in a value, in order.
-/

namespace NetUnits

/-- **A configuration value.** -/
inductive Value where
  /-- A truth value. -/
  | bool (b : Bool)
  /-- An integer. -/
  | int (i : Int64)
  /-- A text, as it is written. -/
  | text (s : String)
  /-- The values of a key that may be written several times. -/
  | list (items : List Value)
deriving Inhabited

namespace Value

mutual

/-- Equality of values can be decided. -/
def decEq : (a b : Value) → Decidable (a = b)
  | bool a, bool b => decidable_of_iff (a = b) (by simp)
  | int a, int b => decidable_of_iff (a = b) (by simp)
  | text a, text b => decidable_of_iff (a = b) (by simp)
  | list a, list b =>
    match decEqItems a b with
    | isTrue h => isTrue (by rw [h])
    | isFalse h => isFalse (by simpa using h)
  | bool _, int _ | bool _, text _ | bool _, list _ => isFalse (by simp)
  | int _, bool _ | int _, text _ | int _, list _ => isFalse (by simp)
  | text _, bool _ | text _, int _ | text _, list _ => isFalse (by simp)
  | list _, bool _ | list _, int _ | list _, text _ => isFalse (by simp)

/-- Equality of lists of values can be decided. -/
def decEqItems : (a b : List Value) → Decidable (a = b)
  | [], [] => isTrue rfl
  | [], _ :: _ => isFalse (by simp)
  | _ :: _, [] => isFalse (by simp)
  | v :: vs, w :: ws =>
    match decEq v w, decEqItems vs ws with
    | isTrue h, isTrue hs => isTrue (by rw [h, hs])
    | isFalse h, _ => isFalse fun e => h (List.cons.inj e).1
    | _, isFalse hs => isFalse fun e => hs (List.cons.inj e).2

end

instance : DecidableEq Value := decEq

/-- The text of a truth value. -/
def boolText (b : Bool) : String :=
  if b then "true" else "false"

mutual

/-- The characters of a value. -/
def displayChars : Value → List Char
  | bool b => (boolText b).toList
  | int i => (Text.int64Text i).toList
  | text s => s.toList
  | list [] => []
  | list (v :: rest) => displayChars v ++ displayRest rest

/-- The characters of the items after the first, each after a space. -/
def displayRest : List Value → List Char
  | [] => []
  | v :: rest => ' ' :: displayChars v ++ displayRest rest

end

/-- **The text of a value.** -/
def display (v : Value) : String :=
  String.ofList (displayChars v)

mutual

/-- **The texts of the scalars** in a value, in order. -/
def texts : Value → List String
  | bool b => [boolText b]
  | int i => [Text.int64Text i]
  | text s => [s]
  | list items => textsOfAll items

/-- The texts of the scalars in a list of values. -/
def textsOfAll : List Value → List String
  | [] => []
  | v :: rest => texts v ++ textsOfAll rest

end

/-- The text of a text value. -/
def text? : Value → Option String
  | text s => some s
  | _ => none

/-- The integer of an integer value. -/
def int? : Value → Option Int64
  | int i => some i
  | _ => none

/-- The texts of a list are those of its items, one after the other. -/
theorem textsOfAll_eq_flatMap (items : List Value) : textsOfAll items = items.flatMap texts := by
  induction items with
  | nil => simp [textsOfAll]
  | cons v rest ih => simp [textsOfAll, ih]

end Value

end NetUnits
