import NetUnits.Number.Double

/-!
# JSON values

The tree of a JSON text, with what a reader can still tell apart: integers of 64 bits are exact,
every other number is of double precision, and the members of an object keep their order and
repetitions.

* **`Json`** — the tree.
* **`Json.get?`** — the member of an object; of repeated members the last counts.
* **`Json.depth`** — how deep arrays and objects are nested.
* **`Json.isReadable`** — whether nothing in a value can only be skipped.
* **`Json.same`** — whether two values are the same, which is decided by it.
-/

namespace NetUnits

/-- **A JSON value.** -/
inductive Json where
  /-- The value `null`. -/
  | null
  /-- A truth value. -/
  | bool (b : Bool)
  /-- An integer of 64 bits, with or without a sign. -/
  | int (i : Int)
  /-- Any other number: with a fraction or an exponent, beyond 64 bits, or a negative zero. -/
  | float (negative : Bool) (size : Double)
  /-- A string. -/
  | string (s : String)
  /-- An array. -/
  | array (items : List Json)
  /-- An object, with its members in the order in which they are written. -/
  | object (members : List (String × Json))
  /-- What can be skipped but not read: a string with half a surrogate pair, an object with such a
  key, or a number beyond double precision. -/
  | unreadable
deriving Inhabited

namespace Json

/-! ## Parts of a value -/

/-- The last value of a key in a list of members. -/
def lastOf? (key : String) : List (String × Json) → Option Json
  | [] => none
  | (k, v) :: rest => (lastOf? key rest).or (if k = key then some v else none)

/-- **The member of an object**: the last with the key. -/
def get? (key : String) : Json → Option Json
  | object members => lastOf? key members
  | _ => none

/-- The members of an object. -/
def members? : Json → Option (List (String × Json))
  | object members => some members
  | _ => none

/-- The items of an array. -/
def items? : Json → Option (List Json)
  | array items => some items
  | _ => none

/-- The text of a string. -/
def string? : Json → Option String
  | string s => some s
  | _ => none

/-- The value of an integer. -/
def int? : Json → Option Int
  | int i => some i
  | _ => none

/-- A truth value. -/
def bool? : Json → Option Bool
  | bool b => some b
  | _ => none

/-- The value of an integer from 0 to a limit. -/
def natUpTo? (limit : Nat) : Json → Option Nat
  | int i => if 0 ≤ i ∧ i ≤ limit then some i.toNat else none
  | _ => none

/-- Whether a value is an object. -/
def isObject (j : Json) : Bool :=
  j.members?.isSome

/-- The items of the array under a key, or none. -/
def itemsAt (key : String) (j : Json) : List Json :=
  ((j.get? key).bind items?).getD []

/-! ## Nesting -/

mutual

/-- **The nesting depth** of a value: 0 without arrays and objects. -/
def depth : Json → Nat
  | array items => 1 + depthItems items
  | object members => 1 + depthMembers members
  | _ => 0

/-- The greatest depth of the items. -/
def depthItems : List Json → Nat
  | [] => 0
  | j :: rest => max (depth j) (depthItems rest)

/-- The greatest depth of the members. -/
def depthMembers : List (String × Json) → Nat
  | [] => 0
  | (_, j) :: rest => max (depth j) (depthMembers rest)

end

/-! ## What can be read -/

mutual

/-- **Whether nothing in a value can only be skipped.** -/
def isReadable : Json → Bool
  | unreadable => false
  | array items => areReadable items
  | object members => holdReadable members
  | _ => true

/-- Whether all items can be read. -/
def areReadable : List Json → Bool
  | [] => true
  | j :: rest => isReadable j && areReadable rest

/-- Whether the values of all members can be read. -/
def holdReadable : List (String × Json) → Bool
  | [] => true
  | (_, j) :: rest => isReadable j && holdReadable rest

end

/-! ## Comparison -/

mutual

/-- **Whether two values are the same.** -/
def same : Json → Json → Bool
  | null, null | unreadable, unreadable => true
  | bool a, bool b => a == b
  | int a, int b => a == b
  | float negative a, float negative' b => negative == negative' && a == b
  | string a, string b => a == b
  | array as, array bs => sameItems as bs
  | object as, object bs => sameMembers as bs
  | _, _ => false

/-- Whether two lists have the same items. -/
def sameItems : List Json → List Json → Bool
  | [], [] => true
  | a :: as, b :: bs => same a b && sameItems as bs
  | _, _ => false

/-- Whether two lists have the same members. -/
def sameMembers : List (String × Json) → List (String × Json) → Bool
  | [], [] => true
  | (key, a) :: as, (key', b) :: bs => key == key' && same a b && sameMembers as bs
  | _, _ => false

end

mutual

theorem same_iff : ∀ a b : Json, same a b = true ↔ a = b
  | array as, b => by cases b <;> simp [same, sameItems_iff as]
  | object as, b => by cases b <;> simp [same, sameMembers_iff as]
  | null, b | unreadable, b => by cases b <;> simp [same]
  | bool _, b | int _, b | float _ _, b | string _, b => by cases b <;> simp [same]

theorem sameItems_iff : ∀ as bs : List Json, sameItems as bs = true ↔ as = bs
  | [], bs => by cases bs <;> simp [sameItems]
  | a :: as, bs => by cases bs <;> simp [sameItems, same_iff a, sameItems_iff as]

theorem sameMembers_iff : ∀ as bs : List (String × Json), sameMembers as bs = true ↔ as = bs
  | [], bs => by cases bs <;> simp [sameMembers]
  | (_, a) :: as, bs => by
    cases bs <;> simp [sameMembers, same_iff a, sameMembers_iff as, Prod.ext_iff, and_assoc]

end

instance : DecidableEq Json := fun a b => decidable_of_iff _ (same_iff a b)

@[simp] theorem get?_object (key : String) (members : List (String × Json)) :
    (object members).get? key = lastOf? key members := rfl

end Json

end NetUnits
