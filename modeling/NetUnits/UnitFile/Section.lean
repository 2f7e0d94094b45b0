/-!
# Sections of a unit file

A unit file is a list of sections, each with a name and a list of entries. Neither section names
nor keys need be distinct, and the order of both counts.

* **`Section.values`** — the values written for a key, in order.
* **`Section.grouped`** — the distinct keys in order of first appearance, each with its values.
-/

namespace NetUnits.UnitFile

/-- **A section**: its name without brackets, and its entries in the order they are written. -/
structure Section where
  /-- The name between the brackets. -/
  name : String
  /-- Key and value of each entry. -/
  entries : List (String × String)
deriving DecidableEq, Inhabited

namespace Section

/-- **The values of a key**, in the order they are written. -/
def values (s : Section) (key : String) : List String :=
  (s.entries.filter (·.1 = key)).map (·.2)

/-- Adds a value to the group of its key; a new key makes a group at the end. -/
def addToGroup (key value : String) : List (String × List String) → List (String × List String)
  | [] => [(key, [value])]
  | (k, vs) :: rest =>
    if k = key then (k, vs ++ [value]) :: rest else (k, vs) :: addToGroup key value rest

/-- **The distinct keys**, in order of first appearance, each with its values in order. -/
def grouped (s : Section) : List (String × List String) :=
  s.entries.foldl (fun groups e => addToGroup e.1 e.2 groups) []

@[simp] theorem values_nil (name key : String) : (Section.mk name []).values key = [] := rfl

@[simp] theorem grouped_nil (name : String) : (Section.mk name []).grouped = [] := rfl

end Section

end NetUnits.UnitFile
