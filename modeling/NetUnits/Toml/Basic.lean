/-!
# TOML values

A TOML document is a table: keys with values. How a table came about decides what may still be
added to it, so each table keeps its origin.

* **`Toml`** — values; **`Toml.Origin`** how a table came about.
* **`Toml.edit?`** — a change of the table that a path of keys leads to.
* **`Toml.Statement`** — a line of a document; **`Toml.ofStatements?`** the document of its lines.
-/

namespace NetUnits

/-- **How a table came about.** -/
inductive Toml.Origin where
  /-- By a header of its own, or it is the document. -/
  | header
  /-- By a header of a table in it. -/
  | implied
  /-- By a key with dots. -/
  | dotted
  /-- It is written in braces and complete. -/
  | sealed
deriving DecidableEq

/-- **A TOML value.** Numbers with a fraction and times are not looked into. -/
inductive Toml where
  /-- A string. -/
  | string (s : String)
  /-- An integer of 64 bits. -/
  | integer (i : Int)
  /-- A number with a fraction or an exponent, or one that is no number. -/
  | float
  /-- A truth value. -/
  | boolean (b : Bool)
  /-- A date, a time of day, or both. -/
  | time
  /-- An array. -/
  | array (items : List Toml)
  /-- A table with its keys in order. -/
  | table (origin : Toml.Origin) (members : List (String × Toml))
  /-- The tables that headers in double brackets have begun, in order. -/
  | tables (items : List Toml)
deriving Inhabited

namespace Toml

/-- The value of a key. -/
def find? (key : String) : List (String × Toml) → Option Toml
  | [] => none
  | (k, v) :: rest => if k = key then some v else find? key rest

/-- The members with another value for a key. -/
def replace (key : String) (value : Toml) (members : List (String × Toml)) :
    List (String × Toml) :=
  members.map fun m => if m.1 = key then (key, value) else m

/-- Whether a way through a table is open: a key with dots does not lead into a table with a
header, and nothing leads into a sealed one. -/
def isOpen (way origin : Origin) : Bool :=
  match origin with
  | .sealed => false
  | .header => way != .dotted
  | _ => true

/-- **A change of the table that a path leads to.** Tables on the way that are missing come about
as `way` says; of several tables under a key the last counts. -/
def edit? (way : Origin) (change : Toml → Option Toml) : List String → Toml → Option Toml
  | [], t => change t
  | key :: path, table origin members =>
    match find? key members with
    | none =>
      (edit? way change path (table way [])).map fun child =>
        table origin (members ++ [(key, child)])
    | some (table o ms) =>
      if isOpen way o then
        (edit? way change path (table o ms)).map fun child =>
          table origin (replace key child members)
      else none
    | some (tables items) =>
      match items.getLast? with
      | none => none
      | some last =>
        (edit? way change path last).map fun child =>
          table origin (replace key (tables (items.dropLast ++ [child])) members)
    | some _ => none
  | _ :: _, _ => none

/-- The table with a new key. -/
def addKey? (key : String) (value : Toml) : Toml → Option Toml
  | table origin members =>
    match find? key members with
    | none => some (table origin (members ++ [(key, value)]))
    | some _ => none
  | _ => none

/-- The same for a table that keys with dots lead to: it must have come about by them. -/
def addDottedKey? (key : String) (value : Toml) : Toml → Option Toml
  | table .dotted members => addKey? key value (table .dotted members)
  | _ => none

/-- **A table with a new entry**, whose key may have dots. -/
def addEntry? (key : List String) (value : Toml) (t : Toml) : Option Toml :=
  match key.reverse with
  | [] => none
  | [last] => addKey? last value t
  | last :: path => edit? .dotted (addDottedKey? last value) path.reverse t

/-- The members of a table that a header can still define: one that is missing or implied. -/
def undefinedMembers? (key : String) (members : List (String × Toml)) :
    Option (List (String × Toml)) :=
  match find? key members with
  | none => some []
  | some (table .implied ms) => some ms
  | _ => none

/-- Defines the table under a key by a header, and fills it. -/
def define? (fill : Toml → Option Toml) (key : String) : Toml → Option Toml
  | table origin members => do
    -- what headers of inner tables have put into the table stays in it
    let before ← undefinedMembers? key members
    let filled ← fill (table .header before)
    return table origin (members.filter (·.1 != key) ++ [(key, filled)])
  | _ => none

/-- Adds a filled table to the tables under a key. -/
def defineNext? (fill : Toml → Option Toml) (key : String) : Toml → Option Toml
  | table origin members => do
    let filled ← fill (table .header [])
    match find? key members with
    | none => return table origin (members ++ [(key, tables [filled])])
    | some (tables items) =>
      return table origin (replace key (tables (items ++ [filled])) members)
    | some _ => none
  | _ => none

/-- **A line of a document.** -/
inductive Statement where
  /-- A key, which may have dots, with its value. -/
  | entry (key : List String) (value : Toml)
  /-- A header. -/
  | header (path : List String)
  /-- A header in double brackets. -/
  | arrayHeader (path : List String)

/-- The entries before the next header. -/
def leadingEntries : List Statement → List (List String × Toml)
  | .entry key value :: rest => (key, value) :: leadingEntries rest
  | _ => []

/-- A table with entries added. -/
def addEntries? (entries : List (List String × Toml)) (t : Toml) : Option Toml :=
  entries.foldlM (fun t e => addEntry? e.1 e.2 t) t

/-- The document with what a header and the entries after it define. -/
def addBlock? (path : List String) (define : String → Toml → Option Toml) (t : Toml) :
    Option Toml :=
  match path.reverse with
  | [] => none
  | last :: before => edit? .implied (define last) before.reverse t

/-- The document with what the headers of further lines define. -/
def addBlocks? : List Statement → Toml → Option Toml
  | [], t => some t
  | .entry _ _ :: rest, t => addBlocks? rest t
  | .header path :: rest, t =>
    (addBlock? path (define? (addEntries? (leadingEntries rest))) t).bind (addBlocks? rest)
  | .arrayHeader path :: rest, t =>
    (addBlock? path (defineNext? (addEntries? (leadingEntries rest))) t).bind (addBlocks? rest)

/-- **The document of its lines.** -/
def ofStatements? (statements : List Statement) : Option Toml :=
  (addEntries? (leadingEntries statements) (table .header [])).bind (addBlocks? statements)

end Toml

end NetUnits
