import NetUnits.Document.Basic
import NetUnits.Schema.Basic
import NetUnits.Text.Trim
import NetUnits.UnitFile.Parser
import NetUnits.UnitFile.Printer

/-!
# Between unit files and documents

Reading groups the sections of a name and the lines of a key, and gives each value the type of its
key:

| type              | value                                |
|-------------------|--------------------------------------|
| truth value, list | every line as a truth value, in order |
| truth value       | the last line as a truth value       |
| integer, list     | every line as an integer, in order   |
| integer           | the last line as an integer          |
| list              | every line as a text, in order       |
| no mark           | the last line as a text              |

Writing goes through sections and keys in name order, with a line for each scalar and a section
for each block.

* **`parseBool`**, **`parseInt`** — a text as a truth value or an integer; every text is one.
* **`Document.ofSections`**, **`Document.ofText`** — reading.
* **`Document.toSections`**, **`Document.toText`** — writing.
-/

namespace NetUnits

open NetUnits.Text

/-- The texts of the truth value true, in any letter case. -/
def trueWords : List String := ["1", "yes", "true", "on"]

/-- **A text as a truth value**: true if it is one of the words for it, blanks around it aside. -/
def parseBool (text : String) : Bool :=
  trueWords.any fun word => equalFold (trimChars text.toList) word.toList

/-- **A text as an integer**, blanks around it aside; 0 if it is none of 64 bits. -/
def parseInt (text : String) : Int64 :=
  (int64? (trimChars text.toList)).getD 0

namespace KeyType

/-- **A line as a value** of a type. -/
def coerce (t : KeyType) (text : String) : Value :=
  if t.isBool then .bool (parseBool text)
  else if t.isInt then .int (parseInt text)
  else .text text

/-- **The value of the lines of a key**: all of them in a list, or the last. -/
def valueOf? (t : KeyType) (lines : List String) : Option Value :=
  if t.isArray then some (.list (lines.map t.coerce)) else lines.getLast?.map t.coerce

mutual

/-- **The lines of a value** under a key of a type: one for each scalar. A text under a truth
value is written as the truth value it stands for. -/
def linesOf (t : KeyType) : Value → List String
  | .bool b => [Value.boolText b]
  | .int i => [int64Text i]
  | .text s => [if t.isBool then Value.boolText (parseBool s) else s]
  | .list items => linesOfAll t items

/-- The lines of a list of values. -/
def linesOfAll (t : KeyType) : List Value → List String
  | [] => []
  | v :: rest => linesOf t v ++ linesOfAll t rest

end

end KeyType

namespace Document

/-! ## Reading -/

/-- **The block of a section**: each key with the value of its lines. -/
def blockOf (types : KeyTypes) (kind : Kind) (s : UnitFile.Section) : Block :=
  Dict.ofList (s.grouped.filterMap fun group =>
    ((types.lookup kind s.name group.1).valueOf? group.2).map (group.1, ·))

/-- Adds a block under a section name. The first block of a name stands alone, unless the section
may be written several times. -/
def addBlock (repeatable : Repeatable) (kind : Kind) (header : String) (block : Block)
    (d : Document) : Document :=
  match d.get? header with
  -- a second block makes a list of the section, whatever its name
  | some content => d.insert header (content.push block)
  | none =>
    d.insert header
      (if repeatable.allows kind header then .repeated [block] else .single block)

/-- **The document of a list of sections.** -/
def ofSections (types : KeyTypes) (repeatable : Repeatable) (kind : Kind)
    (sections : List UnitFile.Section) : Document :=
  sections.foldl (fun d s => addBlock repeatable kind s.name (blockOf types kind s) d) ∅

/-- **The document of a text.** -/
def ofText (text : String) (types : KeyTypes) (repeatable : Repeatable) (kind : Kind) :
    Except UnitFile.Error Document :=
  (UnitFile.parse text).map (ofSections types repeatable kind)

/-! ## Writing -/

/-- **The section of a block**: a line for each scalar of each key. -/
def sectionOf (types : KeyTypes) (kind : Kind) (header : String) (block : Block) :
    UnitFile.Section :=
  ⟨header, block.entries.flatMap fun e =>
    ((types.lookup kind header e.1).linesOf e.2).map (e.1, ·)⟩

/-- **The sections of a document**, in name order: one for each block. -/
def toSections (types : KeyTypes) (kind : Kind) (d : Document) : List UnitFile.Section :=
  d.entries.flatMap fun e => e.2.blocks.map (sectionOf types kind e.1)

/-- **The text of a document.** -/
def toText (d : Document) (types : KeyTypes) (kind : Kind) : Except UnitFile.Error String :=
  UnitFile.render (d.toSections types kind)

@[simp] theorem ofSections_nil (types : KeyTypes) (repeatable : Repeatable) (kind : Kind) :
    ofSections types repeatable kind [] = ∅ := rfl

end Document

end NetUnits
