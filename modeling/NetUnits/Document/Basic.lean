import NetUnits.Dict
import NetUnits.Document.Value

/-!
# Documents

A **document** is a unit file by its meaning: section names with their content, in name order. A
section stands once, or it is a list of blocks; each **block** maps keys to values.

* **`Document.Section.blocks`** — the blocks of a section, of which a single one is a list.
* **`Document.Section.push`** — one more block; a single block becomes a list.
-/

namespace NetUnits

/-- **A block**: the keys of one section of a unit file, with their values. -/
abbrev Block := Dict Value

/-- **The content of a section name** in a document. -/
inductive Document.Section where
  /-- The section is written once. -/
  | single (block : Block)
  /-- The section may be written several times. -/
  | repeated (blocks : List Block)
deriving Inhabited, DecidableEq

/-- **A document**: the content of each section name. -/
abbrev Document := Dict Document.Section

namespace Document.Section

/-- **The blocks of a section**, in order. -/
def blocks : Document.Section → List Block
  | single block => [block]
  | repeated blocks => blocks

/-- The first block of a section. -/
def first? (s : Document.Section) : Option Block :=
  s.blocks.head?

/-- **One more block** at the end; a single block becomes a list. -/
def push (s : Document.Section) (block : Block) : Document.Section :=
  repeated (s.blocks ++ [block])

@[simp] theorem blocks_single (block : Block) : (single block).blocks = [block] := rfl

@[simp] theorem blocks_repeated (bs : List Block) : (repeated bs).blocks = bs := rfl

@[simp] theorem blocks_push (s : Document.Section) (block : Block) :
    (s.push block).blocks = s.blocks ++ [block] := rfl

end Document.Section

namespace Document

/-- The first block of the section with a name. -/
def firstBlock? (d : Document) (header : String) : Option Block :=
  (d.get? header).bind Section.first?

end Document

end NetUnits
