/-!
# Patterns for text

A **pattern** is a regular expression. Here it is only asked whether a pattern can be used: no
tables of Unicode are at hand, so that nothing can be said about classes of characters or about
letter case, except in patterns of bytes. Such a pattern must still match whole characters only.

* **`Pattern`** — the tree of a pattern.
* **`Pattern.depth`** — how deep it is nested.
* **`Pattern.leaves`** — its smallest parts, with the mode that each is read in.
* **`Pattern.fault?`** — why it cannot be used, if it cannot.
-/

namespace NetUnits

namespace Pattern

/-- **What can be switched** in a pattern. -/
inductive Flag where
  /-- The case of letters does not count. -/
  | ignoreCase
  /-- Edges of lines are edges. -/
  | multiLine
  /-- A dot stands for line ends too. -/
  | dotAll
  /-- Repetitions are as short as possible. -/
  | short
  /-- The pattern is one of characters, not of bytes. -/
  | unicode
  /-- Carriage returns end lines too. -/
  | carriageReturns
  /-- Blanks and comments in the pattern do not count. -/
  | spaced
deriving DecidableEq

/-- **A flag that is switched** on or off. -/
structure Setting where
  /-- The flag. -/
  flag : Flag
  /-- Whether it is on. -/
  on : Bool
deriving DecidableEq

/-- **What decides how a part is read.** -/
structure Mode where
  /-- Whether the case of letters does not count. -/
  ignoreCase : Bool := false
  /-- Whether characters are matched, and not bytes. -/
  unicode : Bool := true
deriving DecidableEq

/-- The mode after a setting. -/
def Mode.after (m : Mode) (s : Setting) : Mode :=
  match s.flag with
  | .ignoreCase => { m with ignoreCase := s.on }
  | .unicode => { m with unicode := s.on }
  | _ => m

/-- **The smallest parts of a pattern.** -/
inductive Leaf where
  /-- A character; one below 256 may be written as a byte. -/
  | char (c : Char) (isByte : Bool)
  /-- The characters of a set from one to another. -/
  | range (first last : Char)
  /-- A set of ASCII characters by its name, or the others. -/
  | named (negated : Bool)
  /-- The digits, the blanks or the characters of words, or the others. -/
  | shorthand (negated : Bool)
  /-- All but what the rest of a set says. -/
  | complement
  /-- Any character but a line end. -/
  | dot
  /-- The beginning or the end of a text or line. -/
  | edge
  /-- A place where a word begins or ends, or one where none does. -/
  | wordEdge
deriving DecidableEq

/-- The number of characters, and of bytes, that ASCII has. -/
def asciiSize : Nat := 128

/-- **Whether a leaf is understood** in a mode. In patterns of bytes it must not match half of a
character. -/
def Leaf.isKnown (m : Mode) : Leaf → Bool
  | .char c isByte => if m.unicode then !m.ignoreCase else !isByte || c.toNat < asciiSize
  | .range _ last => if m.unicode then !m.ignoreCase else last.toNat < asciiSize
  | .named negated => if m.unicode then !m.ignoreCase else !negated
  | .shorthand negated => !m.unicode && !negated
  | .complement | .dot => m.unicode
  | .edge | .wordEdge => true

end Pattern

open NetUnits.Pattern in
/-- **A pattern.** -/
inductive Pattern where
  /-- The pattern of the empty text. -/
  | empty
  /-- A smallest part. -/
  | leaf (l : Leaf)
  /-- Settings for what follows in the same group. -/
  | settings (ss : List Setting)
  /-- A group, with settings of its own. -/
  | group (ss : List Setting) (body : Pattern)
  /-- A repetition. -/
  | repeated (body : Pattern)
  /-- One part after the other. -/
  | sequence (parts : List Pattern)
  /-- Either of some parts. -/
  | alternatives (parts : List Pattern)
  /-- A set of characters in brackets. -/
  | set (negated : Bool) (body : Pattern)
  /-- Two sets with an operator between them. -/
  | combined (left right : Pattern)

namespace Pattern

/-- Parts that follow one another; a single one stands for itself. -/
def ofSequence : List Pattern → Pattern
  | [] => empty
  | [p] => p
  | parts => sequence parts

/-- Whether a part can be repeated. -/
def isOperand : Pattern → Bool
  | empty | settings _ => false
  | _ => true

mutual

/-- **How deep a pattern is nested.** -/
def depth : Pattern → Nat
  | empty | leaf _ | settings _ => 0
  | group _ body | repeated body | set _ body => body.depth + 1
  | sequence parts | alternatives parts => depthOfList parts + 1
  | combined left right => max left.depth right.depth + 1

/-- The depth of the deepest of some patterns. -/
def depthOfList : List Pattern → Nat
  | [] => 0
  | p :: ps => max p.depth (depthOfList ps)

end

mutual

/-- **The leaves of a pattern**, each with its mode, and the mode for what follows. -/
def leaves (m : Mode) : Pattern → List (Mode × Leaf) × Mode
  | empty => ([], m)
  | leaf l => ([(m, l)], m)
  | settings ss => ([], ss.foldl .after m)
  | group ss body => ((body.leaves (ss.foldl .after m)).1, m)
  | repeated body => body.leaves m
  | sequence parts | alternatives parts => leavesOfList m parts
  | set negated body =>
    ((if negated then [(m, .complement)] else []) ++ (body.leaves m).1, m)
  | combined left right => ((left.leaves m).1 ++ (right.leaves m).1, m)

/-- The leaves of patterns that follow one another. -/
def leavesOfList (m : Mode) : List Pattern → List (Mode × Leaf) × Mode
  | [] => ([], m)
  | p :: ps =>
    let (found, m) := p.leaves m
    let (others, m) := leavesOfList m ps
    (found ++ others, m)

end

/-- **Why a pattern cannot be used.** -/
inductive Fault where
  /-- It is none, or a part of it is not understood. -/
  | invalid
  /-- It asks for the edges of words in any script. -/
  | wordEdge
deriving DecidableEq

/-- The wording of a fault. -/
def Fault.message : Fault → String
  | .invalid => "error building NFA"
  | .wordEdge =>
    "unsupported regex feature for DFAs: cannot build DFAs for regexes with Unicode word " ++
      "boundaries; switch to ASCII word boundaries, or heuristically enable Unicode word " ++
      "boundaries or use a different regex engine"

/-- How deep a pattern may be nested. -/
def maxDepth : Nat := 250

/-- **Why a pattern cannot be used**, if it cannot. -/
def fault? (p : Pattern) : Option Fault :=
  let found := (p.leaves {}).1
  if maxDepth < p.depth || !(found.all fun (m, l) => l.isKnown m) then some .invalid
  else if found.any fun (m, l) => l == .wordEdge && m.unicode then some .wordEdge
  else none

end Pattern

end NetUnits
