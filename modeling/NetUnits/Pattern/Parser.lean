import NetUnits.Pattern.Basic
import NetUnits.Text.Alphanumeric
import NetUnits.Text.Class
import NetUnits.Text.Numeral

/-!
# Reading patterns

The grammar is that of common regular expressions, without back references and without looking
around. Patterns stand in braces, and a closing brace ends them: counts, names of properties and
all else that is written in braces is never complete.

* **`Pattern.parse?`** — the pattern of a text.
* **`Pattern.faultOf?`** — why a text is not a pattern that can be used, if it is none.
-/

namespace NetUnits.Pattern

open NetUnits.Text

/-! ## Blanks and comments -/

/-- The text after blanks and comments. -/
def skipSpace (inComment : Bool) : List Char → List Char
  | [] => []
  | c :: cs =>
    if inComment then skipSpace (c != '\n') cs
    else if isBlank c then skipSpace false cs
    else if c = '#' then skipSpace true cs
    else c :: cs

/-- The text after what does not count at its start. -/
def skip (spaced : Bool) (cs : List Char) : List Char :=
  if spaced then skipSpace false cs else cs

/-- The character after a hyphen that decides whether it stands for itself. A comment hides no more
than its mark. -/
def afterHyphen? (spaced : Bool) (cs : List Char) : Option Char :=
  if spaced then
    match cs.dropWhile isBlank with
    | '#' :: cs => (cs.dropWhile isBlank).head?
    | cs => cs.head?
  else cs.head?

/-! ## Escapes -/

/-- The number of hexadecimal digits, as many as `count`, and the text after them. -/
def hexRun? (spaced : Bool) : Nat → Nat → List Char → Option (Nat × List Char)
  | 0, n, cs => some (n, cs)
  | count + 1, n, cs =>
    match skip spaced cs with
    | [] => none
    | c :: cs => (hexDigit? c).bind fun d => hexRun? spaced count (n * 16 + d) cs

/-- The character with the number of some hexadecimal digits, and the text after them. -/
def ofHex? (spaced : Bool) (count : Nat) (cs : List Char) : Option (Leaf × List Char) :=
  (hexRun? spaced count 0 cs).bind fun (n, cs) =>
    if n.isValidChar then some (.char (Char.ofNat n) (count == 2), cs) else none

/-- The leaf of an escape that is a single character. -/
def shortEscape? (c : Char) : Option Leaf :=
  if "dsw".toList.contains c then some (.shorthand false)
  else if "DSW".toList.contains c then some (.shorthand true)
  else if "bB<>".toList.contains c then some .wordEdge
  else if "Az".toList.contains c then some .edge
  else if "afnrtv".toList.contains c || (c.toNat < asciiSize && !c.isAlphanum) then
    some (.char c false)
  else none

/-- The leaf of an escape, from what follows the backslash, and the text after it. Classes by their
properties are not understood. -/
def escape? (spaced : Bool) : List Char → Option (Leaf × List Char)
  | 'x' :: cs => ofHex? spaced 2 cs
  | 'u' :: cs => ofHex? spaced 4 cs
  | 'U' :: cs => ofHex? spaced 8 cs
  | 'b' :: '\x7b' :: _ => none
  | c :: cs => (shortEscape? c).map fun l => (l, cs)
  | [] => none

/-! ## Sets -/

/-- The names of sets of ASCII characters. -/
def asciiNames : List String :=
  ["alnum", "alpha", "ascii", "blank", "cntrl", "digit", "graph", "lower", "print", "punct",
    "space", "upper", "word", "xdigit"]

/-- The named set that begins after an opening bracket, and the text after it. -/
def named? : List Char → Option (Leaf × List Char)
  | ':' :: cs =>
    let (negated, cs) := match cs with
      | '^' :: cs => (true, cs)
      | cs => (false, cs)
    let name := cs.takeWhile (· != ':')
    match cs.drop name.length with
    | ':' :: ']' :: cs =>
      if asciiNames.contains (String.ofList name) then some (.named negated, cs) else none
    | _ => none
  | _ => none

/-- One part of a set, and the text after it. -/
def setPart? (spaced : Bool) : List Char → Option (Leaf × List Char)
  | '\\' :: cs => escape? spaced cs
  | c :: cs => some (.char c false, cs)
  | [] => none

/-- A part that stands for itself: an escape of a place is none. -/
def member? : Leaf → Option Leaf
  | .char c _ => some (.range c c)
  | .shorthand negated => some (.shorthand negated)
  | _ => none

/-- The range between two characters in order. -/
def rangeOf? : Leaf → Leaf → Option Leaf
  | .char first _, .char last _ => if first ≤ last then some (.range first last) else none
  | _, _ => none

/-- A character, a shorthand or a range of a set, and the text after it. -/
def setItem? (spaced : Bool) (cs : List Char) : Option (Leaf × List Char) := do
  let (first, cs) ← setPart? spaced cs
  match skip spaced cs with
  | '-' :: rest =>
    if afterHyphen? spaced rest = some ']' || afterHyphen? spaced rest = some '-' then
      return (← member? first, '-' :: rest)
    else
      let (last, rest) ← setPart? spaced (skip spaced rest)
      return (← rangeOf? first last, rest)
  | cs => return (← member? first, cs)

/-- **A set that is open**: what is read of it so far. -/
structure OpenSet where
  /-- Whether it is the set of all others. -/
  negated : Bool := false
  /-- Whether nothing but hyphens was read. -/
  atStart : Bool := true
  /-- What stands before the last operator. -/
  left : Option Pattern := none
  /-- The items after it, last first. -/
  items : List Pattern := []

/-- The open set with one more item. -/
def OpenSet.push (s : OpenSet) (item : Pattern) : OpenSet :=
  { s with atStart := false, items := item :: s.items }

/-- What is read of an open set. -/
def OpenSet.body (s : OpenSet) : Pattern :=
  let right := ofSequence s.items.reverse
  s.left.elim right (combined · right)

/-- The open set after an operator. -/
def OpenSet.nextOperand (s : OpenSet) : OpenSet :=
  { s with atStart := false, left := some s.body, items := [] }

/-- A set from what follows its opening bracket. -/
def openSet (spaced : Bool) (cs : List Char) : OpenSet × List Char :=
  match skip spaced cs with
  | '^' :: cs => ({ negated := true }, cs)
  | cs => ({}, cs)

/-- **The set that was opened**, up to its closing bracket, and the text after it. Each step of the
fuel is an item. -/
def set? (spaced : Bool) : Nat → OpenSet → List Char → Option (Pattern × List Char)
  | 0, _, _ => none
  | fuel + 1, s, cs =>
    match skip spaced cs with
    | [] => none
    | c :: cs =>
      if c = '-' && s.atStart then
        set? spaced fuel { s.push (.leaf (.range c c)) with atStart := true } cs
      else if c = ']' then
        if s.atStart && s.items.isEmpty then set? spaced fuel (s.push (.leaf (.range c c))) cs
        else some (.set s.negated s.body, cs)
      else if (c = '&' || c = '-' || c = '~') && cs.head? = some c then
        set? spaced fuel s.nextOperand (cs.drop 1)
      else if c = '[' then
        match named? cs with
        | some (l, cs) => set? spaced fuel (s.push (.leaf l)) cs
        | none => do
          let (inner, cs) := openSet spaced cs
          let (item, cs) ← set? spaced fuel inner cs
          set? spaced fuel (s.push item) cs
      else do
        let (l, cs) ← setItem? spaced (c :: cs)
        set? spaced fuel (s.push (.leaf l)) cs

/-! ## Groups -/

/-- The flag of a letter. -/
def Flag.ofChar? : Char → Option Flag
  | 'i' => some .ignoreCase
  | 'm' => some .multiLine
  | 's' => some .dotAll
  | 'U' => some .short
  | 'u' => some .unicode
  | 'R' => some .carriageReturns
  | 'x' => some .spaced
  | _ => none

/-- The settings after those in `read`, the character that ends them, and the text after it. A flag
is switched once, and what follows a hyphen is switched off. -/
def settings? (on : Bool) (read : List Setting) :
    List Char → Option (List Setting × Char × List Char)
  | [] => none
  | c :: cs =>
    if c = ':' || c = ')' then
      if on || read.any (!·.on) then some (read, c, cs) else none
    else if c = '-' then (if on then settings? false read cs else none)
    else
      (Flag.ofChar? c).bind fun flag =>
        if read.any (·.flag == flag) then none else settings? on (read ++ [⟨flag, on⟩]) cs

/-- Whether a text can be the name of a group. -/
def isName : List Char → Bool
  | [] => false
  | c :: cs =>
    (c == '_' || isAlphabetic c) &&
      cs.all fun c => c == '_' || c == '.' || c == '[' || c == ']' || isAlphanumeric c

/-- **How a parenthesis begins.** -/
inductive Opening where
  /-- With settings alone, which hold for the rest of the group around it. -/
  | settings (ss : List Setting)
  /-- A group, with its name and settings. -/
  | group (name : Option (List Char)) (ss : List Setting)

/-- The group with the name up to a pointed bracket, and the text after it. -/
def namedGroup? (cs : List Char) : Option (Opening × List Char) :=
  let name := cs.takeWhile (· != '>')
  match cs.drop name.length with
  | '>' :: cs => if isName name then some (.group (some name) [], cs) else none
  | _ => none

/-- What an opening parenthesis begins, and the text after it. -/
def opening? (spaced : Bool) (cs : List Char) : Option (Opening × List Char) :=
  match skip spaced cs with
  | '?' :: 'P' :: '<' :: cs | '?' :: '<' :: cs => namedGroup? cs
  | '?' :: cs =>
    match settings? true [] cs with
    | some (ss, ':', cs) => some (.group none ss, cs)
    | some (ss, _, cs) => if ss.isEmpty then none else some (.settings ss, cs)
    | none => none
  | cs => some (.group none [], cs)

/-! ## Patterns -/

/-- **A group that is open**: what is read of it so far. -/
structure OpenGroup where
  /-- Whether blanks and comments do not count. -/
  spaced : Bool := false
  /-- The names of groups before. -/
  names : List (List Char) := []
  /-- The alternatives that are complete, last first. -/
  alternatives : List Pattern := []
  /-- The parts of the last alternative, last first. -/
  parts : List Pattern := []

namespace OpenGroup

/-- The open group with one more part. -/
def push (g : OpenGroup) (p : Pattern) : OpenGroup :=
  { g with parts := p :: g.parts }

/-- The last alternative. -/
def alternative (g : OpenGroup) : Pattern :=
  ofSequence g.parts.reverse

/-- The open group when the next alternative begins. -/
def nextAlternative (g : OpenGroup) : OpenGroup :=
  { g with alternatives := g.alternative :: g.alternatives, parts := [] }

/-- What is read of an open group. -/
def body (g : OpenGroup) : Pattern :=
  if g.alternatives.isEmpty then g.alternative
  else .alternatives (g.alternatives.reverse ++ [g.alternative])

/-- The open group with its last part repeated. -/
def repeatLast? (g : OpenGroup) : Option OpenGroup :=
  match g.parts with
  | p :: ps => if p.isOperand then some { g with parts := .repeated p :: ps } else none
  | [] => none

/-- Whether blanks and comments count after settings. -/
def spacedAfter (g : OpenGroup) (ss : List Setting) : Bool :=
  (ss.find? (·.flag == .spaced)).elim g.spaced Setting.on

/-- The open group after settings that hold for its rest. -/
def switch (g : OpenGroup) (ss : List Setting) : OpenGroup :=
  { g.push (.settings ss) with spaced := g.spacedAfter ss }

/-- A group in this one. A name must be new. -/
def nested? (g : OpenGroup) (name : Option (List Char)) (ss : List Setting) : Option OpenGroup :=
  if name.any g.names.contains then none
  else some { spaced := g.spacedAfter ss, names := name.toList ++ g.names }

end OpenGroup

/-- Whether a character repeats what stands before it. -/
def isRepetition (c : Char) : Bool :=
  c == '?' || c == '*' || c == '+'

/-- The leaf at the start of a text, and the text after it. A brace would begin a count. -/
def single? (spaced : Bool) : List Char → Option (Leaf × List Char)
  | '\\' :: cs => escape? spaced cs
  | '.' :: cs => some (.dot, cs)
  | '^' :: cs | '$' :: cs => some (.edge, cs)
  | '\x7b' :: _ => none
  | c :: cs => some (.char c false, cs)
  | [] => none

/-- **The group that was opened**, up to its closing parenthesis or, for the whole pattern, to the
end of the text; with it come the names so far and the text after it. Each step of the fuel is a
part. -/
def group? (isWhole : Bool) :
    Nat → OpenGroup → List Char → Option (Pattern × List (List Char) × List Char)
  | 0, _, _ => none
  | fuel + 1, g, cs =>
    match skip g.spaced cs with
    | [] => if isWhole then some (g.body, g.names, []) else none
    | ')' :: cs => if isWhole then none else some (g.body, g.names, cs)
    | '|' :: cs => group? isWhole fuel g.nextAlternative cs
    | '(' :: cs => do
      match ← opening? g.spaced cs with
      | (.settings ss, cs) => group? isWhole fuel (g.switch ss) cs
      | (.group name ss, cs) =>
        let inner ← g.nested? name ss
        let (body, names, cs) ← group? false fuel inner cs
        group? isWhole fuel ({ g with names }.push (.group ss body)) cs
    | '[' :: cs => do
      let (opened, cs) := openSet g.spaced cs
      let (s, cs) ← set? g.spaced (cs.length + 1) opened cs
      group? isWhole fuel (g.push s) cs
    | c :: cs =>
      if isRepetition c then
        -- a second mark makes the repetition as short as possible
        g.repeatLast?.bind fun g =>
          group? isWhole fuel g (if cs.head? = some '?' then cs.drop 1 else cs)
      else do
        let (l, cs) ← single? g.spaced (c :: cs)
        group? isWhole fuel (g.push (.leaf l)) cs

/-- **The pattern of a text.** -/
def parse? (cs : List Char) : Option Pattern :=
  (group? true (cs.length + 1) {} cs).map (·.1)

/-- **Why a text is not a pattern that can be used**, if it is none. -/
def faultOf? (cs : List Char) : Option Fault :=
  match parse? cs with
  | some p => p.fault?
  | none => some .invalid

end NetUnits.Pattern
