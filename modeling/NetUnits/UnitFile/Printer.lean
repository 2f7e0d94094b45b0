import NetUnits.UnitFile.Section
import NetUnits.UnitFile.Error
import NetUnits.Text.Trim

/-!
# Writing unit files

Sections are written one after the other, a blank line between two, with `Key = Value` for each
entry. What would read back differently is refused.

* **`checkName`**, **`checkKey`**, **`checkValue`** — the refusals.
* **`render`** — the text of a list of sections.
-/

namespace NetUnits.UnitFile

open NetUnits.Text

/-- Section names and keys are not empty, not padded, and free of control characters and
brackets. -/
def checkName (header name : String) : Except Error Unit :=
  let cs := name.toList
  if cs.isEmpty || trimChars cs != cs then .error (.unrenderable header name .emptyOrPadded)
  else if cs.any fun c => isControl c || c == '[' || c == ']' then
    .error (.unrenderable header name .controlOrBracket)
  else .ok ()

/-- A key is a name without `=` that begins no comment. -/
def checkKey (header key : String) : Except Error Unit := do
  checkName header key
  let cs := key.toList
  if cs.contains '=' || cs.head? == some '#' || cs.head? == some ';' then
    .error (.unrenderable header key .notAKey)

/-- A value stays on one line and does not continue it. -/
def checkValue (header value : String) : Except Error Unit :=
  let cs := value.toList
  if cs.contains '\n' || cs.contains '\r' then .error (.unrenderable header value .lineBreak)
  else if (trimEnd cs).getLast? == some '\\' then
    .error (.unrenderable header value .trailingBackslash)
  else .ok ()

/-- The line of an entry. -/
def renderEntry (header : String) (entry : String × String) : Except Error (List Char) := do
  checkKey header entry.1
  checkValue header entry.2
  return entry.1.toList ++ " = ".toList ++ entry.2.toList ++ ['\n']

/-- The lines of a list of entries. -/
def renderEntries (header : String) : List (String × String) → Except Error (List Char)
  | [] => .ok []
  | entry :: rest => do
    let first ← renderEntry header entry
    let others ← renderEntries header rest
    return first ++ others

/-- The header and the entries of a section. -/
def renderSection (s : Section) : Except Error (List Char) := do
  checkName s.name s.name
  let body ← renderEntries s.name s.entries
  return '[' :: s.name.toList ++ [']', '\n'] ++ body

/-- The sections that follow another one, each after a blank line. -/
def renderFollowing : List Section → Except Error (List Char)
  | [] => .ok []
  | s :: rest => do
    let first ← renderSection s
    let others ← renderFollowing rest
    return '\n' :: first ++ others

/-- The characters of a list of sections. -/
def renderChars : List Section → Except Error (List Char)
  | [] => .ok []
  | s :: rest => do
    let first ← renderSection s
    let others ← renderFollowing rest
    return first ++ others

/-- **The text of a list of sections.** -/
def render (sections : List Section) : Except Error String :=
  (renderChars sections).map String.ofList

@[simp] theorem render_nil : render [] = .ok "" := rfl

end NetUnits.UnitFile
