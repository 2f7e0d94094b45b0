import NetUnits.UnitFile.Section
import NetUnits.UnitFile.Line
import NetUnits.UnitFile.Error

/-!
# Reading unit files

Each logical line, trimmed, is blank, a comment, a header `[Name]` or an entry `Key=Value`. Names,
keys and values are trimmed; a value may hold `#` and `=`.

* **`headerName`** — the name of a header line.
* **`sectionsFrom`** — the sections of the lines that follow, after a section begun before them.
* **`parse`** — the sections of a text.
-/

namespace NetUnits.UnitFile

open NetUnits.Text

/-- Whether a trimmed line says nothing: it is empty or a comment. -/
def isSilent (text : List Char) : Bool :=
  text.isEmpty || isComment text

/-- **The name of a header**: what stands between `[` at the start and `]` at the end. -/
def headerName (number : Nat) (text : List Char) : Except Error String :=
  match text with
  | '[' :: inner =>
    if inner.getLast? = some ']' then
      let name := trimChars inner.dropLast
      if name.isEmpty then .error (.emptyHeader number) else .ok (String.ofList name)
    else .error (.unterminatedHeader number (String.ofList text))
  | _ => .error (.unterminatedHeader number (String.ofList text))

/-- **Key and value of an entry**: the two sides of its first `=`. -/
def entryOf (number : Nat) (text : List Char) : Except Error (String × String) :=
  match splitOnce '=' text with
  | some (key, value) => .ok (String.ofList (trimChars key), String.ofList (trimChars value))
  | none => .error (.missingSeparator number (String.ofList text))

/-- **The sections of lines**, when `current` is the section that they continue. -/
def sectionsFrom (current : Option Section) : List Line → Except Error (List Section)
  | [] => .ok current.toList
  | line :: rest =>
    let text := trimChars line.text
    if isSilent text then sectionsFrom current rest
    else if text.head? = some '[' then
      match headerName line.number text with
      | .error e => .error e
      | .ok name => (sectionsFrom (some ⟨name, []⟩) rest).map (current.toList ++ ·)
    else
      match current with
      | none => .error (.entryOutsideSection line.number (String.ofList text))
      | some s =>
        match entryOf line.number text with
        | .error e => .error e
        | .ok entry => sectionsFrom (some { s with entries := s.entries ++ [entry] }) rest

/-- **The sections of a text**, in the order of their headers. -/
def parse (text : String) : Except Error (List Section) :=
  sectionsFrom none (logicalLines text.toList)

@[simp] theorem sectionsFrom_nil (current : Option Section) :
    sectionsFrom current [] = .ok current.toList := rfl

@[simp] theorem parse_empty : parse "" = .ok [] := rfl

end NetUnits.UnitFile
