import NetUnits.Action.Request
import NetUnits.Pattern.Parser
import NetUnits.Text.Alphanumeric
import NetUnits.Text.Numeral
import NetUnits.Text.Position
import NetUnits.Text.Trim

/-!
# Which events the console shows

A filter is a list of directives with commas between them. A directive is a level, or the beginning
of a source, with or without a level; in brackets it can name a span or fields that it is about.
Without directives a given level applies.

* **`LogFilter.ofText`** — the filter of a text.
* **`LogFilter.shows`** — whether an event is shown.
-/

namespace NetUnits

open NetUnits.Text

/-- The number of a level: events up to a number are shown. -/
def Level.rank : Level → Nat
  | .error => 1
  | .warn => 2
  | .info => 3
  | .debug => 4

/-- **The name of a source**, as directives write it. -/
def EventSource.name : EventSource → String
  | .commands => "networkd_manager::commands"
  | .fileCommands => "networkd_manager::commands::files"
  | .systemCommands => "networkd_manager::commands::system"
  | .settings => "networkd_manager::config::toml_loader"
  | .programs => "networkd_manager::exec"
  | .registry => "networkd_manager::hosts"
  | .schemas => "networkd_manager::schema"
  | .schemaIndex => "networkd_manager::schema::index"
  | .service => "networkd_manager::service"
  | .pool => "networkd_manager::connector::pool"
  | .localHost => "networkd_manager::connector::local"
  | .remoteHost => "networkd_manager::connector::remote"
  | .sessions => "networkd_manager::connector::shell"
  | .links => "networkd_manager::connector::links"

/-- **A directive**: the greatest rank shown of the events that it is about. -/
structure LogDirective where
  /-- The beginning of the source, unless the directive is about all sources. -/
  source : Option String := none
  /-- The fields that an event must have. -/
  fields : List String := []
  /-- Whether the directive is only about what happens in a span or with a value of a field. -/
  conditional : Bool := false
  /-- The greatest rank shown. -/
  rank : Nat
deriving DecidableEq

namespace LogDirective

/-- **What can be wrong with a directive.** -/
inductive Error where
  /-- It has no form of a directive. -/
  | malformed
  /-- What stands for a level is none. -/
  | unknownLevel
  /-- What stands for the value of a field is a pattern that cannot be used. -/
  | badValue (fault : Pattern.Fault)
deriving DecidableEq

/-- The wording of an error. -/
def Error.message : Error → String
  | .malformed => "invalid filter directive"
  | .unknownLevel =>
    "error parsing level filter: expected one of \"off\", \"error\", \"warn\", \"info\", " ++
      "\"debug\", \"trace\", or a number 0-5"
  | .badValue fault => "invalid field filter: " ++ fault.message

/-! ## Reading -/

/-- The rank at which all events are shown. -/
def maxRank : Nat := 5

/-- The rank that a level name or number stands for. -/
def rankOf? (level : List Char) : Option Nat :=
  (natUpTo? maxRank level).or
    (["off", "error", "warn", "info", "debug", "trace"].findIdx? fun name =>
      equalFold name.toList level)

/-- The rank of the level at the end of a directive; without a level it is the greatest. -/
def rankAfter (level : List Char) : Except Error Nat :=
  if level.isEmpty then .ok maxRank
  else
    match rankOf? level with
    | some rank => .ok rank
    | none => .error .unknownLevel

/-- **What is left of a directive.** The marks between its parts are looked for in one text, but the
parts are taken from another one at the same positions. -/
structure Scan where
  /-- The whole text that the parts are taken from. -/
  text : List Char
  /-- The position in it. -/
  position : Nat := 0
  /-- The rest of the text that the marks are looked for in. -/
  found : List Char

namespace Scan

/-- What is left after some marks, which are bytes. -/
def skip (s : Scan) (marks : Nat) : Scan :=
  { s with position := s.position + marks, found := s.found.drop marks }

/-- What is left from a mark on; nothing if there is none. -/
def seek (s : Scan) (isMark : Char → Bool) : Scan :=
  let passed := s.found.takeWhile fun c => !isMark c
  { s with
    position := s.position + byteLength passed
    found := s.found.drop passed.length }

/-- The part between two positions. What begins or ends within a character is no part. -/
def partTo (s t : Scan) : Except Error (List Char) :=
  match between? s.position t.position s.text with
  | some part => .ok part
  | none => .error .malformed

/-- The part up to the end of the text. -/
def rest (s : Scan) : Except Error (List Char) :=
  match splitAt? s.position s.text with
  | some (_, part) => .ok part
  | none => .error .malformed

end Scan

/-- The directive with the level that follows an equals sign, or without a level. -/
def withLevel (d : LogDirective) (s : Scan) : Except Error LogDirective :=
  match s.found with
  | [] => .ok d
  | '=' :: _ => do
    let rank ← rankAfter (← (s.skip 1).rest)
    return { d with rank }
  | _ => .error .malformed

/-- What is wrong with the value that is wanted of a field: it is a number, or else a pattern. -/
def valueFault? (value : List Char) : Option Pattern.Fault :=
  if isDecimal value then none else Pattern.faultOf? value

/-- The directive with a field, of which a value may be wanted after an equals sign. What follows
one more equals sign does not count. -/
def withValue (d : LogDirective) (field : List Char) : Except Error LogDirective :=
  let d := { d with fields := [String.ofList (field.takeWhile (· != '='))] }
  match field.dropWhile (· != '=') with
  | [] => if field.isEmpty then .error .malformed else .ok d
  | _ :: value =>
    match valueFault? (value.takeWhile (· != '=')) with
    | some fault => .error (.badValue fault)
    | none => .ok { d with conditional := true }

/-- The directive with the field after an opening brace, and the level after the brackets. -/
def withField (d : LogDirective) (s : Scan) : Except Error LogDirective :=
  let t := s.seek (· == '\x7d')
  match t.found with
  | [] => .error .malformed
  | _ :: found => do
    let d ← d.withValue (← s.partTo t)
    match found with
    | ']' :: _ => d.withLevel (t.skip 2)
    | _ => .error .malformed

/-- The directive with the span and the field after an opening bracket, and the level after them. -/
def withSpan (d : LogDirective) (s : Scan) : Except Error LogDirective :=
  let t := s.seek fun c => c == ']' || c == '\x7b'
  match t.found with
  | ']' :: _ => (s.partTo t).bind fun _ => withLevel { d with conditional := true } (t.skip 1)
  | '\x7b' :: _ =>
    (s.partTo t).bind fun span => withField { d with conditional := !span.isEmpty } (t.skip 1)
  | _ => .error .malformed

/-- Whether a character can begin a directive other than one in brackets. -/
def isInitial (c : Char) : Bool :=
  c == '-' || c == ':' || c == '_' || isAlphanumeric c

/-- The directive of a text without marks: a level or a source. -/
def ofName (name : List Char) : LogDirective :=
  match rankOf? name with
  | some rank => { rank }
  | none => { source := some (String.ofList name), rank := maxRank }

/-- **The directive of a text.** The marks between its parts are looked for in the text without the
blanks around it, but the parts are taken from the text with them. -/
def ofChars (cs : List Char) : Except Error LogDirective :=
  let s : Scan := { text := cs, found := trimChars cs }
  match s.found with
  | [] => .error .malformed
  | '[' :: _ => withSpan { rank := maxRank } (s.skip 1)
  | c :: _ =>
    let t := s.seek fun c => c == '=' || c == '['
    if !isInitial c then .error .malformed
    else if t.found.isEmpty then .ok (ofName cs)
    else do
      let source ← s.partTo t
      let d : LogDirective := { source := some (String.ofList source), rank := maxRank }
      if t.found.head? = some '[' then d.withSpan (t.skip 1) else d.withLevel t

/-! ## What a directive is about -/

/-- The fields of every event. -/
def eventFields : List String := ["message"]

/-- Whether a directive is about an event. Nothing here happens in a span. -/
def concerns (d : LogDirective) (event : Event) : Bool :=
  !d.conditional && d.fields.all eventFields.contains &&
    (d.source.all fun source => source.toList.isPrefixOf event.source.name.toList)

/-- Whether a directive says at least as exactly as another which events it is about: by the length
of the source, and then by the number of fields. -/
def isAsExact (d other : LogDirective) : Bool :=
  let length := fun (d : LogDirective) => d.source.elim 0 fun source => source.utf8ByteSize + 1
  length other < length d || (length other = length d && other.fields.length ≤ d.fields.length)

end LogDirective

/-- **A filter** for the console. -/
structure LogFilter where
  /-- The directives, of which the most exact one about an event counts. -/
  directives : List LogDirective
  /-- Complaints about directives that cannot be understood. -/
  complaints : List String := []

namespace LogFilter

/-- The parts of a text between its commas, without empty ones; `acc` (last character first) is
already read of the first. -/
def partsFrom (acc : List Char) : List Char → List (List Char)
  | [] => if acc.isEmpty then [] else [acc.reverse]
  | c :: cs =>
    if c = ',' then (if acc.isEmpty then [] else [acc.reverse]) ++ partsFrom [] cs
    else partsFrom (c :: acc) cs

/-- The directive of a part, if it is one. -/
def directiveOf? (part : List Char) : Option LogDirective :=
  match LogDirective.ofChars part with
  | .ok d => some d
  | .error _ => none

/-- The complaint about a part that is no directive. -/
def complaintOf? (part : List Char) : Option String :=
  match LogDirective.ofChars part with
  | .ok _ => none
  | .error e => some ("ignoring \x60" ++ String.ofList part ++ "\x60: " ++ e.message ++ "\n")

/-- **The filter of a text**; without directives, events up to the given rank are shown. -/
def ofText (text : String) (defaultRank : Nat) : LogFilter :=
  let parts := partsFrom [] text.toList
  let directives := parts.filterMap directiveOf?
  { directives := if directives.isEmpty then [{ rank := defaultRank }] else directives
    complaints := parts.filterMap complaintOf? }

/-- The directive that counts for an event: the most exact one, the last of them. -/
def directiveFor? (f : LogFilter) (event : Event) : Option LogDirective :=
  (f.directives.filter (·.concerns event)).foldl (fun best d =>
    if best.all d.isAsExact then some d else best) none

/-- **Whether an event is shown.** -/
def shows (f : LogFilter) (event : Event) : Bool :=
  (f.directiveFor? event).any fun d => event.level.rank ≤ d.rank

end LogFilter

end NetUnits
