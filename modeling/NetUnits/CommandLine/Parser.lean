import NetUnits.CommandLine.Grammar
import NetUnits.Text.Lines

/-!
# Reading command lines

Arguments are read from left to right. An argument with dashes gives switches; its value may be
attached or follow; after two dashes alone there are only operands. No switch is given twice to
the same verb.

* **`Refusal`** — why a command line asks for nothing that can be done.
* **`Given`** — what a command line gives.
* **`Verb.scan`** — the reading of arguments.
-/

namespace NetUnits.CommandLine

open NetUnits.Text

/-- **Why there is nothing to do.** -/
inductive Refusal where
  /-- The command line asks how the program is used. -/
  | help
  /-- The command line asks for the version. -/
  | version
  /-- The command line cannot be understood. -/
  | usage
deriving DecidableEq

/-- The exit code of the program. -/
def Refusal.exitCode : Refusal → Nat
  | help | version => 0
  | usage => 2

/-- **What a command line gives.** -/
structure Given where
  /-- The names of the verbs, from the outermost on. -/
  verbs : List String := []
  /-- The values by the names of switches and operands, those of inner verbs first. -/
  values : List (String × String) := []
deriving DecidableEq, Inhabited

/-- **What was read for a verb so far.** -/
structure Reading where
  /-- The values by the names of switches and operands. -/
  given : List (String × String) := []
  /-- The last switch that takes a value, with the value if it was read. -/
  pending : Option (Switch × Option String) := none
  /-- How many operands were given. -/
  operands : Nat := 0
  /-- Whether only operands follow. -/
  onlyOperands : Bool := false

namespace Reading

/-- Whether the next argument is the value of a switch. -/
def awaitsValue (r : Reading) : Bool :=
  match r.pending with
  | some (_, none) => true
  | _ => false

/-- Whether the next argument can be a verb. -/
def takesVerb (r : Reading) : Bool :=
  !r.onlyOperands && !r.awaitsValue

/-- A switch with a value. -/
def give (r : Reading) (s : Switch) (value : String) : Except Refusal Reading :=
  if r.given.any (·.1 == s.name) then .error .usage
  else if s.accepts value then .ok { r with given := r.given ++ [(s.name, value)] }
  else .error .usage

/-- Gives the last switch its value, which must have been read. -/
def settle (r : Reading) : Except Refusal Reading :=
  match r.pending with
  | none => .ok r
  | some (_, none) => .error .usage
  | some (s, some value) => { r with pending := none }.give s value

/-- A switch without attached value. -/
def switch (r : Reading) (s : Switch) : Except Refusal Reading := do
  let r ← r.settle
  match s.role with
  | .flag => r.give s ""
  | .value _ => return { r with pending := some (s, none) }
  | .help => .error .help
  | .version => .error .version

/-- A switch with an attached value. -/
def attached (r : Reading) (s : Switch) (value : List Char) : Except Refusal Reading := do
  if s.takesValue then (← r.settle).give s (String.ofList value) else .error .usage

/-- An argument after two dashes. -/
def long (verb : Verb) (r : Reading) (body : List Char) : Except Refusal Reading :=
  match splitOnce '=' body with
  | some (name, value) =>
    match verb.switch? (String.ofList name) with
    | some s => r.attached s value
    | none => .error .usage
  | none =>
    match verb.switch? (String.ofList body) with
    | some s => r.switch s
    | none => .error .usage

/-- Letters after one dash: switches up to one that takes the rest as its value. -/
def letters (verb : Verb) (r : Reading) : List Char → Except Refusal Reading
  | [] => .ok r
  | c :: rest =>
    match verb.letter? c with
    | none => .error .usage
    | some s =>
      if s.takesValue then
        -- all letters that follow are the value, with or without an equals sign
        match rest with
        | [] => r.switch s
        | '=' :: value => r.attached s value
        | value => r.attached s value
      else do letters verb (← r.switch s) rest

/-- An operand. -/
def operand (verb : Verb) (r : Reading) (value : String) : Except Refusal Reading := do
  let r ← r.settle
  match verb.operand? r.operands with
  | none => .error .usage
  | some o =>
    if o.form.accepts value then
      return { r with given := r.given ++ [(o.name, value)], operands := r.operands + 1 }
    else .error .usage

/-- An argument that stands for itself: the value of the last switch, or an operand. -/
def plain (verb : Verb) (r : Reading) (value : String) : Except Refusal Reading :=
  match r.pending with
  | some (s, none) => .ok { r with pending := some (s, some value) }
  | _ => r.operand verb value

/-- **One argument.** -/
def argument (verb : Verb) (r : Reading) (arg : String) : Except Refusal Reading :=
  if r.onlyOperands then r.operand verb arg
  else
    match arg.toList with
    | ['-', '-'] => .ok { r with onlyOperands := true }
    | '-' :: '-' :: body => r.long verb body
    | '-' :: c :: rest => r.letters verb (c :: rest)
    | _ => r.plain verb arg

/-- The end of the arguments: all that is required must have been given. -/
def finish (verb : Verb) (r : Reading) : Except Refusal Given := do
  let r ← r.settle
  if !verb.verbs.isEmpty then .error .usage
  else if r.operands < verb.requiredOperands then .error .usage
  else if verb.switches.any fun s => s.isRequired && !r.given.any (·.1 == s.name) then .error .usage
  else return { values := r.given }

end Reading

namespace Verb

/-- The verb that asks how others are used. -/
def helpName : String := "help"

/-- What a question for help gives, which may name verbs. -/
def help (verb : Verb) : List String → Refusal
  | [] => .help
  | name :: rest =>
    if name == helpName && !verb.verbs.isEmpty then
      if rest.isEmpty then .help else .usage
    else
      match verb.verb? name with
      | some inner => inner.help rest
      | none => .usage

/-- **The reading of arguments** for a verb. -/
def scan (verb : Verb) (r : Reading) : List String → Except Refusal Given
  | [] => r.finish verb
  | arg :: rest =>
    if r.takesVerb && arg == helpName && !verb.verbs.isEmpty then .error (verb.help rest)
    else
      match if r.takesVerb then verb.verb? arg else none with
      | some inner => do
        -- the last value of this verb is looked at only after the inner verb is read
        let given ← inner.scan {} rest
        let r ← r.settle
        return { verbs := inner.name :: given.verbs, values := given.values ++ r.given }
      | none => do scan verb (← r.argument verb arg) rest

end Verb

namespace Given

/-- The value with a name; of several verbs the innermost counts. -/
def value? (g : Given) (name : String) : Option String :=
  (g.values.find? (·.1 == name)).map (·.2)

/-- All values with a name. -/
def valuesOf (g : Given) (name : String) : List String :=
  (g.values.filter (·.1 == name)).map (·.2)

/-- Whether a flag is given. -/
def hasFlag (g : Given) (name : String) : Bool :=
  (g.value? name).isSome

/-- The kind with a name. -/
def kind? (g : Given) (name : String) : Option Kind :=
  (g.value? name).bind Kind.ofName?

/-- The number with a name. -/
def number? (g : Given) (name : String) (limit : Nat) : Option Nat :=
  (g.value? name).bind (numberUpTo? limit)

end Given

end NetUnits.CommandLine
