import NetUnits.Kind
import NetUnits.Text.Numeral

/-!
# The shape of command lines

A command line names a verb, which may have further verbs, and gives switches and operands to it.
A switch has a long name and maybe a letter, and may take a value; operands are told apart by
their order.

* **`ValueForm`** — what a value must look like.
* **`Switch`**, **`Operand`** — what can be given to a verb.
* **`Verb`** — a verb with its switches, operands and further verbs.
-/

namespace NetUnits.CommandLine

open NetUnits.Text

/-- **What a value must look like.** -/
inductive ValueForm where
  /-- Any text. -/
  | text
  /-- A path, which is not empty. -/
  | path
  /-- The name of a kind. -/
  | kind
  /-- A number up to a limit. -/
  | number (limit : Nat)
deriving DecidableEq

/-- A number from 0 to a limit, written with or without a sign. -/
def numberUpTo? (limit : Nat) (text : String) : Option Nat :=
  ((signed? text.toList).filter fun i => 0 ≤ i && i ≤ (limit : Int)).map Int.toNat

/-- **Whether a value has a form.** -/
def ValueForm.accepts : ValueForm → String → Bool
  | text, _ => true
  | path, value => !value.isEmpty
  | kind, value => (Kind.ofName? value).isSome
  | number limit, value => (numberUpTo? limit value).isSome

/-- **What a switch is for.** -/
inductive SwitchRole where
  /-- It stands for itself. -/
  | flag
  /-- It takes a value. -/
  | value (form : ValueForm)
  /-- It asks how the verb is used. -/
  | help
  /-- It asks for the version of the program. -/
  | version
deriving DecidableEq

/-- **A switch.** -/
structure Switch where
  /-- The name, which is written after two dashes. -/
  name : String
  /-- The letter, which is written after one dash. -/
  letter : Option Char := none
  /-- What it is for. -/
  role : SwitchRole := .flag
  /-- Whether it must be given. -/
  isRequired : Bool := false
deriving DecidableEq

/-- Whether a switch takes a value. -/
def Switch.takesValue (s : Switch) : Bool :=
  match s.role with
  | .value _ => true
  | _ => false

/-- Whether a value can be given to a switch. -/
def Switch.accepts (s : Switch) (value : String) : Bool :=
  match s.role with
  | .value form => form.accepts value
  | _ => true

/-- **An operand.** -/
structure Operand where
  /-- The name. -/
  name : String
  /-- What it must look like. -/
  form : ValueForm := .text
  /-- Whether it must be given. -/
  isRequired : Bool := true
  /-- Whether it takes all values that follow. -/
  repeats : Bool := false
deriving DecidableEq

/-- **A verb.** -/
structure Verb where
  /-- The name. -/
  name : String
  /-- The switches. -/
  switches : List Switch := []
  /-- The operands, in order. -/
  operands : List Operand := []
  /-- The further verbs, one of which must follow if there are any. -/
  verbs : List Verb := []

namespace Verb

/-- The switch with a name. -/
def switch? (verb : Verb) (name : String) : Option Switch :=
  verb.switches.find? (·.name == name)

/-- The switch with a letter. -/
def letter? (verb : Verb) (letter : Char) : Option Switch :=
  verb.switches.find? (·.letter == some letter)

/-- The further verb with a name. -/
def verb? (verb : Verb) (name : String) : Option Verb :=
  verb.verbs.find? (·.name == name)

/-- The operand for the next value after some values. -/
def operand? (verb : Verb) (count : Nat) : Option Operand :=
  (verb.operands[count]?).or (verb.operands.getLast?.filter Operand.repeats)

/-- How many operands must be given. -/
def requiredOperands (verb : Verb) : Nat :=
  verb.operands.countP Operand.isRequired

end Verb

end NetUnits.CommandLine
