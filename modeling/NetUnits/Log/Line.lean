import NetUnits.Action.Request
import NetUnits.Text.Escape

/-!
# Lines of the log

An event is shown on the console with a coloured mark for its level, and kept in a file with the
time and without terminal control sequences.

* **`Level.consoleLine`** — the line on the console.
* **`Level.fileLine`** — the line in the file.
* **`logHeader`** — the beginning of the file.
-/

namespace NetUnits

/-- A text in a terminal style. -/
def styled (style text : String) : String :=
  "\x1b[" ++ style ++ "m" ++ text ++ "\x1b[0m"

/-- **An event on the console.** -/
def Level.consoleLine (level : Level) (message : String) : String :=
  match level with
  | .error => styled "31" "ERROR" ++ " " ++ message ++ "\n"
  | .warn => styled "33" "WARN" ++ "  " ++ message ++ "\n"
  | .info => styled "1;34" "==>" ++ " " ++ message ++ "\n"
  | .debug => "  " ++ styled "2" message ++ "\n"

/-- What a line of the file says of its level. -/
def Level.fileMark : Level → String
  | .error => "[error] "
  | .warn => "[warn] "
  | .info => ""
  | .debug => "[debug] "

/-- **An event in the file**, at a time of day. -/
def Level.fileLine (level : Level) (time message : String) : String :=
  "[" ++ time ++ "] " ++ level.fileMark ++ Text.plain message ++ "\n"

/-- The rule around the header. -/
def logRule : String :=
  String.ofList (List.replicate 42 '=') ++ "\n"

/-- **The header of the file**: the version of the program and the time. -/
def logHeader (version time : String) : String :=
  logRule ++ "networkd-manager " ++ version ++ " " ++ time ++ "\n" ++ logRule

/-- The time of day of a date and time: what follows the last blank. -/
def timeOfDay (time : String) : String :=
  String.ofList (time.toList.reverse.takeWhile (· != ' ')).reverse

end NetUnits
