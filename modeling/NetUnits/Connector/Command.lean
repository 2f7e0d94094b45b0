import NetUnits.Command.Result

/-!
# What every connector does alike

* **`globalPlaceholder`** — what is shown for a global configuration that does not exist.
* **`applyArgs`** — the arguments that make a host use its configuration.
* The commands that hosts are asked for their state.
-/

namespace NetUnits.Connector

/-- **What is shown for a global configuration that does not exist.** -/
def globalPlaceholder : String :=
  "# /etc/systemd/networkd.conf\n# No configuration file found.\n"

/-- **The arguments of `networkctl`** that reconfigure devices, or reload all if none is named. -/
def applyArgs (devices : List String) : List String :=
  match devices with
  | [] => ["reload"]
  | devices => "reconfigure" :: devices

/-- The command that reloads the configuration. -/
def reloadCommand : List String := ["networkctl", "reload"]

/-- The command that prints the version. -/
def versionCommand : List String := ["networkctl", "--version"]

/-- The command that prints the routing tables. -/
def routesCommand : List String := ["ip", "route", "show", "table", "all"]

/-- The command that prints the routing rules. -/
def rulesCommand : List String := ["ip", "rule", "show"]

/-- The command that prints the newest lines of the journal. -/
def logsCommand : List String :=
  ["journalctl", "-u", "systemd-networkd", "-n", "100", "--no-pager"]

end NetUnits.Connector
