import ElementQuery.Text.Blank
import ElementQuery.Text.Case

/-!
# Log levels

Five levels have names. Each stands for a severity, by which records are let through, and for an
importance between 0 and 10, which is shown in a log line.

## Main definitions

* `Level` : the named levels.
* `Level.read?` : the level that a text names.
* `importanceOf` : the importance that a level name stands for.
* `severityName` : the name of any severity.
-/

namespace ElementQuery.Log

open ElementQuery.Text

/-- A named log level. -/
inductive Level where
  | debug
  | info
  | warning
  | error
  | critical
  deriving DecidableEq, Repr

namespace Level

/-- All levels. -/
def all : List Level := [debug, info, warning, error, critical]

/-- The name of a level. -/
def name : Level → String
  | debug => "DEBUG"
  | info => "INFO"
  | warning => "WARNING"
  | error => "ERROR"
  | critical => "CRITICAL"

/-- The severity of a level. -/
def severity : Level → Int
  | debug => 10
  | info => 20
  | warning => 30
  | error => 40
  | critical => 50

/-- The importance of a level. -/
def importance : Level → Nat
  | debug => 2
  | info => 4
  | warning => 6
  | error => 8
  | critical => 10

/-- The level with a name. -/
def ofName? (name : String) : Option Level := all.find? (·.name == name)

/-- The level that a text names, in any letter case and between blanks. -/
def read? (s : String) : Option Level := ofName? (upper (trim s))

@[simp] theorem ofName?_name (l : Level) : ofName? l.name = some l := by
  cases l <;> decide

end Level

/-- The importance where no level is named. -/
def defaultImportance : Nat := 4

/-- The importance that a level name stands for. -/
def importanceOf (name : String) : Nat :=
  ((Level.read? name).map (·.importance)).getD defaultImportance

/-- The name of a severity: that of the level, `NOTSET` for zero, otherwise the number. -/
def severityName (severity : Int) : String :=
  if severity = 0 then "NOTSET"
  else
    match Level.all.find? (·.severity == severity) with
    | some level => level.name
    | none => "Level " ++ toString severity

end ElementQuery.Log
