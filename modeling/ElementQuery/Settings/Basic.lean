import ElementQuery.Log.Level
import ElementQuery.Query.Kind

/-!
# Settings

What can be set once for all queries, reports and log lines.

## Main definitions

* `CompilerSettings`, `FormatterSettings`, `LoggingSettings` : the three sections.
* `Settings` : all settings, with their defaults.
-/

namespace ElementQuery

/-- How selectors are written when nothing else is asked for. -/
structure CompilerSettings where
  defaultScope : Scope := .document
  defaultLanguage : Language := .css

/-- How texts are shown in reports. -/
structure FormatterSettings where
  /-- The count of characters that are kept of a long text. -/
  truncateLength : Int := 60
  /-- What marks a text that was cut. -/
  ellipsis : String := "..."
  lineBreakReplacement : String := "  "

/-- Which log records are written. -/
structure LoggingSettings where
  level : Log.Level := .warning

/-- All settings. -/
structure Settings where
  compiler : CompilerSettings := {}
  formatter : FormatterSettings := {}
  logging : LoggingSettings := {}

end ElementQuery
