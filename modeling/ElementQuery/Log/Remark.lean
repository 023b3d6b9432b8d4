import ElementQuery.Log.Routing
import ElementQuery.Plan.Basic

/-!
# What the library remarks on

The records of the lowest level that the library itself makes: that a selector was not built, how a
query was planned, and what was loaded and compiled. Each follows from the result of the operation.

## Main definitions

* `ofSelector`, `ofPath` : remarks on building a selector.
* `ofPlan` : remarks on planning.
* `ofSettings`, `ofCompiled` : remarks on loading settings, and of the command line.
-/

namespace ElementQuery.Log.Remark

/-- A record of this library. -/
def make (part message : String) : Record where
  logger := packageName ++ "." ++ part
  severity := Level.debug.severity
  message := message

/-- Remarks on a selector of one element. -/
def ofSelector (language : Language) (selector : Option String) : List Record :=
  match selector with
  | some _ => []
  | none =>
    [make "selector.compiler" (language.title ++ " not built: query contains a regex value")]

/-- Remarks on a selector of an ancestry. -/
def ofPath (language : Language) (selector : Option String) : List Record :=
  match selector with
  | some _ => []
  | none =>
    [make "selector.compiler"
      (language.title ++ " not built: ancestry query contains a regex value")]

/-- Remarks on a plan. -/
def ofPlan (p : Plan) : List Record :=
  match p.strategy with
  | .override =>
    [make "selector.planner" ("Using :" ++ p.language.name ++ " override selector")]
  | .structural => []
  | strategy =>
    [make "selector.planner"
      ("Planned " ++ strategy.name ++ " query: " ++ p.selector.getD "" ++ " with "
        ++ toString p.patterns.length ++ " regex check(s)")]

/-- Remarks on loading the settings in a file. -/
def ofSettings (path : String) : List Record :=
  [make "core.config" ("Loaded configuration from " ++ path)]

/-- Remarks of the command line on a compiled selector. -/
def ofCompiled (language : Language) (selector : String) : List Record :=
  [make "cli.selector_cli" ("Compiled " ++ language.title ++ ": " ++ selector)]

end ElementQuery.Log.Remark
