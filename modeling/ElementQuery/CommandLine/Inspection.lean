import ElementQuery.Json.Basic
import ElementQuery.Notation.Basic
import ElementQuery.Plan.Basic

/-!
# Inspecting a query

What there is to know about a query before it is used: whether it holds regular expressions, and
how it would be resolved.

## Main definitions

* `Inspection` : the findings.
* `inspect` : inspects what a text stands for.
* `Inspection.toJson`, `Inspection.lines` : the findings as JSON and as text.
-/

namespace ElementQuery.CommandLine

/-- What is found about a query or an ancestry. -/
structure Inspection where
  isAncestry : Bool
  levels : Nat
  hasPattern : Bool
  allPatterns : Bool
  language : Language
  /-- The plan, or why there is none. -/
  plan : Except Incompatible Plan

/-- A plan, unless a regular expression stands in its way. -/
def planOrReason (planned : Except Fault Plan) : Except Fault (Except Incompatible Plan) :=
  match planned with
  | .ok p => return .ok p
  | .error (.incompatible cause) => return .error cause
  | .error e => throw e

/-- Inspects what a text stands for. -/
def inspect (parsed : Notation.Parsed) (language : Language) (scope : Scope) :
    Except Fault Inspection :=
  match parsed with
  | .query q => do
    let plan ← planOrReason (q.plan language scope)
    return ⟨false, 1, q.hasPattern, q.allPatterns, language, plan⟩
  | .ancestry a => do
    let plan ← planOrReason (a.plan language scope)
    return ⟨true, a.levels.length, a.hasPattern, false, language, plan⟩

namespace Inspection

/-- What was inspected. -/
def kind (i : Inspection) : String := if i.isAncestry then "ancestry" else "query"

/-- A text or nothing, as JSON. -/
def optionalText : Option String → Json
  | none => .null
  | some s => .string s

/-- A check of a plan as JSON. -/
def checkJson (p : Predicate) : Json :=
  .object [("attribute", .string p.name), ("pattern", .string p.criterion.text)]

/-- The findings on the plan as JSON members. -/
def planMembers (i : Inspection) : List (String × Json) :=
  match i.plan with
  | .ok p =>
    [("strategy", .string p.strategy.name), ("language", .string p.language.name),
      ("selector", optionalText p.selector), ("patterns", .array (p.patterns.map checkJson)),
      ("index", (p.index.map Json.int).getD .null)]
  | .error cause =>
    [("strategy", .null), ("language", .string i.language.name), ("selector", .null),
      ("error", .string cause.message)]

/-- The findings as JSON. -/
def toJson (i : Inspection) : Json :=
  .object ([("kind", .string i.kind), ("levels", .int i.levels),
    ("contains_regex", .bool i.hasPattern), ("all_regex", .bool i.allPatterns)] ++ i.planMembers)

/-- The answer to a question. -/
def yesOrNo (b : Bool) : String := if b then "yes" else "no"

/-- The findings on the plan as lines of text. -/
def planLines (i : Inspection) : List String :=
  match i.plan with
  | .error cause => ["Strategy: none (" ++ cause.message ++ ")"]
  | .ok p =>
    ["Strategy: " ++ p.strategy.name,
      "Selector (" ++ p.language.name ++ "): " ++ p.selector.getD "None"]
    ++ p.patterns.map (fun check =>
      "  Regex check: " ++ check.name ++ " =~ " ++ check.criterion.text)
    ++ p.index.toList.map fun n => "  Index after filtering: " ++ toString n

/-- The findings as lines of text. -/
def lines (i : Inspection) : List String :=
  ["Kind: " ++ i.kind ++ " (" ++ toString i.levels ++ " level(s))",
    "Contains regex: " ++ yesOrNo i.hasPattern, "All regex: " ++ yesOrNo i.allPatterns]
  ++ i.planLines

end Inspection

end ElementQuery.CommandLine
