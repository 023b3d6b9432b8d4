import ElementQuery.Query.Basic

/-!
# What selectors of both languages have in common

A selector names an element and then lists checks. Positions are counted from 0 in a query and
from 1 in a selector. A regular expression cannot be written in a selector at all.

## Main definitions

* `elementName` : the element name of a selector, from a caller's value.
* `Criterion.ordinal` : a position as it is written in a selector.
* `Query.requireLiterals` : refuses a query with a regular expression.
* `Ancestry.check` : refuses an ancestry with a level that has no place in it.
-/

namespace ElementQuery

/-- The element name of a selector: any element if no value is given. -/
def elementName : Value → Except Fault String
  | .none => return "*"
  | v => written v.symbolName?

/-- Whether a value given as an element name is a regular expression. -/
def Value.isPattern : Value → Bool
  | .regex _ | .criterion (.pattern _) => true
  | _ => false

/-- A position as it is written in a selector, where counting starts at 1. -/
def Criterion.ordinal : Criterion → Except Fault String
  | index position => written (Number.writeInt? (position + 1))
  | criterion => throw (.misuse (.noPosition criterion.sort))

/-- Refuses a query with a regular expression; the first one is named. -/
def Query.requireLiterals (language : Language) (q : Query) : Except Fault Unit :=
  match q.patterns with
  | [] => return ()
  | p :: _ => throw (.incompatible (.value language p.name p.criterion.text))

/-- The entries of a query that a selector has a check for: all but the element name. -/
def Query.checks (q : Query) : List Predicate := q.predicates.filter (·.kind != .tag)

/-- What is wrong with the ready-made selectors of a level. -/
def Query.overrideFault? (q : Query) : Option InvalidLevel :=
  if q.overrideKeys.isEmpty then none else some (.overrides q.overrideKeys)

/-- What is wrong with the element name of a level: categories of elements have no place. -/
def Query.metaTagFault? (q : Query) : Option InvalidLevel :=
  match q.tag? with
  | none | some (.pattern _) => none
  | some tag => if metaTags.contains tag.text then some (.metaTag tag.text) else none

/-- Refuses levels, counted from `level` on, that have a fault; the first one is named. -/
def checkLevels (fault? : Query → Option InvalidLevel) (level : Nat) :
    List Query → Except Fault Unit
  | [] => return ()
  | q :: rest =>
    match fault? q with
    | some cause => throw (.invalidLevel level cause)
    | none => checkLevels fault? (level + 1) rest

/-- Refuses an ancestry with a level that has no place in it. -/
def Ancestry.check (fault? : Query → Option InvalidLevel) (a : Ancestry) : Except Fault Unit :=
  checkLevels fault? 0 a.levels

end ElementQuery
