import ElementQuery.Query.Source
import ElementQuery.Selector.Css
import ElementQuery.Selector.XPath

/-!
# Plans

How a query is resolved against a page. What a selector can express goes into the selector; the
regular expressions are left as checks on the elements that the selector finds. With such checks
the index counts among the elements that pass them, so it is left for later as well.

## Main definitions

* `Strategy` : the four ways to resolve a query.
* `Plan` : a selector with what is left to check.
* `Language.ofValue` : the language that a value names.
* `plan` : the plan for what a caller passes.
-/

namespace ElementQuery

open ElementQuery.Text

/-- How a query is resolved. -/
inductive Strategy where
  /-- By the ready-made selector that the query carries. -/
  | override
  /-- By one selector for the whole query. -/
  | structural
  /-- By a selector for some entries and checks for the others. -/
  | filtered
  | regexScan
  deriving DecidableEq, Repr

/-- The name of a strategy. -/
def Strategy.name : Strategy → String
  | override => "override"
  | structural => "structural"
  | filtered => "filtered"
  | regexScan => "regex_scan"

/-- A selector with what is left to check. -/
structure Plan where
  strategy : Strategy
  language : Language
  /-- The selector, as the builder of the language gave it. -/
  selector : Option String
  /-- The checks on the elements that are found. -/
  patterns : List Predicate
  /-- The position among the elements that pass the checks. -/
  index : Option Int

/-- Whether the elements that are found have to be looked at. -/
def Plan.needsFiltering (p : Plan) : Bool := !p.patterns.isEmpty || p.index.isSome

/-- The language that a value names. Values that count as false name none. -/
def Language.ofValue (v : Value) : Except Fault Language :=
  match v.base with
  | .text s =>
    match ofName? (lower (trim s)) with
    | some language => return language
    | none => do throw (.invalidValue (.unknownLanguage (← written v.shown?)))
  | base =>
    if base.isTruthy then throw (.misuse (.languageNotText v.qualifiedSort))
    else do throw (.invalidValue (.unknownLanguage (← written v.shown?)))

/-- The selector of a query in a language. Only an XPath depends on the scope. -/
def selectorIn (language : Language) (scope : Scope) (q : Query) :
    Except Fault (Option String) :=
  match language with
  | .css => Css.selector (.text q.tagName) q
  | .xpath => XPath.selector (.text q.tagName) q scope

/-- The selector of an ancestry in a language. Only an XPath depends on the scope. -/
def pathIn (language : Language) (scope : Scope) (a : Ancestry) :
    Except Fault (Option String) :=
  match language with
  | .css => Css.path a
  | .xpath => XPath.path a scope

/-- The position that an index entry asks for. -/
def positionOf (p : Predicate) : Except Fault Int :=
  match p.criterion with
  | .index position => return position
  | criterion => throw (.misuse (.noPosition criterion.sort))

namespace Query

/-- The entry that carries a ready-made selector; CSS goes before XPath. -/
def override? (q : Query) : Option Predicate := (q.get? .css).or (q.get? .xpath)

/-- The entries that a selector is built from when checks are left: no regular expressions and no
index. -/
def structuralPart (q : Query) : Query := q.literals.without [.index]

/-- The plan that uses a ready-made selector. -/
def planOverride (p : Predicate) : Except Fault Plan :=
  if p.isPattern then throw (.incompatible (.override p.name))
  else
    let language := if p.kind = .css then Language.css else .xpath
    return ⟨.override, language, some p.criterion.text, [], none⟩

/-- The plan for a query. -/
def plan (q : Query) (language : Language) (scope : Scope) : Except Fault Plan := do
  if let some p := q.override? then return ← planOverride p
  let index := q.get? .index
  if index.any (·.isPattern) then throw (.incompatible .index)
  if !q.hasPattern then
    return ⟨.structural, language, ← selectorIn language scope q, [], none⟩
  let position ← index.mapM positionOf
  let strategy := if q.allPatterns then Strategy.regexScan else .filtered
  return ⟨strategy, language, ← selectorIn language scope q.structuralPart, q.patterns, position⟩

end Query

/-- The plan for an ancestry. -/
def Ancestry.plan (a : Ancestry) (language : Language) (scope : Scope) : Except Fault Plan := do
  if a.hasPattern then throw (.incompatible .ancestry)
  return ⟨.structural, language, ← pathIn language scope a, [], none⟩

/-- The plan for what a caller passes as a query, a language and a scope. -/
def plan (source : Source) (language scope : Value) : Except Fault Plan := do
  let language ← Language.ofValue language
  let scope ← Scope.ofValue scope
  if source.isAncestry then (← source.toAncestry).plan language scope
  else (← source.toQuery).plan language scope

end ElementQuery
