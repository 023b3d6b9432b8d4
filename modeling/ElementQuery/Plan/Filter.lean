import ElementQuery.Plan.Basic

/-!
# Applying a plan to elements

The part of a plan that a selector cannot express: the checks by regular expressions and the
position among the elements that pass them.

## Main definitions

* `Element` : what can be asked of an element.
* `Element.passes` : whether an element passes all checks.
* `Plan.filter` : the candidates that a plan keeps.

## Design notes

How a regular expression is searched in a text is an argument of `Element.passesBy` and
`Plan.filterBy`, which say in which order what is searched where.
-/

namespace ElementQuery

/-- What can be asked of an element; an absent field has no value. -/
structure Element where
  tag : Value
  text : Value
  attributes : List (String × Value)

namespace Element

/-- The value of a named attribute. -/
def attributeValue (e : Element) (name : String) : Value := (e.attributes.lookup name).getD .none

/-- What an entry of a query is compared with. -/
def fieldFor (e : Element) (p : Predicate) : Value :=
  match p.kind with
  | .tag => e.tag
  | .text => e.text
  | _ => e.attributeValue p.name

/-- Whether a check by a regular expression finds a match; a missing field has none. -/
def passesOne (search : Regex → String → Bool) (e : Element) (p : Predicate) :
    Except Misuse Bool :=
  match (e.fieldFor p).base, p.criterion with
  | .none, _ => return false
  | .text s, .pattern r => return search r s
  | .text _, _ => return false
  | _, _ => throw (.searchInNonText (e.fieldFor p).qualifiedSort)

/-- Whether an element passes all checks, where `search` finds matches. The checks are made in
order, up to the first that fails. -/
def passesBy (search : Regex → String → Bool) (e : Element) :
    List Predicate → Except Misuse Bool
  | [] => return true
  | p :: rest => do
    if ← e.passesOne search p then e.passesBy search rest else return false

/-- Whether an element passes all checks. -/
def passes (e : Element) (checks : List Predicate) : Except Misuse Bool :=
  e.passesBy Regex.occursIn checks

end Element

/-- The item at a position of a list; a negative position counts from the end. A position past
the end gives nothing, one before the start is refused. -/
def pick {α : Type} (items : List α) (position : Int) : Except Misuse (List α) :=
  if (items.length : Int) ≤ position then return []
  else
    let place := if position < 0 then position + items.length else position
    if place < 0 then throw .positionOutOfRange
    else return (items[place.toNat]?).toList

/-- The candidates that pass the checks, in order, cut down to one if the plan has an index, where
`search` finds matches; `element` says what can be asked of a candidate. -/
def Plan.filterBy {α : Type} (search : Regex → String → Bool) (p : Plan) (element : α → Element)
    (candidates : List α) : Except Misuse (List α) := do
  let passing ← candidates.filterM fun c => (element c).passesBy search p.patterns
  match p.index with
  | none => return passing
  | some position => pick passing position

/-- The candidates that a plan keeps. -/
def Plan.filter {α : Type} (p : Plan) (element : α → Element) (candidates : List α) :
    Except Misuse (List α) :=
  p.filterBy Regex.occursIn element candidates

end ElementQuery
