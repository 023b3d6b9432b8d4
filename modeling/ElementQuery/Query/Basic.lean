import ElementQuery.Query.Error

/-!
# Queries

A query is an ordered list of predicates on an element; an ancestry is a list of queries from the
outermost element to the innermost one.

## Main definitions

* `Predicate`, `Query`, `Ancestry` : the model.
* `Criterion.ofValue` : what a caller's value becomes under a kind.
* `Query.ofPairs` : the query of keys with their values.
* `Query.get?`, `Query.tagName`, `Query.contains` : looking entries up.
* `Query.without`, `Query.literals`, `Query.patterns` : parts of a query.
-/

namespace ElementQuery

open ElementQuery.Text ElementQuery.Number

/-- One entry of a query. -/
structure Predicate where
  /-- The name of the entry; for an attribute its name. -/
  name : String
  kind : Kind
  criterion : Criterion

namespace Predicate

/-- Whether the entry is compared by a regular expression. -/
def isPattern (p : Predicate) : Bool := p.criterion.isPattern

/-- Equality of entries. -/
def same (a b : Predicate) : Bool :=
  a.name == b.name && a.kind == b.kind && a.criterion.same b.criterion

end Predicate

/-- A query on one element: entries in order. -/
structure Query where
  predicates : List Predicate

/-- Queries from the outermost element to the innermost one. -/
structure Ancestry where
  levels : List Query

/-- The position that a value stands for: a whole number, or a numeral. -/
def positionOf? (v : Value) : Option Int :=
  match v.base with
  | .int n => some n
  | .float x => x.toInt?
  | .text s => readInt? s
  | _ => none

/-- The criterion of an index entry. -/
def Criterion.ofIndex (v : Value) : Except Fault Criterion :=
  match positionOf? v with
  | none => do throw (.invalidValue (.notAnIndex (← written v.shown?)))
  | some position =>
    if position < 0 then do
      throw (.invalidValue (.negativeIndex (← written (writeInt? position))))
    else return .index position

/-- What a caller's value becomes under a kind. -/
def Criterion.ofValue (kind : Kind) (v : Value) : Except Fault Criterion :=
  match v with
  | .criterion c => return c
  | .regex r => return .pattern r
  | v =>
    if kind = .index then Criterion.ofIndex v
    else match v with
      | .none => throw (.invalidValue (.noValue kind))
      | v => .literal <$> written v.symbolName?

/-- The scope that a value names; no value means the whole document. -/
def Scope.ofValue : Value → Except Fault Scope
  | .none => return .document
  | v => do
    match ofName? (lower (trim (← written v.keyName?))) with
    | some scope => return scope
    | none => throw (.invalidValue (.unknownScope (← written v.shown?)))

/-- The entry for a key with its value, where the names in `seen` are taken. -/
def Predicate.ofPair (seen : List String) (pair : Value × Value) :
    Except Fault Predicate := do
  let name ← written pair.1.keyName?
  if name = "" then throw (.invalidValue .emptyKey)
  if seen.contains name then throw (.invalidValue (.duplicateKey name))
  let kind := Kind.ofKey name
  return ⟨name, kind, ← Criterion.ofValue kind pair.2⟩

/-- The entries for keys with their values, where the names in `seen` are taken. -/
def Predicate.ofPairs (seen : List String) :
    List (Value × Value) → Except Fault (List Predicate)
  | [] => return []
  | pair :: rest => do
    let p ← Predicate.ofPair seen pair
    let ps ← Predicate.ofPairs (p.name :: seen) rest
    return p :: ps

namespace Query

/-- The query without entries. -/
def empty : Query := ⟨[]⟩

/-- The query of keys with their values. -/
def ofPairs (pairs : List (Value × Value)) : Except Fault Query :=
  .mk <$> Predicate.ofPairs [] pairs

/-- The first entry of a kind. -/
def get? (q : Query) (kind : Kind) : Option Predicate := q.predicates.find? (·.kind == kind)

/-- Whether there is an entry of a kind. -/
def hasKind (q : Query) (kind : Kind) : Bool := q.predicates.any (·.kind == kind)

/-- Whether there is an entry under a key. Without entries the key is not looked at. -/
def contains (q : Query) (key : Value) : Except Fault Bool :=
  if q.predicates.isEmpty then return false
  else do
    let name ← written key.keyName?
    return q.predicates.any (·.name == name)

/-- What the element name is compared by. -/
def tag? (q : Query) : Option Criterion := (q.get? .tag).map (·.criterion)

/-- The element name, `*` if the query has none. -/
def tagName (q : Query) : String := q.tag?.elim "*" (·.text)

/-- Whether some entry is compared by a regular expression. -/
def hasPattern (q : Query) : Bool := q.predicates.any (·.isPattern)

/-- Whether there are entries and all are compared by regular expressions. -/
def allPatterns (q : Query) : Bool := !q.predicates.isEmpty && q.predicates.all (·.isPattern)

/-- The names of the entries that are ready-made selectors. -/
def overrideKeys (q : Query) : List String :=
  (q.predicates.filter (·.kind.isOverride)).map (·.name)

/-- The query without the entries of some kinds. -/
def without (q : Query) (kinds : List Kind) : Query :=
  ⟨q.predicates.filter fun p => !kinds.contains p.kind⟩

/-- The query without an element name. -/
def withoutTag (q : Query) : Query := q.without [.tag]

/-- The query without the entries that are compared by regular expressions. -/
def literals (q : Query) : Query := ⟨q.predicates.filter (!·.isPattern)⟩

/-- The entries that are compared by regular expressions. -/
def patterns (q : Query) : List Predicate := q.predicates.filter (·.isPattern)

/-- Equality of queries: equal entries in the same order. -/
def same (a b : Query) : Bool :=
  a.predicates.length == b.predicates.length
    && (a.predicates.zip b.predicates).all fun (p, q) => p.same q

/-- A query has no regular expressions to check exactly if none of its values is one. -/
@[simp] theorem patterns_eq_nil_iff {q : Query} : q.patterns = [] ↔ q.hasPattern = false := by
  simp [patterns, hasPattern]

/-- Among the literal entries there is no regular expression. -/
@[simp] theorem hasPattern_literals (q : Query) : q.literals.hasPattern = false := by
  simp [literals, hasPattern]

end Query

namespace Ancestry

/-- Whether some level has an entry that is compared by a regular expression. -/
def hasPattern (a : Ancestry) : Bool := a.levels.any (·.hasPattern)

/-- Equality of ancestries: equal levels in the same order. -/
def same (a b : Ancestry) : Bool :=
  a.levels.length == b.levels.length && (a.levels.zip b.levels).all fun (p, q) => p.same q

end Ancestry

end ElementQuery
