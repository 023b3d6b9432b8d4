import ElementQuery.Query.Basic

/-!
# What callers pass as queries

A query may be passed as nothing, as keys with values, as a query made beforehand or as any other
value; an ancestry as a sequence of these. The conversions say which of them make sense where.

## Main definitions

* `Source` : what is passed.
* `Source.toQuery`, `Source.toAncestry` : the query or the ancestry that is meant.
* `Source.same` : equality of what is passed.
-/

namespace ElementQuery

/-- What a caller passes as a query or as an ancestry. -/
inductive Source where
  | nothing
  | mapping (entries : List (Value × Value))
  | query (q : Query)
  | ancestry (a : Ancestry)
  | sequence (tuple : Bool) (items : List Source)
  | value (v : Value)

namespace Source

/-- A value that is passed as such: lists and keyed values are seen for what they are. -/
def ofValue : Value → Source
  | .none => nothing
  | .dict entries => mapping entries
  | .list items => sequence false (items.map fun v => value v)
  | v => value v

/-- What a source is after a value has been seen for what it is. -/
def seen : Source → Source
  | value v => ofValue v
  | source => source

/-- The query that is meant. -/
def toQuery (source : Source) : Except Fault Query :=
  match source.seen with
  | nothing => return .empty
  | mapping entries => Query.ofPairs entries
  | query q => return q
  | ancestry _ => throw (.misuse (.notAQuery "AncestryQuery"))
  | sequence tuple _ => throw (.misuse (.notAQuery (if tuple then "tuple" else "list")))
  | value v => throw (.misuse (.notAQuery v.sort))

/-- The ancestry that is meant. -/
def toAncestry (source : Source) : Except Fault Ancestry :=
  match source.seen with
  | ancestry a => return a
  | mapping _ | query _ => throw (.misuse .notASequence)
  | sequence _ items => .mk <$> items.mapM toQuery
  | nothing => throw (.misuse (.notIterable Value.none.qualifiedSort))
  | value v =>
    match v.base with
    | .text _ => throw (.misuse .notASequence)
    | _ => throw (.misuse (.notIterable v.qualifiedSort))

/-- Whether what is passed is meant as an ancestry. -/
def isAncestry (source : Source) : Bool :=
  match source.seen with
  | ancestry _ | sequence .. => true
  | _ => false

mutual

/-- Whether two sources are equal. -/
def same : Source → Source → Bool
  | nothing, other => match other.seen with
    | nothing => true
    | _ => false
  | mapping a, other => match other.seen with
    | mapping b => (Value.dict a).same (.dict b)
    | _ => false
  | query a, other => match other.seen with
    | query b => a.same b
    | _ => false
  | ancestry a, other => match other.seen with
    | ancestry b => a.same b
    | _ => false
  | sequence tuple a, other => match other.seen with
    | sequence tuple' b => tuple == tuple' && sameItems a b
    | _ => false
  | value v, other => match v, other.seen with
    | .none, nothing => true
    | .dict a, mapping b => (Value.dict a).same (.dict b)
    | .list a, sequence false b => sameValues a b
    | v, value w => v.same w
    | _, _ => false

/-- Whether two sequences are equal item by item. -/
def sameItems : List Source → List Source → Bool
  | [], [] => true
  | a :: as, b :: bs => a.same b && sameItems as bs
  | _, _ => false

/-- Whether a list of values equals a sequence item by item. -/
def sameValues : List Value → List Source → Bool
  | [], [] => true
  | a :: as, b :: bs => (match b.seen with
      | value w => a.same w
      | _ => false) && sameValues as bs
  | _, _ => false

end

end Source

end ElementQuery
