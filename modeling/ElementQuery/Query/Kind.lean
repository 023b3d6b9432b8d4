/-!
# Kinds of query entries, selector languages and scopes

The small vocabularies of a query: what part an entry plays, in which language a selector is
written, and where a search starts.

## Main definitions

* `Kind` : the part that an entry plays in a selector.
* `Kind.ofKey` : reserved keys have a kind of their own, all others name an attribute.
* `Language`, `Scope` : the selector languages and the extents of a search.
-/

namespace ElementQuery

/-- The part that a query entry plays in a selector. -/
inductive Kind where
  | tag
  /-- The position among siblings, or among the elements that pass the other checks. -/
  | index
  | text
  | css
  | xpath
  | named
  deriving DecidableEq, Repr

namespace Kind

/-- All kinds. -/
def all : List Kind := [tag, index, text, css, xpath, named]

/-- The name of a kind; but for `named` it is the key reserved for the kind. -/
def name : Kind → String
  | tag => "tag"
  | index => "index"
  | text => "text"
  | css => "css"
  | xpath => "xpath"
  | named => "attribute"

/-- The kind with a name. -/
def ofName? (name : String) : Option Kind := all.find? (·.name == name)

/-- The kind of the entry under a key. -/
def ofKey (key : String) : Kind := (ofName? key).getD named

/-- Whether a kind is a ready-made selector. -/
def isOverride : Kind → Bool
  | css | xpath => true
  | _ => false

@[simp] theorem ofName?_name (k : Kind) : ofName? k.name = some k := by
  cases k <;> decide

/-- The name of a kind, as a key, asks for that kind. -/
@[simp] theorem ofKey_name (k : Kind) : ofKey k.name = k := by simp [ofKey]

end Kind

/-- A language that selectors are written in. -/
inductive Language where
  | css
  | xpath
  deriving DecidableEq, Repr

namespace Language

/-- The name of a language. -/
def name : Language → String
  | css => "css"
  | xpath => "xpath"

/-- How a language is called in messages. -/
def title : Language → String
  | css => "CSS"
  | xpath => "XPath"

/-- The language with a name. -/
def ofName? (name : String) : Option Language :=
  if name = "css" then some css else if name = "xpath" then some xpath else none

@[simp] theorem ofName?_name (l : Language) : ofName? l.name = some l := by
  cases l <;> rfl

end Language

/-- Where an XPath starts to search. -/
inductive Scope where
  | document
  | context
  deriving DecidableEq, Repr

namespace Scope

/-- The name of a scope. -/
def name : Scope → String
  | document => "global"
  | context => "local"

/-- What an XPath of the scope starts with. -/
def lead : Scope → String
  | document => ""
  | context => "."

/-- The scope with a name. -/
def ofName? (name : String) : Option Scope :=
  if name = "global" then some document else if name = "local" then some context else none

@[simp] theorem ofName?_name (s : Scope) : ofName? s.name = some s := by
  cases s <;> rfl

end Scope

end ElementQuery
