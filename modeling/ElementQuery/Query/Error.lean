import ElementQuery.Query.Kind
import ElementQuery.Query.Value

/-!
# Faults of queries

Why a query cannot be made, cannot be written as a selector or cannot be planned. The faults fall
into families that callers tell apart; each has its wording in one function.

## Main definitions

* `InvalidValue` : an entry, a scope or a language that does not make sense.
* `Incompatible` : a regular expression where only a selector will do.
* `InvalidLevel` : a level that has no place in an ancestry.
* `Misuse` : a value of the wrong sort.
* `Fault` : any of these, a check on text that CSS cannot make, or a number that is too long to be
  written.
* `written` : a text, or the fault that there is none.
* `Fault.details` : the particulars of a fault, by name.
-/

namespace ElementQuery

open ElementQuery.Text

/-- An entry, a scope or a language that does not make sense. -/
inductive InvalidValue where
  | emptyKey
  | duplicateKey (name : String)
  /-- An entry of this kind has no value. -/
  | noValue (kind : Kind)
  /-- What is given as an index is not a whole number. -/
  | notAnIndex (shown : String)
  | negativeIndex (shown : String)
  | unknownScope (shown : String)
  | unknownLanguage (shown : String)
  deriving DecidableEq, Repr

namespace InvalidValue

/-- The wording of the fault. -/
def message : InvalidValue → String
  | emptyKey => "Query keys cannot be empty"
  | duplicateKey name => "Duplicate query key: " ++ quoted name
  | noValue kind => "Query key " ++ quoted kind.name ++ " has no value"
  | notAnIndex shown => "index must be an integer, got " ++ shown
  | negativeIndex shown => "index is 0-based and cannot be negative, got " ++ shown
  | unknownScope shown => "Unknown scope: " ++ shown ++ " (expected 'global' or 'local')"
  | unknownLanguage shown => "Unsupported selector language: " ++ shown

/-- The key or setting at fault, if there is one to name. -/
def field? : InvalidValue → Option String
  | emptyKey => none
  | duplicateKey name => some name
  | noValue kind => some kind.name
  | notAnIndex _ | negativeIndex _ => some "index"
  | unknownScope _ => some "scope"
  | unknownLanguage _ => some "language"

end InvalidValue

/-- A regular expression where only a selector will do. -/
inductive Incompatible where
  /-- The value of an entry cannot be written in a selector language. -/
  | value (language : Language) (name source : String)
  /-- A ready-made selector is a regular expression. -/
  | override (name : String)
  | index
  | ancestry
  deriving DecidableEq, Repr

/-- The wording of the fault. -/
def Incompatible.message : Incompatible → String
  | value language name _ => language.title ++ " cannot match " ++ quoted name ++ " against a regex"
  | override name => "The :" ++ name ++ " entry must be a selector string, not a regex"
  | index => "The :index entry cannot be a regex"
  | ancestry =>
    "Hierarchical queries cannot contain regex values; "
      ++ "query the innermost level with a regex scan instead"

/-- Names of element categories that a driver resolves and that are no element names. -/
def metaTags : List String := ["button*", "radio", "checkbox", "textfield", "password", "filefield"]

/-- A level that has no place in an ancestry. -/
inductive InvalidLevel where
  /-- The level has ready-made selectors under these keys. -/
  | overrides (keys : List String)
  /-- The level's tag is an element category. -/
  | metaTag (tag : String)
  deriving DecidableEq, Repr

/-- The wording of the fault. -/
def InvalidLevel.message : InvalidLevel → String
  | overrides _ => "Hierarchical queries do not support the use of :css or :xpath entries."
  | metaTag _ =>
    "Hierarchical queries do not support the use of \"meta\" tags such as "
      ++ String.intercalate ", " (metaTags.map (":" ++ ·)) ++ "."

/-- A value of the wrong sort. -/
inductive Misuse where
  /-- Something that is not a query is used as one. -/
  | notAQuery (sort : String)
  /-- A single query is used as an ancestry. -/
  | notASequence
  /-- Something without members is used as an ancestry. -/
  | notIterable (sort : String)
  /-- A key of a sort that cannot be looked up. -/
  | unhashable (sort : String)
  | noPosition (sort : String)
  /-- A language that is not a text. -/
  | languageNotText (sort : String)
  /-- A regular expression is searched in something that is not a text. -/
  | searchInNonText (sort : String)
  /-- A position is not among the elements. -/
  | positionOutOfRange
  /-- There is no kind of that name. -/
  | unknownKind (name : String)
  deriving DecidableEq, Repr

/-- The wording of the fault. -/
def Misuse.message : Misuse → String
  | notAQuery sort => "Expected a mapping or AttributeQuery, got " ++ sort
  | notASequence => "Ancestry queries must be a sequence of queries"
  | notIterable sort => quoted sort ++ " object is not iterable"
  | unhashable sort => "unhashable type: " ++ quoted sort
  | noPosition sort => quoted sort ++ " object has no attribute 'position'"
  | languageNotText sort => quoted sort ++ " object has no attribute 'strip'"
  | searchInNonText sort => "expected string or bytes-like object, got " ++ quoted sort
  | positionOutOfRange => "list index out of range"
  | unknownKind name => quoted name ++ " is not a valid PredicateKind"

/-- Why a query cannot be made, written as a selector or planned. -/
inductive Fault where
  /-- An entry, a scope or a language does not make sense. -/
  | invalidValue (cause : InvalidValue)
  /-- A regular expression stands where only a selector will do. -/
  | incompatible (cause : Incompatible)
  /-- CSS has no check on the text of an element, which this entry asks for. -/
  | textInCss (name : String)
  /-- A level has no place in an ancestry. -/
  | invalidLevel (level : Nat) (cause : InvalidLevel)
  /-- A value is of the wrong sort. -/
  | misuse (cause : Misuse)
  /-- A whole number has too many digits to be written. -/
  | numberTooLong
  deriving DecidableEq, Repr

/-- A particular of a fault. -/
inductive Detail where
  | text (s : String)
  | texts (ss : List String)
  | number (n : Nat)
  deriving DecidableEq, Repr

namespace Fault

/-- The wording of the fault. -/
def message : Fault → String
  | invalidValue cause => cause.message
  | incompatible cause => cause.message
  | textInCss _ => "CSS queries do not support checking against the text of an element."
  | invalidLevel _ cause => cause.message
  | misuse cause => cause.message
  | numberTooLong => Number.tooLongToWrite

/-- The level of an ancestry that the fault lies in, counted from 0. -/
def level? : Fault → Option Nat
  | invalidLevel level _ => some level
  | _ => none

/-- The particulars of the fault, by name. -/
def details : Fault → List (String × Detail)
  | incompatible (.value _ name source) => [("attribute", .text name), ("pattern", .text source)]
  | invalidLevel level (.overrides keys) => [("keys", .texts keys), ("level", .number level)]
  | invalidLevel level (.metaTag tag) => [("tag", .text tag), ("level", .number level)]
  | _ => []

/-- Whether the fault lies in the query, as opposed to the way it was passed. -/
def isOfQuery : Fault → Bool
  | misuse _ | numberTooLong => false
  | _ => true

end Fault

/-- The text of what has been written; there is none of a number with too many digits. -/
def written : Option String → Except Fault String
  | some text => return text
  | none => throw .numberTooLong

@[simp] theorem written_some (s : String) : written (some s) = .ok s := rfl

/-- What could be written is given as it is. -/
theorem written_eq_ok_iff {text : Option String} {s : String} :
    written text = .ok s ↔ text = some s := by
  cases text <;> simp [written, pure, Except.pure, throw, throwThe, MonadExceptOf.throw]

/-- What could not be written is a number with too many digits. -/
theorem written_eq_error_iff {text : Option String} {e : Fault} :
    written text = .error e ↔ text = none ∧ e = .numberTooLong := by
  cases text <;> simp [written, pure, Except.pure, throw, throwThe, MonadExceptOf.throw, eq_comm]

end ElementQuery
