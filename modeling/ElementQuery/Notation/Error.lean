import ElementQuery.Notation.Token
import ElementQuery.Query.Error

/-!
# Faults of a text in the query notation

## Main definitions

* `Expected` : what could have stood in a place instead.
* `Error` : what is wrong with a text.
* `Error.message` : the wording.
* `Error.isBreakdown` : whether a part of the text is beyond what can be handled at all.
* `Error.ofFault` : what is wrong with a map whose entries make no query.
-/

namespace ElementQuery.Notation

open ElementQuery.Text

/-- What could have stood in a place: some terminals, or nothing at all. -/
abbrev Expected := List Terminal

/-- The names of what could have stood in a place, in alphabetical order. -/
def Expected.names (expected : Expected) : List String :=
  if expected.isEmpty then ["<END-OF-FILE>"]
  else (expected.map Terminal.name).mergeSort fun a b => decide (a ≤ b)

/-- What is wrong with a text in the query notation. -/
inductive Error where
  /-- A token, or the end of the text, does not fit. -/
  | unexpectedToken (token : Token) (expected : Expected)
  | unexpectedCharacter (c : Char) (place : Place) (expected : Expected)
  | badRegex (lexeme : String) (cause : Regex.Error)
  /-- The entries of a map do not make a query. -/
  | invalidQuery (cause : InvalidValue)
  /-- A single query is asked for and the text is a vector. -/
  | vectorForMap
  /-- A whole number has too many digits. -/
  | integerTooLong (digits : Nat)
  /-- A regular expression is well-formed but beyond what can be handled. -/
  | regexBeyondLimits (cause : Regex.Error)
  /-- Making a query of the entries of a map fails with something else than a complaint. -/
  | queryBeyondLimits (cause : Fault)
  deriving DecidableEq, Repr

namespace Error

/-- The wording of the fault. -/
def message : Error → String
  | unexpectedToken token _ =>
    "Invalid query: Unexpected token Token(" ++ quoted token.terminal.name ++ ", "
      ++ quoted (String.ofList token.lexeme) ++ ") at line " ++ toString token.place.line
      ++ ", column " ++ toString token.place.column ++ "."
  | unexpectedCharacter c place _ =>
    "Invalid query: No terminal matches '" ++ String.singleton c
      ++ "' in the current parser context, at line " ++ toString place.line
      ++ " col " ++ toString place.column
  | badRegex lexeme cause => "Invalid regex " ++ lexeme ++ ": " ++ cause.message
  | invalidQuery cause => "Invalid query: " ++ cause.message
  | vectorForMap => "Expected a single query map, got a vector"
  | integerTooLong digits => breakdown Terminal.integer.name (Regex.tooManyDigits digits)
  | regexBeyondLimits cause => breakdown Terminal.regex.name cause.message
  | queryBeyondLimits cause => breakdown "query" cause.message
where
  /-- The wording for a rule of the grammar that cannot be handled. -/
  breakdown (rule complaint : String) : String :=
    "Error trying to process rule \"" ++ rule ++ "\":\n\n" ++ complaint

/-- Whether the text does not follow the grammar. -/
def isSyntactic : Error → Bool
  | unexpectedToken .. | unexpectedCharacter .. => true
  | _ => false

/-- Whether a part of the text is beyond what can be handled, as opposed to being wrong. -/
def isBreakdown : Error → Bool
  | integerTooLong _ | regexBeyondLimits _ | queryBeyondLimits _ => true
  | _ => false

/-- What is wrong with a map whose entries make no query. -/
def ofFault : Fault → Error
  | .invalidValue cause => invalidQuery cause
  | fault => queryBeyondLimits fault

/-- What could have stood in the place of a syntactic fault. -/
def expected? : Error → Option Expected
  | unexpectedToken _ expected | unexpectedCharacter _ _ expected => some expected
  | _ => none

end Error

end ElementQuery.Notation
