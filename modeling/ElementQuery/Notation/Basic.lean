import ElementQuery.Notation.Form
import ElementQuery.Query.Basic

/-!
# The query notation

Queries as texts, such as `{:tag :div, :id "content"}`, and ancestries as vectors of them. A text
is read into a form first; then the tokens and maps of the form are given their meaning from left
to right, a map after its tokens. Regular expressions are read by whatever engine there is.

## Main definitions

* `unescape` : what a quoted text stands for.
* `Token.meaning` : the value of a token.
* `Parsed` : what a text stands for.
* `Form.evaluate` : the meaning of a form.
* `parse`, `parseQuery`, `parseAncestry` : the meaning of a text.
-/

namespace ElementQuery.Notation

open ElementQuery.Number

/-- What a character stands for behind a backslash: most stand for themselves. -/
def escaped (c : Char) : Char :=
  if c = 'n' then '\n' else if c = 't' then '\t' else if c = 'r' then '\r' else c

/-- The character with a code point; a code point without a character gives the replacement
character. -/
def charOfCode (code : Nat) : Char :=
  if code.isValidChar then Char.ofNat code else Char.ofNat 0xFFFD

/-- The character that the four hexadecimal digits at the start of a text spell. -/
def hexChar? (cs : List Char) : Option Char :=
  let digits := cs.take 4
  if digits.length = 4 ∧ digits.all Regex.isHexDigit then
    some (charOfCode (Regex.ofDigits 16 digits))
  else none

/-- What the inside of a quoted text stands for. -/
def unescape : List Char → List Char
  | [] => []
  | '\\' :: 'u' :: rest =>
    match hexChar? rest with
    | some c => c :: unescape (rest.drop 4)
    | none => 'u' :: unescape rest
  | '\\' :: c :: rest => escaped c :: unescape rest
  | c :: rest => c :: unescape rest
termination_by cs => cs.length
decreasing_by all_goals simp only [List.length_cons, List.length_drop]; omega

/-- The source of a regular expression: only a quote behind a backslash is taken without it. -/
def unescapeQuotes : List Char → List Char
  | [] => []
  | '\\' :: '"' :: rest => '"' :: unescapeQuotes rest
  | c :: rest => c :: unescapeQuotes rest

/-- A token without a number of leading characters and without its last character. -/
def inner (leading : Nat) (lexeme : List Char) : List Char := (lexeme.drop leading).dropLast

variable [Regex.Engine]

/-- The number that a token spells. -/
def integerOf (lexeme : List Char) : Except Error Value :=
  let (negative, digits) := splitSign lexeme
  if maxDigits < digits.length then throw (.integerTooLong digits.length)
  else return .int (signed negative (Regex.ofDigits 10 digits))

/-- The regular expression that a token spells. -/
def regexOf (lexeme : List Char) : Except Error Value :=
  match Regex.compile .none (String.ofList (unescapeQuotes (inner 2 lexeme))) with
  | .ok regex => return .regex regex
  | .error (.malformed source problem position) =>
    throw (.badRegex (String.ofList lexeme) (.malformed source problem position))
  | .error cause => throw (.regexBeyondLimits cause)

/-- The value of a token. -/
def Token.meaning (token : Token) : Except Error Value :=
  match token.terminal with
  | .keyword => return .text (String.ofList (token.lexeme.drop 1))
  | .string => return .text (String.ofList (unescape (inner 1 token.lexeme)))
  | .regex => regexOf token.lexeme
  | .integer => integerOf token.lexeme
  | _ => return .none

/-- The key and the value of an entry. -/
def Entry.meaning (entry : Entry) : Except Error (Value × Value) := do
  return (← entry.key.meaning, ← entry.value.meaning)

/-- The query of the entries of a map. -/
def evaluateMap (entries : List Entry) : Except Error Query := do
  let pairs ← entries.mapM Entry.meaning
  (Query.ofPairs pairs).mapError .ofFault

/-- What a text stands for. -/
inductive Parsed where
  | query (q : Query)
  | ancestry (a : Ancestry)

/-- The meaning of a form. -/
def Form.evaluate : Form → Except Error Parsed
  | map entries => .query <$> evaluateMap entries
  | vector maps => (.ancestry ⟨·⟩) <$> maps.mapM evaluateMap

/-- The meaning of a text. -/
def parse (text : String) : Except Error Parsed := do
  (← Form.read text).evaluate

/-- The meaning of a text that is a single map. -/
def parseQuery (text : String) : Except Error Query := do
  match ← parse text with
  | .query q => return q
  | .ancestry _ => throw .vectorForMap

/-- The meaning of a text as an ancestry; a map stands for one level. -/
def parseAncestry (text : String) : Except Error Ancestry := do
  match ← parse text with
  | .query q => return ⟨[q]⟩
  | .ancestry a => return a

end ElementQuery.Notation
