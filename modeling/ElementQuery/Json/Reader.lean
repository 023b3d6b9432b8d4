import ElementQuery.Json.Basic
import ElementQuery.Regex.Cursor

/-!
# Reading JSON

A text is read strictly, except that it may name the numbers that JSON has no form for. The first
fault is reported with its place. Members with the same name are merged, the last value winning.

## Main definitions

* `Json.Problem`, `Json.Error` : what can be wrong, and where.
* `Json.parse` : the value of a text.

## Design notes

The functions on nested values count down a number of steps that `Json.parse` takes from the
length of the text: two steps that follow each other read at least one character, so they cannot
run out before it does.
-/

namespace ElementQuery.Json

open ElementQuery.Number ElementQuery.Text

/-- What is wrong with a JSON text. -/
inductive Problem where
  | expectingValue
  | expectingName
  | expectingColon
  | expectingComma
  | controlCharacter
  | unterminatedString
  | badEscape
  | badCodeEscape
  | extraData
  | byteOrderMark
  deriving DecidableEq, Repr

/-- The wording of a problem, without its place. -/
def Problem.message : Problem → String
  | expectingValue => "Expecting value"
  | expectingName => "Expecting property name enclosed in double quotes"
  | expectingColon => "Expecting ':' delimiter"
  | expectingComma => "Expecting ',' delimiter"
  | controlCharacter => "Invalid control character at"
  | unterminatedString => "Unterminated string starting at"
  | badEscape => "Invalid \\escape"
  | badCodeEscape => "Invalid \\uXXXX escape"
  | extraData => "Extra data"
  | byteOrderMark => "Unexpected UTF-8 BOM (decode using utf-8-sig)"

/-- Why a text is no JSON value. -/
inductive Error where
  /-- The text is malformed at a position. -/
  | malformed (problem : Problem) (position : Nat)
  /-- A whole number has too many digits. -/
  | integerTooLong (digits : Nat)
  deriving DecidableEq, Repr

/-- The wording of a fault of a text. -/
def Error.message (text : List Char) : Error → String
  | malformed problem position =>
    let ahead := text.take position
    problem.message ++ ": line " ++ toString (ahead.count '\n' + 1) ++ " column "
      ++ toString ((ahead.reverse.takeWhile (· != '\n')).length + 1)
      ++ " (char " ++ toString position ++ ")"
  | integerTooLong digits => Regex.tooManyDigits digits

/-- What has not been read, and how much has been. -/
structure Cursor where
  rest : List Char
  position : Nat

/-- A computation on a cursor that may fail. -/
abbrev Reading := StateT Cursor (Except Error)

/-- Fails with a problem at a position. -/
def failAt {α : Type} (problem : Problem) (position : Nat) : Reading α :=
  throw (.malformed problem position)

/-- Fails with a problem here. -/
def failHere {α : Type} (problem : Problem) : Reading α := do
  failAt problem (← get).position

/-- Moves on by a number of characters, which must be there. -/
def skip (n : Nat) : Reading Unit :=
  modify fun c => ⟨c.rest.drop n, c.position + n⟩

/-- Reads characters of a class. -/
def takeWhile (p : Char → Bool) : Reading (List Char) := do
  let taken := (← get).rest.takeWhile p
  skip taken.length
  return taken

/-- Skips blanks. -/
def skipBlanks : Reading Unit := do
  let _ ← takeWhile fun c => c == ' ' || c == '\t' || c == '\n' || c == '\r'

/-- Reads the given word, if it comes next. -/
def acceptWord (word : String) : Reading Bool := do
  if word.toList.isPrefixOf (← get).rest then
    skip word.length
    return true
  else return false

/-- What a letter stands for behind a backslash. -/
def plainEscape? : Char → Option Char
  | '"' => some '"'
  | '\\' => some '\\'
  | '/' => some '/'
  | 'b' => some '\x08'
  | 'f' => some '\x0c'
  | 'n' => some '\n'
  | 'r' => some '\r'
  | 't' => some '\t'
  | _ => none

/-- Four hexadecimal digits of an escape that starts at `start`. -/
def readUnit (start : Nat) : Reading Nat := do
  let c ← get
  let digits := c.rest.take 4
  if (c.rest.drop 4).isEmpty ∨ !digits.all Regex.isHexDigit then failAt .badCodeEscape (start + 1)
  skip 4
  return Regex.ofDigits 16 digits

/-- Whether a code is that of the first half of a surrogate pair. -/
def isFirstHalf (code : Nat) : Bool := 0xD800 ≤ code && code ≤ 0xDBFF

/-- Whether a code is that of the second half of a surrogate pair. -/
def isSecondHalf (code : Nat) : Bool := 0xDC00 ≤ code && code ≤ 0xDFFF

/-- Reads an escape by code point behind its letter; its backslash was at `start`. Two halves of a
surrogate pair in a row make one character. -/
def readCodeEscape (start : Nat) : Reading CodePoint := do
  let high ← readUnit start
  let c ← get
  if isFirstHalf high && ['\\', 'u'].isPrefixOf c.rest && !(c.rest.drop 6).isEmpty then
    skip 2
    let low ← readUnit c.position
    if isSecondHalf low then
      return .ofCode (0x10000 + (high - 0xD800) * 0x400 + (low - 0xDC00))
    set c
  return .ofCode high

/-- Reads the code points of a string that starts at `start`, up to its closing quote. -/
def readStringCodes (start : Nat) : (steps : Nat) → Reading (List CodePoint)
  | 0 => failAt .unterminatedString start
  | steps + 1 => do
    let c ← get
    match c.rest with
    | [] => failAt .unterminatedString start
    | '"' :: _ =>
      skip 1
      return []
    | '\\' :: [] => failAt .unterminatedString start
    | '\\' :: letter :: _ =>
      skip 2
      if letter = 'u' then
        let first ← readCodeEscape c.position
        return first :: (← readStringCodes start steps)
      match plainEscape? letter with
      | some first => return .char first :: (← readStringCodes start steps)
      | none => failAt .badEscape c.position
    | first :: _ =>
      if first.toNat ≤ 0x1F then failAt .controlCharacter c.position
      skip 1
      return .char first :: (← readStringCodes start steps)

/-- Reads a string behind its opening quote. -/
def readString : Reading Text := do
  let c ← get
  return ⟨← readStringCodes (c.position - 1) (c.rest.length + 1)⟩

/-- Reads an exponent with its letter; nothing is read if there are no digits. -/
def readExponent : Reading (Option Int) := do
  let start ← get
  match start.rest with
  | mark :: _ =>
    if mark = 'e' ∨ mark = 'E' then
      skip 1
      let negative ← acceptWord "-"
      if !negative then let _ ← acceptWord "+"
      let digits ← takeWhile isAsciiDigit
      if !digits.isEmpty then return some (signed negative (Regex.ofDigits 10 digits))
      set start
  | [] => pure ()
  return none

/-- Reads a fraction with its point; nothing is read if there are no digits. -/
def readFraction : Reading (List Char) := do
  match (← get).rest with
  | '.' :: d :: _ =>
    if isAsciiDigit d then
      skip 1
      return ← takeWhile isAsciiDigit
  | _ => pure ()
  return []

/-- Reads the digits before the point: a single zero, or digits that start with another one. -/
def readWhole (start : Nat) : Reading (List Char) := do
  if ← acceptWord "0" then return ['0']
  let digits ← takeWhile isAsciiDigit
  if digits.isEmpty then failAt .expectingValue start
  return digits

/-- Reads a number. -/
def readNumber : Reading Document := do
  let start := (← get).position
  let negative ← acceptWord "-"
  let whole ← readWhole start
  let fraction ← readFraction
  let exponent ← readExponent
  if fraction.isEmpty && exponent.isNone then
    if maxDigits < whole.length then throw (.integerTooLong whole.length)
    return .int (signed negative (Regex.ofDigits 10 whole))
  let digits := (whole ++ fraction).map fun c => c.toNat - 48
  return .float (.ofDecimal negative digits (exponent.getD 0 - fraction.length))

mutual

/-- Reads a value. -/
def readValue : (steps : Nat) → Reading Document
  | 0 => failHere .expectingValue
  | steps + 1 => do
    match (← get).rest with
    | '"' :: _ =>
      skip 1
      return .string (← readString)
    | '{' :: _ =>
      skip 1
      skipBlanks
      if ← acceptWord "\x7d" then return .object []
      return .object (mergeMembers (← readMembers steps))
    | '[' :: _ =>
      skip 1
      skipBlanks
      if ← acceptWord "]" then return .array []
      return .array (← readItems steps)
    | _ =>
      if ← acceptWord "null" then return .null
      if ← acceptWord "true" then return .bool true
      if ← acceptWord "false" then return .bool false
      if ← acceptWord "NaN" then return .float .nan
      if ← acceptWord "Infinity" then return .float (.infinite false)
      if ← acceptWord "-Infinity" then return .float (.infinite true)
      readNumber

/-- Reads the members of an object, up to its closing brace. -/
def readMembers : (steps : Nat) → Reading Members
  | 0 => failHere .expectingName
  | steps + 1 => do
    if !(← acceptWord "\"") then failHere .expectingName
    let name ← readString
    skipBlanks
    if !(← acceptWord ":") then failHere .expectingColon
    skipBlanks
    let value ← readValue steps
    skipBlanks
    if ← acceptWord "\x7d" then return [(name, value)]
    if !(← acceptWord ",") then failHere .expectingComma
    skipBlanks
    return (name, value) :: (← readMembers steps)

/-- Reads the items of an array, up to its closing bracket. -/
def readItems : (steps : Nat) → Reading (List Document)
  | 0 => failHere .expectingValue
  | steps + 1 => do
    let item ← readValue steps
    skipBlanks
    if ← acceptWord "]" then return [item]
    if !(← acceptWord ",") then failHere .expectingComma
    skipBlanks
    return item :: (← readItems steps)

end

/-- The value of a text. -/
def parse (text : List Char) : Except Error Document := do
  if text.head? = some (Char.ofNat 0xFEFF) then throw (.malformed .byteOrderMark 0)
  let reading : Reading Document := do
    skipBlanks
    let value ← readValue (2 * text.length + 2)
    skipBlanks
    if !(← get).rest.isEmpty then failHere .extraData
    return value
  (reading.run ⟨text, 0⟩).map (·.1)

end ElementQuery.Json
