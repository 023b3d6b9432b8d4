import ElementQuery.Regex.Error
import ElementQuery.Text.DecimalDigit
import ElementQuery.Text.Identifier

/-!
# Reading tokens of a regular expression

An expression is read token by token, where a token is one character, or a backslash and the
character behind it. The reader always looks one token ahead, so a backslash at the very end is
noticed as soon as it comes next.

## Main definitions

* `Cursor` : the unread rest with its position, and what is known about groups and flags.
* `Reading` : a computation that moves the cursor or fails.
* `Cursor.token`, `advance`, `take`, `accept` : one token.
* `takeTokens`, `readName` : runs of tokens.
* `readEscape`, `readSetEscape` : a backslash sequence, in an expression or in a set.
-/

namespace ElementQuery.Regex

open ElementQuery.Text

/-- Where the reading of an expression stands. -/
structure Cursor where
  source : String
  rest : List Char
  position : Nat
  flags : Flags
  /-- Widths of the groups so far, `none` for an open group; entry 0 is the whole expression. -/
  widths : List (Option Width)
  names : List (String × Nat)
  /-- How many groups there were when the outermost looking back began. -/
  lookbehindGroups : Option Nat
  /-- Groups that conditions refer to by number, with the places of the references. -/
  conditions : List (Nat × Nat)
  /-- The character that a name stands for in an escape. -/
  characterNamed : String → Option Nat

/-- A computation on a cursor that may fail. -/
abbrev Reading := StateT Cursor (Except Error)

/-- The next token, empty at the end. -/
def Cursor.token (c : Cursor) : List Char :=
  match c.rest with
  | '\\' :: next :: _ => ['\\', next]
  | next :: _ => [next]
  | [] => []

/-- Fails with a problem at a position. -/
def failAt {α : Type} (problem : Problem) (position : Nat) : Reading α := do
  throw (.malformed (← get).source problem (some position))

/-- Fails with a problem `back` characters before the next token. -/
def failBack {α : Type} (problem : Problem) (back : Nat) : Reading α := do
  failAt problem ((← get).position - back)

/-- Refuses a single backslash at the end. -/
def checkToken : Reading Unit := do
  if (← get).rest = ['\\'] then failBack .trailingBackslash 0

/-- Moves behind the next token. -/
def advance : Reading Unit := do
  let size := (← get).token.length
  modify fun c => { c with rest := c.rest.drop size, position := c.position + size }
  checkToken

/-- Reads the next token; it is empty at the end. -/
def take : Reading (List Char) := do
  let token := (← get).token
  advance
  return token

/-- Reads the next token if it is the given character. -/
def accept (c : Char) : Reading Bool := do
  if (← get).token = [c] then
    advance
    return true
  else return false

/-- Reads tokens while they satisfy `keep`, at most `limit` of them. -/
def takeTokens (keep : List Char → Bool) : (limit : Nat) → Reading (List Char)
  | 0 => pure []
  | limit + 1 => do
    let token := (← get).token
    if token.isEmpty || !keep token then return []
    advance
    return token ++ (← takeTokens keep limit)

/-- Reads tokens while they satisfy `keep`. -/
def takeWhile (keep : List Char → Bool) : Reading (List Char) := do
  takeTokens keep (← get).rest.length

/-- Whether a token is one character of a class. -/
def isOne (p : Char → Bool) : List Char → Bool
  | [c] => p c
  | _ => false

/-- The octal digits. -/
def isOctalDigit (c : Char) : Bool := '0' ≤ c && c ≤ '7'

/-- The hexadecimal digits. -/
def isHexDigit (c : Char) : Bool :=
  isAsciiDigit c || ('a' ≤ c && c ≤ 'f') || ('A' ≤ c && c ≤ 'F')

/-- The value of a hexadecimal digit. -/
def hexValue (c : Char) : Nat :=
  if isAsciiDigit c then c.toNat - 48 else if 'a' ≤ c then c.toNat - 87 else c.toNat - 55

/-- The number that digits of a base spell. -/
def ofDigits (base : Nat) (cs : List Char) : Nat :=
  cs.foldl (fun n c => base * n + hexValue c) 0

/-- Reads a name up to a closing character and reads over that. -/
def readName (terminator : Char) (what : String) : Reading (List Char) := do
  let name ← takeWhile (· != [terminator])
  if (← get).token.isEmpty then
    if name.isEmpty then failBack (.missing what) 0
    else failBack (.unterminatedName (String.singleton terminator)) name.length
  else
    advance
    if name.isEmpty then failBack (.missing what) 1 else return name

/-- The control characters that have an escape of their own. -/
def controlEscape? : Char → Option Nat
  | 'a' => some 7
  | 'f' => some 12
  | 'n' => some 10
  | 'r' => some 13
  | 't' => some 9
  | 'v' => some 11
  | '\\' => some 92
  | _ => none

/-- The classes that have an escape of their own. -/
def categoryEscape? : Char → Option SetItem
  | 'd' => some (.category false .digit)
  | 'D' => some (.category true .digit)
  | 's' => some (.category false .space)
  | 'S' => some (.category true .space)
  | 'w' => some (.category false .word)
  | 'W' => some (.category true .word)
  | _ => none

/-- The conditions that have an escape of their own. -/
def anchorEscape? : Char → Option Anchor
  | 'A' => some .textStart
  | 'Z' => some .textEnd
  | 'b' => some .boundary
  | 'B' => some .inside
  | _ => none

/-- How many hexadecimal digits follow the letter of an escape. -/
def hexWidth? : Char → Option Nat
  | 'x' => some 2
  | 'u' => some 4
  | 'U' => some 8
  | _ => none

/-- Reads the digits of the hexadecimal escape with the given letter. -/
def readHexEscape (letter : Char) (width : Nat) : Reading Nat := do
  let digits ← takeTokens (isOne isHexDigit) width
  let written := '\\' :: letter :: digits
  if digits.length < width then
    failBack (.incompleteEscape (String.ofList written)) written.length
  let code := ofDigits 16 digits
  if 0x10FFFF < code then failBack (.badEscape (String.ofList written)) written.length
  return code

/-- Reads the name of a character between braces. -/
def readNamedEscape : Reading Nat := do
  if !(← accept '{') then failBack (.missing "\x7b") 0
  let name := String.ofList (← readName '}' "character name")
  let some code := (← get).characterNamed name
    | failBack (.unknownCharacterName name) (name.length + 4)
  return code

/-- Reads up to two more octal digits behind the given one. -/
def readOctalEscape (first : Char) : Reading Nat := do
  let digits := first :: (← takeTokens (isOne isOctalDigit) 2)
  let code := ofDigits 8 digits
  if 0o377 < code then
    failBack (.octalTooLarge (String.ofList ('\\' :: digits))) (digits.length + 1)
  return code

/-- A backslash before a character without a meaning of its own: letters are refused. -/
def plainEscape (c : Char) : Reading Nat := do
  if isAsciiLetter c || isAsciiDigit c then
    failBack (.badEscape (String.ofList ['\\', c])) 2
  return c.toNat

/-- Refuses a reference to a group that is still open, or that belongs to the same looking
back. -/
def checkLookbehindGroup (number : Nat) : Reading Unit := do
  let c ← get
  match c.lookbehindGroups with
  | none => return
  | some groups =>
    if c.widths[number]?.join.isNone then failBack .openGroup 0
    if groups ≤ number then failBack .groupOfSameLookbehind 0

/-- Reads the rest of an escape that starts with a digit other than zero: three octal digits are
a character, anything else refers to a group. -/
def readDigitEscape (first : Char) : Reading Node := do
  let second ← takeTokens (isOne isAsciiDigit) 1
  let third ← if isOctalDigit first && !second.isEmpty && second.all isOctalDigit
    then takeTokens (isOne isOctalDigit) 1 else pure []
  let digits := first :: second ++ third
  if !third.isEmpty then
    let code := ofDigits 8 digits
    if 0o377 < code then
      failBack (.octalTooLarge (String.ofList ('\\' :: digits))) (digits.length + 1)
    return .code code
  let number := ofDigits 10 digits
  let c ← get
  if number < c.widths.length then
    if c.widths[number]?.join.isNone then failBack .openGroup (digits.length + 1)
    checkLookbehindGroup number
    return .backreference number
  else failBack (.invalidGroupReference number) digits.length

/-- Reads the rest of a backslash sequence outside of a set. -/
def readEscape (c : Char) : Reading Node := do
  if let some anchor := anchorEscape? c then return .anchor anchor
  if let some item := categoryEscape? c then return .set false [item]
  if let some code := controlEscape? c then return .code code
  if let some width := hexWidth? c then return .code (← readHexEscape c width)
  if c = 'N' then return .code (← readNamedEscape)
  if c = '0' then return .code (ofDigits 8 (← takeTokens (isOne isOctalDigit) 2))
  if isAsciiDigit c then readDigitEscape c
  else return .code (← plainEscape c)

/-- Reads the rest of a backslash sequence inside a set. -/
def readSetEscape (c : Char) : Reading SetItem := do
  if c = 'b' then return .code 8
  if let some code := controlEscape? c then return .code code
  if let some item := categoryEscape? c then return item
  if let some width := hexWidth? c then return .code (← readHexEscape c width)
  if c = 'N' then return .code (← readNamedEscape)
  if isOctalDigit c then return .code (← readOctalEscape c)
  return .code (← plainEscape c)

end ElementQuery.Regex
