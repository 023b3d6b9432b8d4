import ElementQuery.Regex.Cursor

/-!
# Replacement templates

What a match is replaced by. A template is text in which backslash sequences stand for control
characters, for characters by their octal code, or for what a group has matched.

## Main definitions

* `Template` : pieces of text and group references.
* `Template.parse` : reads a template for an expression without groups of its own.
* `Template.expand` : the text that replaces a match.
-/

namespace ElementQuery.Regex

open ElementQuery.Text

/-- A piece of a template. -/
inductive TemplatePiece where
  | char (c : Char)
  | wholeMatch
  deriving DecidableEq, Repr

/-- A replacement template for an expression without groups: only the whole match can be referred
to. -/
abbrev Template := List TemplatePiece

namespace Template

/-- Refers to a group, whose number ended `back` characters before the next token. Only the whole
match is there. -/
def reference (number back : Nat) : Reading TemplatePiece := do
  if number = 0 then return .wholeMatch
  failBack (.invalidGroupReference number) back

/-- Reads a reference by name or number behind its letter. -/
def readReference : Reading TemplatePiece := do
  if !(← accept '<') then failBack (.missing "<") 0
  let name ← readName '>' "group name"
  let text := String.ofList name
  if isIdentifier name then throw (.noSuchGroup text)
  match Number.readInt? text with
  | none => failBack (.badGroupName text) (name.length + 1)
  | some number =>
    if number < 0 then failBack (.badGroupName text) (name.length + 1)
    reference number.toNat (name.length + 1)

/-- Reads the rest of a sequence that starts with a digit other than zero: three octal digits are
a character, anything else is a group number. -/
def readDigits (first : Char) : Reading TemplatePiece := do
  let second ← takeTokens (isOne isAsciiDigit) 1
  let third ← if isOctalDigit first && !second.isEmpty && second.all isOctalDigit
    then takeTokens (isOne isOctalDigit) 1 else pure []
  let digits := first :: second ++ third
  if third.isEmpty then reference (ofDigits 10 digits) digits.length
  else
    let code := ofDigits 8 digits
    if 0o377 < code then
      failBack (.octalTooLarge (String.ofList ('\\' :: digits))) (digits.length + 1)
    return .char (Char.ofNat code)

/-- Reads the rest of a backslash sequence. A backslash before a character that is no letter and
no digit stands for itself. -/
def readEscape (c : Char) : Reading Template := do
  if c = 'g' then return [← readReference]
  if c = '0' then
    let digits ← takeTokens (isOne isOctalDigit) 2
    return [.char (Char.ofNat (ofDigits 8 digits))]
  if isAsciiDigit c then return [← readDigits c]
  if c = 'b' then return [.char (Char.ofNat 8)]
  if let some code := controlEscape? c then return [.char (Char.ofNat code)]
  if isAsciiLetter c then failBack (.badEscape (String.ofList ['\\', c])) 2
  return [.char '\\', .char c]

/-- Reads a template up to its end. -/
def readPieces : (steps : Nat) → Reading Template
  | 0 => pure []
  | steps + 1 => do
    match ← take with
    | [] => return []
    | ['\\', c] => return (← readEscape c) ++ (← readPieces steps)
    | token => return token.map .char ++ (← readPieces steps)

/-- The template that a text spells. -/
def parse (text : String) : Except Error Template := do
  let start : Cursor := ⟨text, text.toList, 0, .none, [none], [], none, [], fun _ => none⟩
  let reading : Reading Template := do
    checkToken
    readPieces (text.length + 1)
  (reading.run start).map (·.1)

/-- The text that replaces a match. -/
def expand (matched : List Char) (template : Template) : List Char :=
  template.flatMap fun
    | .char c => [c]
    | .wholeMatch => matched

end Template

end ElementQuery.Regex
