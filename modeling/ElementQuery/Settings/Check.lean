import ElementQuery.Json.Basic
import ElementQuery.Settings.Basic
import ElementQuery.Settings.Offence

/-!
# Settings from JSON

The settings that a JSON object describes. Sections and keys may be left out. Names are taken in
any letter case and between blanks; a whole number may also be given as a truth value, as a whole
floating point number or as a numeral.

## Main definitions

* `Settings.checkWhole` : a whole number.
* `Settings.cleanNumeral?` : the plain numeral behind the spellings that are let through.
* `Settings.checkObject` : an object with known keys.
* `FormatterSettings.check`, `Settings.check` : a section, and all settings.
-/

namespace ElementQuery

open ElementQuery.Text ElementQuery.Number

namespace Settings

/-- A text, with the replacement character for what is no character. -/
def checkText : Json.Document → Checked String
  | .string s => .valid s.plain
  | _ => .offend .notText

/-- The name of something that is looked up by it, after the name has been brought into form. -/
def checkName {α : Type} (form : String → String) (find? : String → Option α)
    (refuse : String → Offence.Cause) (j : Json.Document) : Checked α :=
  (checkText j).andThen fun s =>
    match find? (form s) with
    | some a => .valid a
    | none => .offend (refuse (form s))

/-- The name of a scope. -/
def checkScope : Json.Document → Checked Scope :=
  checkName (fun s => lower (trim s)) Scope.ofName? .unknownScope

/-- The name of a selector language. -/
def checkLanguage : Json.Document → Checked Language :=
  checkName (fun s => lower (trim s)) Language.ofName? .unknownLanguage

/-- The name of a log level. -/
def checkLevel : Json.Document → Checked Log.Level :=
  checkName (fun s => upper (trim s)) Log.Level.ofName? .unknownLevel

/-- Drops a plus, unless a minus follows it. -/
def dropPlus? : List Char → Option (List Char)
  | '+' :: '-' :: _ => none
  | '+' :: rest => some rest
  | cs => some cs

/-- Whether a character is dropped behind the zero that a numeral starts with. -/
def isFiller (c : Char) : Bool := c == '0' || c == '_'

/-- Drops the zeros that a numeral starts with, and the underscores among them; the last zero
stays before a point and at the end. -/
def dropZeros? : List Char → Option (List Char)
  | '0' :: c :: rest =>
    match (c :: rest).dropWhile isFiller with
    | [] => (c :: rest).getLast?.map ([·])
    | '.' :: fraction =>
      some ((('0' :: c :: rest).takeWhile isFiller).getLast?.toList ++ '.' :: fraction)
    | d :: digits => if isAsciiDigit d then some (d :: digits) else none
  | cs =>
    match cs with
    | c :: _ => if isAsciiDigit c || c == '-' then some cs else none
    | [] => none

/-- Drops a point behind which there are only zeros. -/
def dropFraction (cs : List Char) : List Char :=
  if ((cs.dropWhile (· != '.')).drop 1).all (· == '0') then cs.takeWhile (· != '.') else cs

/-- Whether every underscore stands alone between two other characters. -/
def hasSingleUnderscores : List Char → Bool
  | [] | ['_'] => false
  | [_] => true
  | '_' :: '_' :: _ => false
  | _ :: rest => hasSingleUnderscores rest

/-- Drops underscores, if each of them stands between two other characters. -/
def dropUnderscores (cs : List Char) : List Char :=
  if cs.head? != some '_' && hasSingleUnderscores cs then cs.filter (· != '_') else cs

/-- The plain numeral behind the spellings that are let through: white space around it, a plus
before it, leading zeros, underscores between digits and a fraction of zeros. -/
def cleanNumeral? (s : String) : Option (List Char) := do
  let cs ← dropPlus? (trimBoth isSpace s.toList)
  let cs ← dropZeros? cs
  return dropUnderscores (dropFraction cs)

/-- The number that a plain numeral spells: an optional minus and ASCII digits that start with a
zero only if there is no other. A sign counts as a digit against the limit. -/
def checkPlainNumeral (cs : List Char) : Checked Int :=
  let (negative, body) := match cs with
    | '-' :: rest => (true, rest)
    | cs => (false, cs)
  let digits := body.takeWhile isAsciiDigit
  let size := digits.length + if negative then 1 else 0
  let isPlain := !digits.isEmpty && (digits.head? != some '0' || digits.length == 1)
  if digits.head? != some '0' && maxDigits < size then .offend .tooLarge
  else if isPlain && digits.length == body.length then
    .valid (signed negative (ofDigitList (digits.map fun c => c.toNat - '0'.toNat)))
  else .offend .notANumeral

/-- The greatest magnitude below which a floating point number is taken for a whole number. -/
def wholeBound : Int := Nat.pow 2 63

/-- A floating point number that is whole. -/
def checkWholeFloat (x : Binary64) : Checked Int :=
  if !x.isFinite then .offend .notFinite
  else
    match x.toInt? with
    | none => .offend .hasFraction
    | some n => if -wholeBound < n ∧ n < wholeBound then .valid n else .offend .tooLarge

/-- A whole number, in any form in which it may be given. -/
def checkWhole : Json.Document → Checked Int
  | .int n => .valid n
  | .bool b => .valid (if b then 1 else 0)
  | .float x => checkWholeFloat x
  | .string s =>
    match cleanNumeral? s.plain with
    | none => .offend .notANumeral
    | some cs => checkPlainNumeral cs
  | _ => .offend .notWhole

/-- A whole number that is not below the least one. -/
def checkAtLeast (least : Int) (j : Json.Document) : Checked Int :=
  (checkWhole j).andThen fun n => if n < least then .offend (.below least) else .valid n

/-- What lies under a key, or the default if nothing does. -/
def checkField {α : Type} (members : Json.Members) (key : Json.Text) (default : α)
    (check : Json.Document → Checked α) : Checked α :=
  match members.lookup key with
  | none => .valid default
  | some j => (check j).under key

/-- Refuses all keys but the known ones. -/
def checkKeys (known : List Json.Text) (members : Json.Members) : Checked Unit :=
  match members.filter fun m => !known.contains m.1 with
  | [] => .valid ()
  | others => .invalid (others.map fun m => ⟨[m.1], .unknownKey⟩)

/-- An object with known keys. What is wrong under these comes before the unknown keys. -/
def checkObject {α : Type} (known : List Json.Text) (fields : Json.Members → Checked α)
    (members : Json.Members) : Checked α :=
  (fun a _ => a) <$> fields members <*> checkKeys known members

/-- A section, whose form has a name. -/
def checkSection {α : Type} (form : String) (check : Json.Members → Checked α) :
    Json.Document → Checked α
  | .object members => check members
  | _ => .offend (.notASection form)

end Settings

open Settings

/-- The section on how selectors are written. -/
def CompilerSettings.check : Json.Members → Checked CompilerSettings :=
  checkObject ["default_scope", "default_language"] fun members =>
    let defaults : CompilerSettings := {}
    CompilerSettings.mk
      <$> checkField members "default_scope" defaults.defaultScope checkScope
      <*> checkField members "default_language" defaults.defaultLanguage checkLanguage

/-- The section on how texts are shown in reports. -/
def FormatterSettings.check : Json.Members → Checked FormatterSettings :=
  checkObject ["truncate_length", "ellipsis", "line_break_replacement"] fun members =>
    let defaults : FormatterSettings := {}
    FormatterSettings.mk
      <$> checkField members "truncate_length" defaults.truncateLength (checkAtLeast 1)
      <*> checkField members "ellipsis" defaults.ellipsis checkText
      <*> checkField members "line_break_replacement" defaults.lineBreakReplacement checkText

/-- The section on which log records are written. -/
def LoggingSettings.check : Json.Members → Checked LoggingSettings :=
  checkObject ["level"] fun members =>
    let defaults : LoggingSettings := {}
    LoggingSettings.mk <$> checkField members "level" defaults.level checkLevel

/-- All settings. -/
def Settings.check : Json.Members → Checked Settings :=
  checkObject ["compiler", "formatter", "logging"] fun members =>
    let defaults : Settings := {}
    Settings.mk
      <$> checkField members "compiler" defaults.compiler
        (checkSection "CompilerConfig" CompilerSettings.check)
      <*> checkField members "formatter" defaults.formatter
        (checkSection "FormatterConfig" FormatterSettings.check)
      <*> checkField members "logging" defaults.logging
        (checkSection "LoggingConfig" LoggingSettings.check)

end ElementQuery
