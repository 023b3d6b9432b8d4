import ElementQuery.Number.Numeral
import ElementQuery.Regex.Node
import ElementQuery.Text.Quoted

/-!
# Faults of a regular expression

Why a text is not a regular expression or not a replacement template, where that shows, and the
wording of each fault.

## Main definitions

* `Problem` : what is wrong.
* `Error` : a problem at a place of the text, or a limit that the expression exceeds.
* `Error.message` : the wording, with the position, and with line and column for a text of
  several lines.
-/

namespace ElementQuery.Regex

open ElementQuery.Text

/-- What is wrong with a regular expression or a template. -/
inductive Problem where
  | trailingBackslash
  | badEscape (written : String)
  | incompleteEscape (written : String)
  | octalTooLarge (written : String)
  | missing (what : String)
  | unterminatedName (terminator : String)
  | unknownCharacterName (name : String)
  | openGroup
  | groupOfSameLookbehind
  | invalidGroupReference (number : Nat)
  | badGroupName (name : String)
  | unknownGroupName (name : String)
  | badGroupNumber
  | redefinedGroup (name : String) (number previous : Nat)
  | unterminatedSet
  | badRange (first last : String)
  | leastAboveMost
  | nothingToRepeat
  | multipleRepeat
  | unexpectedEnd
  | unknownExtension (written : String)
  | unterminatedComment
  | unterminatedGroup
  | unbalancedParenthesis
  | tooManyBranches
  | globalFlagsNotFirst
  | localeFlag
  | incompatibleFlags
  | unknownFlag
  | scopedGlobalFlag (turnedOn : Bool)
  | classFlagTurnedOff
  | flagOnAndOff
  | unmatchable (fault : Node.Fault)
  deriving DecidableEq, Repr

/-- The name of the repetition that chooses its number of rounds in this way. -/
def Greed.name : Greed → String
  | greedy => "MAX_REPEAT"
  | lazy => "MIN_REPEAT"
  | possessive => "POSSESSIVE_REPEAT"

/-- The wording of the fault of a tree. -/
def Node.Fault.message : Node.Fault → String
  | lookbehindTooWide => "looks too much behind"
  | lookbehindNotFixed => "look-behind requires fixed-width pattern"
  | roundsInTemplate greed => "internal: unsupported template operator " ++ greed.name

/-- The wording of a problem, without its place. -/
def Problem.message : Problem → String
  | trailingBackslash => "bad escape (end of pattern)"
  | badEscape written => "bad escape " ++ written
  | incompleteEscape written => "incomplete escape " ++ written
  | octalTooLarge written => "octal escape value " ++ written ++ " outside of range 0-0o377"
  | missing what => "missing " ++ what
  | unterminatedName terminator => "missing " ++ terminator ++ ", unterminated name"
  | unknownCharacterName name => "undefined character name " ++ quoted name
  | openGroup => "cannot refer to an open group"
  | groupOfSameLookbehind => "cannot refer to group defined in the same lookbehind subpattern"
  | invalidGroupReference number => "invalid group reference " ++ toString number
  | badGroupName name => "bad character in group name " ++ quoted name
  | unknownGroupName name => "unknown group name " ++ quoted name
  | badGroupNumber => "bad group number"
  | redefinedGroup name number previous =>
    "redefinition of group name " ++ quoted name ++ " as group " ++ toString number
      ++ "; was group " ++ toString previous
  | unterminatedSet => "unterminated character set"
  | badRange first last => "bad character range " ++ first ++ "-" ++ last
  | leastAboveMost => "min repeat greater than max repeat"
  | nothingToRepeat => "nothing to repeat"
  | multipleRepeat => "multiple repeat"
  | unexpectedEnd => "unexpected end of pattern"
  | unknownExtension written => "unknown extension " ++ written
  | unterminatedComment => "missing ), unterminated comment"
  | unterminatedGroup => "missing ), unterminated subpattern"
  | unbalancedParenthesis => "unbalanced parenthesis"
  | tooManyBranches => "conditional backref with more than two branches"
  | globalFlagsNotFirst => "global flags not at the start of the expression"
  | localeFlag => "bad inline flags: cannot use 'L' flag with a str pattern"
  | incompatibleFlags => "bad inline flags: flags 'a', 'u' and 'L' are incompatible"
  | unknownFlag => "unknown flag"
  | scopedGlobalFlag true => "bad inline flags: cannot turn on global flag"
  | scopedGlobalFlag false => "bad inline flags: cannot turn off global flag"
  | classFlagTurnedOff => "bad inline flags: cannot turn off flags 'a', 'u' and 'L'"
  | flagOnAndOff => "bad inline flags: flag turned on and off"
  | unmatchable fault => fault.message

/-- Why a text cannot be used as a regular expression or as a template. -/
inductive Error where
  /-- The text is malformed, at a place if there is one to name. -/
  | malformed (source : String) (problem : Problem) (position : Option Nat)
  /-- A template names a group that does not exist. -/
  | noSuchGroup (name : String)
  /-- ASCII classes and Unicode classes were both asked for. -/
  | asciiAndUnicode
  /-- A count of rounds is out of range. -/
  | repetitionTooLarge
  /-- A count of rounds has too many digits. -/
  | repetitionTooLong (digits : Nat)
  /-- The engine gives up for a reason of its own, such as groups in too many others. -/
  | beyondEngine (complaint : String)
  deriving DecidableEq, Repr

/-- A position in words; a text of several lines also has a line and a column. -/
def positionText (source : List Char) (position : Nat) : String :=
  let ahead := source.take position
  let place := " at position " ++ toString position
  if source.contains '\n' then
    place ++ " (line " ++ toString (ahead.count '\n' + 1)
      ++ ", column " ++ toString ((ahead.reverse.takeWhile (· != '\n')).length + 1) ++ ")"
  else place

/-- The complaint about a numeral of too many digits. -/
def tooManyDigits (digits : Nat) : String :=
  "Exceeds the limit (" ++ toString Number.maxDigits
    ++ " digits) for integer string conversion: value has " ++ toString digits
    ++ " digits; use sys.set_int_max_str_digits() to increase the limit"

/-- The wording of a fault. -/
def Error.message : Error → String
  | malformed source problem position =>
    problem.message ++ position.elim "" (positionText source.toList)
  | noSuchGroup name => "unknown group name " ++ quoted name
  | asciiAndUnicode => "ASCII and UNICODE flags are incompatible"
  | repetitionTooLarge => "the repetition number is too large"
  | repetitionTooLong digits => tooManyDigits digits
  | beyondEngine complaint => complaint

end ElementQuery.Regex
