/-!
# Flags of a regular expression

The switches that change what a regular expression matches or how it is read.

## Main definitions

* `Flags` : the switches, all off in `Flags.none`.
* `Flags.letters` : the switches that are on, by their letters in alphabetical order.
* `Flags.set?` : turns the switch of a letter on.
-/

namespace ElementQuery.Regex

/-- The switches of a regular expression. -/
structure Flags where
  /-- Digits, blanks and words are those of ASCII. -/
  ascii : Bool
  ignoreCase : Bool
  /-- `^` and `$` also match at line ends. -/
  multiline : Bool
  /-- A dot also matches a line feed. -/
  dotAll : Bool
  /-- Blanks and comments in the expression are skipped. -/
  verbose : Bool
  unicode : Bool
  /-- The expression is marked as a template, in which nothing may be repeated. -/
  template : Bool
  deriving DecidableEq, Repr

namespace Flags

/-- No switch is on. -/
def none : Flags := ⟨false, false, false, false, false, false, false⟩

/-- Turns the switch of a letter on; `none` for a letter without a switch. -/
def set? (flags : Flags) : Char → Option Flags
  | 'a' => some { flags with ascii := true }
  | 'i' => some { flags with ignoreCase := true }
  | 'm' => some { flags with multiline := true }
  | 's' => some { flags with dotAll := true }
  | 'x' => some { flags with verbose := true }
  | 'u' => some { flags with unicode := true }
  | 't' => some { flags with template := true }
  | _ => Option.none

/-- The switches of a text of letters, letters without a switch left out. -/
def ofLetters (letters : String) : Flags :=
  letters.toList.foldl (fun flags c => (flags.set? c).getD flags) none

/-- Switches that are on in either. -/
def union (a b : Flags) : Flags where
  ascii := a.ascii || b.ascii
  ignoreCase := a.ignoreCase || b.ignoreCase
  multiline := a.multiline || b.multiline
  dotAll := a.dotAll || b.dotAll
  verbose := a.verbose || b.verbose
  unicode := a.unicode || b.unicode
  template := a.template || b.template

/-- Switches that are on in the first and off in the second. -/
def without (a b : Flags) : Flags where
  ascii := a.ascii && !b.ascii
  ignoreCase := a.ignoreCase && !b.ignoreCase
  multiline := a.multiline && !b.multiline
  dotAll := a.dotAll && !b.dotAll
  verbose := a.verbose && !b.verbose
  unicode := a.unicode && !b.unicode
  template := a.template && !b.template

/-- Whether the two have a switch in common. -/
def meets (a b : Flags) : Bool := a.without b != a

/-- The switches inside a group that turns `added` on and `removed` off. Asking for ASCII or for
Unicode classes overrides the choice outside. -/
def changed (flags added removed : Flags) : Flags :=
  let kept := if added.ascii || added.unicode
    then { flags with ascii := false, unicode := false } else flags
  (kept.union added).without removed

/-- The letters of the switches that are on, in alphabetical order. -/
def letters (flags : Flags) : String :=
  String.ofList <| [(flags.ascii, 'a'), (flags.ignoreCase, 'i'), (flags.multiline, 'm'),
    (flags.dotAll, 's'), (flags.verbose, 'x')].filterMap fun (on, letter) =>
      if on then some letter else Option.none

@[simp] theorem letters_none : none.letters = "" := rfl

end Flags

end ElementQuery.Regex
