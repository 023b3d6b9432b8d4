import ElementQuery.Regex.Matcher
import ElementQuery.Regex.Reader
import ElementQuery.Text.CharacterName

/-!
# Regular expressions

A regular expression is its source with the flags that it has in the end, those set inside it
included. Two of them are equal when source and flags are.

## Main definitions

* `Regex` : a regular expression that has been read.
* `Regex.Engine` : how they are read.
* `Regex.compile` : reads one.
* `Regex.occursIn` : whether it matches somewhere in a text.

## Design notes

Reading depends on more than the text: an escape may ask for a character by its name, and groups can
be in so many others that an engine gives up. So the engine is an argument of all that is read by
it. The standard one knows the names of the printable characters of ASCII and never gives up.
-/

namespace ElementQuery

/-- A regular expression that has been read. -/
structure Regex where
  /-- The text that it was read from. -/
  source : String
  /-- Its flags, those set inside of it included. -/
  flags : Regex.Flags
  node : Regex.Node

namespace Regex

/-- How regular expressions are read. -/
class Engine where
  /-- The tree and the final flags of a source that is read under flags. -/
  read (flags : Flags) (source : String) : Except Error (Node × Flags)

/-- Reads a source that asks for characters by these names, and refuses what cannot be matched. -/
def readNaming (characterNamed : String → Option Nat) (flags : Flags) (source : String) :
    Except Error (Node × Flags) := do
  let (node, flags, widths) ← readExpression characterNamed flags source
  match node.fault? flags.template widths with
  | some fault => throw (.malformed source (.unmatchable fault) none)
  | none => return (node, flags)

/-- The engine that knows the names of the printable characters of ASCII. -/
instance Engine.standard : Engine := ⟨readNaming Text.asciiCharacter?⟩

/-- Reads a regular expression under the given flags. -/
def compile [Engine] (flags : Flags) (source : String) : Except Error Regex := do
  let (node, flags) ← Engine.read flags source
  return ⟨source, flags, node⟩

/-- Equality of source and of the flags that change what is matched or how it is read. -/
def same (a b : Regex) : Bool :=
  a.source == b.source && a.flags.letters == b.flags.letters
    && a.flags.template == b.flags.template

/-- Whether a regular expression matches somewhere in a text. -/
def occursIn (r : Regex) (text : String) : Bool :=
  (search? r.node r.flags text.toList).isSome

end Regex

end ElementQuery
