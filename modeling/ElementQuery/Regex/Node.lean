import ElementQuery.Regex.Flags

/-!
# The structure of a regular expression

Regular expressions as trees. A sequence is kept as nested pairs, so that every function on trees
is a recursion on one type.

## Main definitions

* `Category`, `SetItem`, `Anchor` : the leaves' vocabulary.
* `Node` : a regular expression.
* `Width` : the least and the greatest length of what a tree matches.
* `Node.width` : the width of a tree.
* `Node.fault?` : why a tree cannot be matched.
-/

namespace ElementQuery.Regex

/-- A named class of characters. -/
inductive Category where
  | digit
  | space
  | word
  deriving DecidableEq, Repr

/-- A member of a character set. -/
inductive SetItem where
  | code (c : Nat)
  /-- The code points from `first` to `last`. -/
  | range (first last : Nat)
  | category (negated : Bool) (c : Category)
  deriving DecidableEq, Repr

/-- A condition on a place in the text. -/
inductive Anchor where
  /-- The start of the text, or of a line. -/
  | start
  /-- The end of the text or of its last line, or of a line. -/
  | finish
  | textStart
  | textEnd
  /-- Between a word character and another one. -/
  | boundary
  /-- Not between a word character and another one. -/
  | inside
  deriving DecidableEq, Repr

/-- How a repetition chooses its number of rounds. -/
inductive Greed where
  | greedy
  | lazy
  /-- As many as possible, never fewer. -/
  | possessive
  deriving DecidableEq, Repr

/-- A regular expression. -/
inductive Node where
  | empty
  | code (c : Nat)
  /-- Any character, line feeds only if asked for. -/
  | any
  /-- One character in a set, or outside of it. -/
  | set (negated : Bool) (items : List SetItem)
  | anchor (a : Anchor)
  | seq (first second : Node)
  /-- The first alternative, or else the second. -/
  | alt (first second : Node)
  /-- A group, numbered if it captures, with its changes of flags. -/
  | group (number : Option Nat) (added removed : Flags) (body : Node)
  /-- Rounds of the body, from `least` to `most`. -/
  | rounds (greed : Greed) (least : Nat) (most : Option Nat) (body : Node)
  | backreference (number : Nat)
  /-- A condition on what follows or precedes. -/
  | look (behind negated : Bool) (body : Node)
  /-- The first match of the body only. -/
  | atomic (body : Node)
  /-- One of two bodies, by whether a group has captured. -/
  | conditional (number : Nat) (yes no : Node)
  deriving Repr

namespace Node

/-- A list of trees, one after the other. -/
def ofList : List Node → Node
  | [] => empty
  | [node] => node
  | node :: rest => seq node (ofList rest)

/-- Whether the tree is a condition on the place. -/
def isAnchor : Node → Bool
  | anchor _ => true
  | _ => false

/-- Whether the tree is a repetition. -/
def isRounds : Node → Bool
  | rounds .. => true
  | _ => false

end Node

/-- The least and the greatest length of a match; no greatest one when it is unbounded. -/
structure Width where
  least : Nat
  /-- The greatest length, if there is one. -/
  most : Option Nat
  deriving DecidableEq, Repr

namespace Width

/-- Widths of one thing after the other. -/
def append (a b : Width) : Width :=
  ⟨a.least + b.least, do return (← a.most) + (← b.most)⟩

/-- Widths of one thing or the other. -/
def join (a b : Width) : Width :=
  ⟨min a.least b.least, do return max (← a.most) (← b.most)⟩

/-- The width of repeated rounds. -/
def rounds (a : Width) (least : Nat) (most : Option Nat) : Width :=
  ⟨a.least * least,
    if a.most = some 0 ∨ most = some 0 then some 0 else do return (← a.most) * (← most)⟩

end Width

namespace Node

/-- The width of what a tree matches, given the widths of the groups it refers to. -/
def width (groups : Nat → Width) : Node → Width
  | empty | anchor _ | look .. => ⟨0, some 0⟩
  | code _ | any | set .. => ⟨1, some 1⟩
  | seq a b => (a.width groups).append (b.width groups)
  | alt a b => (a.width groups).join (b.width groups)
  | group _ _ _ body | atomic body => body.width groups
  | rounds _ least most body => (body.width groups).rounds least most
  | backreference n => groups n
  | conditional _ yes no => (yes.width groups).join (no.width groups)

/-- The greatest length that can be looked back over. -/
def maxLookbehind : Nat := Nat.pow 2 32 - 1

/-- Why a tree cannot be matched. -/
inductive Fault where
  /-- The length to go back is out of range. -/
  | lookbehindTooWide
  /-- The length to go back is not fixed. -/
  | lookbehindNotFixed
  /-- Something is repeated in a template. -/
  | roundsInTemplate (greed : Greed)
  deriving DecidableEq, Repr

/-- The first fault among the parts of a tree that look backwards or, in a template, repeat. -/
def fault? (template : Bool) (groups : Nat → Width) : Node → Option Fault
  | look behind _ body =>
    let w := body.width groups
    if behind && maxLookbehind < w.least then some .lookbehindTooWide
    else if behind && w.most != some w.least then some .lookbehindNotFixed
    else body.fault? template groups
  | rounds greed _ _ body =>
    if template then some (.roundsInTemplate greed) else body.fault? template groups
  | seq a b | alt a b | conditional _ a b =>
    (a.fault? template groups).or (b.fault? template groups)
  | group _ _ _ body | atomic body => body.fault? template groups
  | _ => none

end Node

end ElementQuery.Regex
