import ElementQuery.Regex.Node
import ElementQuery.Text.Blank
import ElementQuery.Text.Case
import ElementQuery.Text.DecimalDigit
import ElementQuery.Text.Word

/-!
# Matching regular expressions

A tree is matched at a place of a text by trying its ways in order: the first one after which the
rest of the expression matches as well wins. What follows a tree is passed along as a function, so
matching is a recursion on the tree.

## Main definitions

* `Spot` : a place of a text with what groups have captured on the way.
* `Node.run` : a tree at a spot, followed by a continuation.
* `search?` : the first spot at which a tree matches.
-/

namespace ElementQuery.Regex

open ElementQuery.Text

/-- The small form of an ASCII code point. -/
def asciiLower (code : Nat) : Nat := if 0x41 ≤ code ∧ code ≤ 0x5A then code + 32 else code

/-- Whether a character belongs to a named class. -/
def Category.holds (flags : Flags) (c : Char) : Category → Bool
  | .digit => if flags.ascii then isAsciiDigit c else isDecimalDigit c
  | .space => if flags.ascii then 9 ≤ c.toNat && c.toNat ≤ 13 || c == ' ' else isBlank c
  | .word => if flags.ascii then isAsciiWord c else isWord c

/-- Whether two code points are equal, letter case aside where the flags say so. -/
def sameCode (flags : Flags) (expected actual : Nat) : Bool :=
  if !flags.ignoreCase then expected == actual
  else if flags.ascii then asciiLower expected == asciiLower actual
  else
    let expected := lowerCode expected
    let actual := lowerCode actual
    expected == actual || (companions expected).contains actual

/-- Whether a code point lies in a range, letter case aside where the flags say so. -/
def inRange (flags : Flags) (first last code : Nat) : Bool :=
  let within (n : Nat) : Bool := first ≤ n && n ≤ last
  if !flags.ignoreCase then within code
  else if flags.ascii then
    let code := asciiLower code
    within code || (0x61 ≤ code && code ≤ 0x7A && within (code - 32))
  else
    let code := lowerCode code
    (code :: companions code).any fun n => (codesLoweredTo n).any within

/-- Whether a character is a member of a set. -/
def SetItem.holds (flags : Flags) (c : Char) : SetItem → Bool
  | .code n => sameCode flags n c.toNat
  | .range first last => inRange flags first last c.toNat
  | .category negated k => k.holds flags c != negated

/-- A place of a text, with what groups have captured on the way to it. -/
structure Spot where
  /-- The characters before the place, the nearest one first. -/
  before : List Char
  after : List Char
  /-- What groups have captured, the latest first. -/
  captures : List (Nat × List Char)

namespace Spot

/-- The first place of a text. -/
def start (text : List Char) : Spot := ⟨[], text, []⟩

/-- How many characters are before the place. -/
def position (s : Spot) : Nat := s.before.length

/-- One character further, if that character satisfies `p`. -/
def step? (p : Char → Bool) (s : Spot) : Option Spot :=
  match s.after with
  | c :: after => if p c then some { s with before := c :: s.before, after := after } else none
  | [] => none

/-- Past a given text, each of its characters being matched by `same`. -/
def skip? (same : Char → Char → Bool) : List Char → Spot → Option Spot
  | [], s => some s
  | c :: rest, s => (s.step? (same c)).bind (skip? same rest)

/-- Back by a number of characters, if there are so many. -/
def back? (n : Nat) (s : Spot) : Option Spot :=
  if n ≤ s.before.length then
    some { s with before := s.before.drop n, after := (s.before.take n).reverse ++ s.after }
  else none

/-- Records as captured what lies between an earlier spot and this one. -/
def capture (s : Spot) (number : Nat) (earlier : Spot) : Spot :=
  { s with
    captures := (number, (s.before.take (s.position - earlier.position)).reverse) :: s.captures }

/-- Whether the place separates a word character from another one. -/
def isBoundary (flags : Flags) (s : Spot) : Bool :=
  let word (cs : List Char) : Bool := (cs.head?.map fun c => Category.word.holds flags c).getD false
  word s.before != word s.after

/-- Whether a condition holds at the place. In the empty text a place is neither between a word
and something else nor not so. -/
def satisfies (flags : Flags) (s : Spot) : Anchor → Bool
  | .start => s.before.isEmpty || (flags.multiline && s.before.head? == some '\n')
  | .finish =>
    s.after.isEmpty || s.after == ['\n'] || (flags.multiline && s.after.head? == some '\n')
  | .textStart => s.before.isEmpty
  | .textEnd => s.after.isEmpty
  | .boundary => s.isBoundary flags
  | .inside => !(s.before.isEmpty && s.after.isEmpty) && !s.isBoundary flags

end Spot

/-- A way to match at a spot, given what has to match behind it. -/
abbrev Step := Spot → (Spot → Option Spot) → Option Spot

/-- Exactly `n` rounds of a body. -/
def repeatExactly (body : Step) : (n : Nat) → Step
  | 0, s, next => next s
  | n + 1, s, next => body s fun s' => repeatExactly body n s' next

/-- Further rounds of a body, at most `most` of them. A round that matches the empty text is the
last one: it left the place `last` where the round before it began. -/
def repeatFurther (body : Step) (lazy : Bool) :
    (fuel : Nat) → (most : Option Nat) → (last : Option Nat) → Step
  | 0, _, _, s, next => next s
  | fuel + 1, most, last, s, next =>
    if most = some 0 ∨ last = some s.position then next s
    else
      let again := fun (_ : Unit) => body s fun s' =>
        repeatFurther body lazy fuel (most.map (· - 1)) (some s.position) s' next
      if lazy then (next s).or (again ()) else (again ()).or (next s)

/-- All rounds of a body, from `least` to `most`. -/
def repeatBody (body : Step) (lazy : Bool) (least : Nat) (most : Option Nat) : Step :=
  fun s next => repeatExactly body least s fun s' =>
    repeatFurther body lazy (s'.after.length + 2) (most.map (· - least)) none s' next

/-- Matches a tree at a spot so that `next` succeeds behind it. -/
def Node.run : Node → Flags → Step
  | empty, _, s, next => next s
  | code n, flags, s, next => (s.step? fun c => sameCode flags n c.toNat).bind next
  | any, flags, s, next => (s.step? fun c => flags.dotAll || c != '\n').bind next
  | set negated items, flags, s, next =>
    (s.step? fun c => (items.any fun item => item.holds flags c) != negated).bind next
  | anchor a, flags, s, next => if s.satisfies flags a then next s else none
  | seq a b, flags, s, next => a.run flags s fun s' => b.run flags s' next
  | alt a b, flags, s, next => (a.run flags s next).or (b.run flags s next)
  | group number added removed body, flags, s, next =>
    body.run (flags.changed added removed) s fun s' =>
      next (number.elim s' fun n => s'.capture n s)
  | rounds greed least most body, flags, s, next =>
    let all := repeatBody (body.run flags) (greed == .lazy) least most
    if greed == .possessive then (all s some).bind next else all s next
  | backreference n, flags, s, next =>
    match s.captures.lookup n with
    | none => none
    | some text => (s.skip? (fun a b => sameBackreference flags a b) text).bind next
  | look behind negated body, flags, s, next =>
    let found := if behind
      then (s.back? (body.width fun n => ⟨captured s n, some (captured s n)⟩).least).bind
        fun s' => body.run flags s' some
      else body.run flags s some
    match found, negated with
    | some s', false => next { s with captures := s'.captures }
    | none, true => next s
    | _, _ => none
  | atomic body, flags, s, next => (body.run flags s some).bind next
  | conditional n yes no, flags, s, next =>
    if (s.captures.lookup n).isSome then yes.run flags s next else no.run flags s next
where
  /-- Whether two characters are equal, small and capital forms being taken as one if the flags
  say so. -/
  sameBackreference (flags : Flags) (a b : Char) : Bool :=
    if !flags.ignoreCase then a == b
    else if flags.ascii then asciiLower a.toNat == asciiLower b.toNat
    else lowerCode a.toNat == lowerCode b.toNat
  /-- The length of what a group has captured. -/
  captured (s : Spot) (n : Nat) : Nat := ((s.captures.lookup n).map List.length).getD 0

/-- The first spot from `s` on at which a tree matches, and where the match ends. -/
def searchFrom? (node : Node) (flags : Flags) (before : List Char) :
    List Char → Option (Spot × Spot)
  | [] => (node.run flags ⟨before, [], []⟩ some).map (⟨before, [], []⟩, ·)
  | c :: after =>
    let s : Spot := ⟨before, c :: after, []⟩
    match node.run flags s some with
    | some ending => some (s, ending)
    | none => searchFrom? node flags (c :: before) after

/-- The first place of a text at which a tree matches, and where the match ends. -/
def search? (node : Node) (flags : Flags) (text : List Char) : Option (Spot × Spot) :=
  searchFrom? node flags [] text

end ElementQuery.Regex
