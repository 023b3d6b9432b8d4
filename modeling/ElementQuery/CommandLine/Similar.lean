/-!
# Similar names

Which of some names someone may have meant who misspelt one. Two names are compared by the text
that they share: the longest common block, and the same again on both sides of it.

## Main definitions

* `longestBlock` : the longest common block of two texts.
* `sharedLength` : how many characters two texts share.
* `similarNames` : the names that share enough with a given one.
-/

namespace ElementQuery.CommandLine

/-- The length of the longest common beginning. -/
def commonLead : List Char → List Char → Nat
  | a :: as, b :: bs => if a = b then commonLead as bs + 1 else 0
  | _, _ => 0

/-- A common block of two texts: where it starts in each, and how long it is. -/
structure Block where
  /-- Where it starts in the first text. -/
  left : Nat
  /-- Where it starts in the second text. -/
  right : Nat
  size : Nat

/-- The longer of two blocks; of blocks of one size the first. -/
def Block.longer (x y : Block) : Block := if x.size < y.size then y else x

/-- The longest common block; of several the one that starts first in the first text, and of these
the one that starts first in the second. -/
def longestBlock (as bs : List Char) : Block :=
  let blocks := (List.range as.length).flatMap fun i =>
    (List.range bs.length).map fun j => Block.mk i j (commonLead (as.drop i) (bs.drop j))
  blocks.foldl Block.longer ⟨0, 0, 0⟩

/-- How many characters two texts share, in at most `steps` blocks. -/
def sharedIn : (steps : Nat) → List Char → List Char → Nat
  | 0, _, _ => 0
  | steps + 1, as, bs =>
    let b := longestBlock as bs
    if b.size = 0 then 0
    else
      sharedIn steps (as.take b.left) (bs.take b.right) + b.size
        + sharedIn steps (as.drop (b.left + b.size)) (bs.drop (b.right + b.size))

/-- How many characters two texts share. -/
def sharedLength (a b : String) : Nat := sharedIn a.length a.toList b.toList

/-- Whether two texts share three fifths of their characters or more. -/
def isSimilar (a b : String) : Bool :=
  let total := a.length + b.length
  20 * min a.length b.length ≥ 6 * total && 20 * sharedLength a b ≥ 6 * total

/-- The names that are similar to a given one, in alphabetical order. -/
def similarNames (name : String) (names : List String) : List String :=
  (names.filter (isSimilar · name)).mergeSort

end ElementQuery.CommandLine
