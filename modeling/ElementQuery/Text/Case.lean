import ElementQuery.Text.CaseTable

/-!
# Letter case

Small and capital forms of characters and of texts. Two mappings depend on more than the
character: a capital sigma at the end of a word has a small form of its own, and a capital I with
a dot keeps the dot as a mark of its own.

## Main definitions

* `CaseRun.image?`, `CaseRun.preimage?` : a run of the tables read in both directions.
* `lowerCode` : the small form of one code point.
* `codesLoweredTo` : the code points with a given small form.
* `lower`, `upper` : the small and the capital form of a text.
-/

namespace ElementQuery.Text

/-- Whether a code point is on the run. -/
def CaseRun.holds (run : CaseRun) (code : Nat) : Bool :=
  run.first ≤ code && code ≤ run.last && (code - run.first) % run.stride == 0

/-- Where the run takes a code point on it. -/
def CaseRun.image? (run : CaseRun) (code : Nat) : Option Nat :=
  if run.holds code then some (code + run.shift).toNat else none

/-- Which code point on the run is taken to `code`. -/
def CaseRun.preimage? (run : CaseRun) (code : Nat) : Option Nat :=
  let source := (code - run.shift).toNat
  if run.holds source then some source else none

/-- The capital I with a dot above, whose small form is an `i` and a combining dot. -/
def dottedCapitalI : Nat := 0x130

/-- The small form of a code point, taken alone: a dotted capital I becomes an `i`. -/
def lowerCode (code : Nat) : Nat :=
  if code = dottedCapitalI then 0x69
  else (lowerRuns.findSome? (·.image? code)).getD code

/-- All code points whose small form is `code`. -/
def codesLoweredTo (code : Nat) : List Nat :=
  let capitals := lowerRuns.filterMap (·.preimage? code)
  let capitals := if code = 0x69 then dottedCapitalI :: capitals else capitals
  if lowerCode code = code then code :: capitals else capitals

/-- The small letters that share their capital with `code`. -/
def companions (code : Nat) : List Nat :=
  (caseCompanions.find? (·.1 == code)).elim [] (·.2)

/-- Whether the first character that is not skipped around a sigma is a letter with case. -/
def casedAhead (cs : List Char) : Bool :=
  match cs.dropWhile fun c => CodeRange.covers caseIgnorableRanges c.toNat with
  | [] => false
  | c :: _ => CodeRange.covers casedRanges c.toNat

/-- The small form of `c`, which stands after `before` (nearest first) and ahead of `after`. -/
def lowerIn (before : List Char) (c : Char) (after : List Char) : List Char :=
  if c.toNat = dottedCapitalI then ['i', Char.ofNat 0x307]
  else if c = 'Σ' then
    if casedAhead before && !casedAhead after then ['ς'] else ['σ']
  else [Char.ofNat (lowerCode c.toNat)]

/-- Small forms of the characters after `before` (nearest first). -/
def lowerChars (before : List Char) : List Char → List Char
  | [] => []
  | c :: rest => lowerIn before c rest ++ lowerChars (c :: before) rest

/-- The small form of a text. -/
def lower (s : String) : String := String.ofList (lowerChars [] s.toList)

/-- The capital form of a character, possibly several characters. -/
def upperChar (c : Char) : List Char :=
  match upperExpansions.find? (·.1 == c.toNat) with
  | some (_, codes) => codes.map Char.ofNat
  | none => [Char.ofNat ((upperRuns.findSome? (·.image? c.toNat)).getD c.toNat)]

/-- The capital form of a text. -/
def upper (s : String) : String := String.ofList (s.toList.flatMap upperChar)

end ElementQuery.Text
