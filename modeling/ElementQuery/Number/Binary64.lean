import ElementQuery.Text.Blank
import ElementQuery.Text.DecimalDigit
import ElementQuery.Number.Numeral

/-!
# Binary floating point numbers

The numbers of the 64 bit binary interchange format, kept as a sign, a significand and an exponent
of two, so that all questions about them are questions about whole numbers. A decimal is taken to
the nearest such number, a tie to the one with the even significand.

## Main definitions

* `Binary64` : a number of the format, the infinities and the not-a-number included.
* `Binary64.ofDecimal` : the number nearest to a decimal.
* `Binary64.ofText?` : the number that a text spells.
* `Binary64.toInt?` : the exact value of a whole number.

## Design notes

`finite` values made here are normalised: the significand is below `2 ^ 53`, and it is at least
`2 ^ 52` unless the exponent is the least one.
-/

namespace ElementQuery.Number

/-- A number of the 64 bit binary format. -/
inductive Binary64 where
  | nan
  | infinite (negative : Bool)
  /-- The number `± significand * 2 ^ exponent`. -/
  | finite (negative : Bool) (significand : Nat) (exponent : Int)
  deriving DecidableEq, Repr

namespace Binary64

/-- The least exponent of two. -/
def minExponent : Int := -1074

/-- The greatest exponent of two. -/
def maxExponent : Int := 971

/-- The quotient of two numbers rounded to the nearest, a tie to the even one. -/
def divideToNearest (num den : Nat) : Nat :=
  let quotient := num / den
  let twice := 2 * (num % den)
  if twice < den then quotient
  else if den < twice then quotient + 1
  else if quotient % 2 = 0 then quotient else quotient + 1

/-- The number nearest to `± num / den`. -/
def ofRatio (negative : Bool) (num den : Nat) : Binary64 :=
  if num = 0 then finite negative 0 minExponent
  else
    let scaled (exponent : Int) : Nat × Nat :=
      (num * Nat.pow 2 (-exponent).toNat, den * Nat.pow 2 exponent.toNat)
    let guess : Int := (num.log2 : Int) - den.log2 - 52
    let guess := if (scaled guess).1 < (scaled guess).2 * Nat.pow 2 52 then guess - 1 else guess
    let exponent := max guess minExponent
    let significand := divideToNearest (scaled exponent).1 (scaled exponent).2
    let (significand, exponent) :=
      if significand = Nat.pow 2 53 then (Nat.pow 2 52, exponent + 1) else (significand, exponent)
    if maxExponent < exponent then infinite negative else finite negative significand exponent

/-- The number nearest to `± digits * 10 ^ scale`, where `digits` is a list of decimal digits. -/
def ofDecimal (negative : Bool) (digits : List Nat) (scale : Int) : Binary64 :=
  let digits := digits.dropWhile (· == 0)
  let magnitude : Int := digits.length + scale
  if digits.isEmpty || magnitude < -400 then finite negative 0 minExponent
  else if 400 < magnitude then infinite negative
  else ofRatio negative (ofDigitList digits * Nat.pow 10 scale.toNat) (Nat.pow 10 (-scale).toNat)

/-- A whole number without blanks or underscores, with an optional sign. -/
def readExponent? (cs : List Char) : Option Int := do
  let (negative, body) := splitSign cs
  if body.contains '_' then none
  let digits ← digitRun? body
  return signed negative (ofDigitList digits)

/-- An unsigned decimal: digits with an optional point among them and an optional exponent. -/
def readMagnitude? (negative : Bool) (cs : List Char) : Option Binary64 := do
  let isMark (c : Char) : Bool := c == 'e' || c == 'E'
  let mantissa := cs.takeWhile fun c => !isMark c
  let exponent ← match cs.dropWhile fun c => !isMark c with
    | [] => some 0
    | _ :: rest => readExponent? rest
  let whole := mantissa.takeWhile (· != '.')
  let fraction := (mantissa.dropWhile (· != '.')).drop 1
  let digits ← (whole ++ fraction).mapM Text.digitValue?
  if digits.isEmpty then none
  return ofDecimal negative digits (exponent - fraction.length)

/-- The number that a text spells: a decimal, `inf`, `infinity` or `nan` in any letter case. -/
def ofText? (s : String) : Option Binary64 :=
  let (negative, body) := splitSign (Text.trimBoth Text.isSpace s.toList)
  let word := String.ofList (body.map Char.toLower)
  if word = "inf" ∨ word = "infinity" then some (infinite negative)
  else if word = "nan" then some nan
  else readMagnitude? negative body

/-- The exact value of a whole number. -/
def toInt? : Binary64 → Option Int
  | finite negative significand exponent =>
    if 0 ≤ exponent then some (signed negative (significand * Nat.pow 2 exponent.toNat))
    else
      let unit := Nat.pow 2 (-exponent).toNat
      if significand % unit = 0 then some (signed negative (significand / unit)) else none
  | _ => none

/-- Whether a number is neither infinite nor not-a-number. -/
def isFinite : Binary64 → Bool
  | finite .. => true
  | _ => false

/-- The greatest whole number that is not above a finite number. -/
def floor? : Binary64 → Option Int
  | finite negative significand exponent =>
    some (Int.fdiv (signed negative significand * Nat.pow 2 exponent.toNat)
      (Nat.pow 2 (-exponent).toNat))
  | _ => none

/-- Whether a number is zero, of either sign. -/
def isZero : Binary64 → Bool
  | finite _ significand _ => significand == 0
  | _ => false

/-- Equality of values: zeros are equal, and not-a-number differs from itself. -/
def same : Binary64 → Binary64 → Bool
  | nan, _ => false
  | _, nan => false
  | x, y => x == y || (x.isZero && y.isZero)

end Binary64

end ElementQuery.Number
