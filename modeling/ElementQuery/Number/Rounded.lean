import ElementQuery.Number.Binary64

/-!
# Rounded decimals

Floating point numbers with a given count of digits, rounded to the nearest, a tie to the even
digit: with a count of places behind the point, with an exponent, or in whichever of the two forms
suits the size of the number.

## Main definitions

* `Layout` : the three forms.
* `leadingPlace` : the decimal exponent of a number.
* `roundedChars` : a magnitude in one of the forms.
-/

namespace ElementQuery.Number

/-- A form of rounded decimals. -/
inductive Layout where
  /-- A count of places behind the point. -/
  | fixed
  /-- One digit before the point, a count of places behind it, and an exponent. -/
  | exponent
  /-- A count of digits in all, with an exponent only for very large and very small numbers;
  zeros at the end are left out. -/
  | general
  deriving DecidableEq, Repr

/-- The whole number nearest to `significand * 2 ^ exponent * 10 ^ places`. -/
def scaledNearest (significand : Nat) (exponent places : Int) : Nat :=
  Binary64.divideToNearest
    (significand * Nat.pow 2 exponent.toNat * Nat.pow 10 places.toNat)
    (Nat.pow 2 (-exponent).toNat * Nat.pow 10 (-places).toNat)

/-- The greatest `k` with `10 ^ k` not above the number; 0 for zero. -/
def leadingPlace (significand : Nat) (exponent : Int) : Int :=
  if significand = 0 then 0
  else
    let num := significand * Nat.pow 2 exponent.toNat
    let den := Nat.pow 2 (-exponent).toNat
    let k : Int := (Nat.toDigits 10 num).length - (Nat.toDigits 10 den).length
    if num * Nat.pow 10 (-k).toNat < den * Nat.pow 10 k.toNat then k - 1 else k

/-- The first `count` digits of a number, rounded, and the decimal exponent of what they spell. -/
def leadingDigits (significand : Nat) (exponent : Int) (count : Nat) : List Char × Int :=
  let k := leadingPlace significand exponent
  let n := scaledNearest significand exponent (count - 1 - k)
  if n = Nat.pow 10 count then (Nat.toDigits 10 (n / 10), k + 1)
  else
    let digits := Nat.toDigits 10 n
    (List.replicate (count - digits.length) '0' ++ digits, k)

/-- A point and the places behind it; without places the point is left out unless it is kept. -/
def pointAnd (keepPoint : Bool) (places : List Char) : List Char :=
  if places.isEmpty && !keepPoint then [] else '.' :: places

/-- The digits before and behind the point of a number with a count of places. -/
def fixedParts (significand : Nat) (exponent : Int) (places : Nat) : List Char × List Char :=
  let digits := Nat.toDigits 10 (scaledNearest significand exponent places)
  let digits := List.replicate (places + 1 - digits.length) '0' ++ digits
  digits.splitAt (digits.length - places)

/-- A decimal exponent with its mark, its sign and at least two digits. -/
def exponentChars (k : Int) : List Char :=
  let digits := Nat.toDigits 10 k.natAbs
  'e' :: (if k < 0 then '-' else '+') :: List.replicate (2 - digits.length) '0' ++ digits

/-- Drops the zeros at the end. -/
def dropFinalZeros (cs : List Char) : List Char := (cs.reverse.dropWhile (· == '0')).reverse

/-- The magnitude `significand * 2 ^ exponent` in one of the forms. -/
def roundedChars (layout : Layout) (precision : Nat) (keepPoint : Bool) (significand : Nat)
    (exponent : Int) : List Char :=
  match layout with
  | .fixed =>
    let (whole, places) := fixedParts significand exponent precision
    whole ++ pointAnd keepPoint places
  | .exponent =>
    let (digits, k) := leadingDigits significand exponent (precision + 1)
    digits.take 1 ++ pointAnd keepPoint (digits.drop 1) ++ exponentChars k
  | .general =>
    let count := max precision 1
    let (digits, k) := leadingDigits significand exponent count
    let shorten (places : List Char) := if keepPoint then places else dropFinalZeros places
    if k < -4 ∨ count ≤ k then
      digits.take 1 ++ pointAnd keepPoint (shorten (digits.drop 1)) ++ exponentChars k
    else
      let (whole, places) := fixedParts significand exponent (count - 1 - k).toNat
      whole ++ pointAnd keepPoint (shorten places)

end ElementQuery.Number
