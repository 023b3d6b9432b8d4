import ElementQuery.Number.Binary64

/-!
# Shortest decimals

The text of a floating point number: the fewest digits that read back as the same number, and of
those the nearest. A number from `1e-4` up to but not including `1e16` is written with a point in
place, any other one with an exponent of at least two digits.

## Main definitions

* `Interval` : the reals that round to a number.
* `shortestDigits` : the fewest digits, with the place of the point.
* `Binary64.text` : the whole text.
-/

namespace ElementQuery.Number

/-- The reals that round to a number, as multiples of one unit `num / den`. -/
structure Interval where
  num : Nat
  den : Nat
  low : Nat
  mid : Nat
  high : Nat
  /-- Whether the ends round to the number as well. -/
  closed : Bool

/-- The interval of `significand * 2 ^ exponent`, in quarters of the last place. -/
def Interval.ofBinary (significand : Nat) (exponent : Int) : Interval where
  num := Nat.pow 2 (exponent - 2).toNat
  den := Nat.pow 2 (2 - exponent).toNat
  low := if significand = Nat.pow 2 52 ∧ Binary64.minExponent < exponent
    then 4 * significand - 1 else 4 * significand - 2
  mid := 4 * significand
  high := 4 * significand + 2
  closed := significand % 2 = 0

/-- Whether `n * 10 ^ place` rounds to the number. -/
def Interval.holds (i : Interval) (n : Nat) (place : Int) : Bool :=
  let here := n * Nat.pow 10 place.toNat * i.den
  let unit := i.num * Nat.pow 10 (-place).toNat
  let low := i.low * unit
  let high := i.high * unit
  if i.closed then low ≤ here && here ≤ high else low < here && here < high

/-- The count of digits before the point: the least `k` with the number below `10 ^ k`. -/
def Interval.magnitude (i : Interval) : Int :=
  let whole := i.mid * i.num / i.den
  if 0 < whole then (Nat.toDigits 10 whole).length
  else 1 - ((Nat.toDigits 10 ((i.den - 1) / (i.mid * i.num))).length : Int)

/-- The better of the two neighbours of the number among the multiples of `10 ^ place`, if one of
them rounds to it. -/
def Interval.hit? (i : Interval) (place : Int) : Option Nat :=
  let scaledNum := i.mid * i.num * Nat.pow 10 (-place).toNat
  let scaledDen := i.den * Nat.pow 10 place.toNat
  let below := scaledNum / scaledDen
  match i.holds below place, i.holds (below + 1) place with
  | true, true => some (Binary64.divideToNearest scaledNum scaledDen)
  | true, false => some below
  | false, true => some (below + 1)
  | false, false => none

/-- The coarsest decimal grid with a hit, from `count` digits on. -/
def Interval.search (i : Interval) (magnitude : Int) : (fuel count : Nat) → Nat × Int
  | 0, count => (i.mid * i.num / i.den, magnitude - count)
  | fuel + 1, count =>
    let place := magnitude - count
    match i.hit? place with
    | some n => (n, place)
    | none => i.search magnitude fuel (count + 1)

/-- The fewest digits of a positive number and the count of them before the point. Seventeen
digits always suffice. -/
def shortestDigits (significand : Nat) (exponent : Int) : List Char × Int :=
  let i := Interval.ofBinary significand exponent
  let (n, place) := i.search i.magnitude 17 1
  let digits := Nat.toDigits 10 n
  let kept := (digits.reverse.dropWhile (· == '0')).reverse
  (kept, digits.length + place)

/-- Digits with the point after the first `point` of them. -/
def positional (digits : List Char) (point : Int) : List Char :=
  if point ≤ 0 then '0' :: '.' :: List.replicate (-point).toNat '0' ++ digits
  else
    let whole := digits.take point.toNat ++ List.replicate (point.toNat - digits.length) '0'
    let fraction := digits.drop point.toNat
    whole ++ '.' :: (if fraction.isEmpty then ['0'] else fraction)

/-- Digits with the point after the first one, and an exponent. -/
def scientific (digits : List Char) (exponent : Int) : List Char :=
  let mantissa := match digits with
    | [] => []
    | [d] => [d]
    | d :: rest => d :: '.' :: rest
  let size := Nat.toDigits 10 exponent.natAbs
  mantissa ++ 'e' :: (if exponent < 0 then '-' else '+')
    :: List.replicate (2 - size.length) '0' ++ size

/-- The text of a magnitude. -/
def magnitudeChars (significand : Nat) (exponent : Int) : List Char :=
  if significand = 0 then ['0', '.', '0']
  else
    let (digits, point) := shortestDigits significand exponent
    if -4 < point ∧ point ≤ 16 then positional digits point
    else scientific digits (point - 1)

/-- The text of a floating point number. -/
def Binary64.text : Binary64 → String
  | .nan => "nan"
  | .infinite negative => if negative then "-inf" else "inf"
  | .finite negative significand exponent =>
    let magnitude := magnitudeChars significand exponent
    String.ofList (if negative then '-' :: magnitude else magnitude)

end ElementQuery.Number
