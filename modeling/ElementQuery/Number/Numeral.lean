import ElementQuery.Text.Blank
import ElementQuery.Text.DecimalDigit

/-!
# Numerals

Whole numbers as texts. A numeral may be surrounded by white space, may have a sign, may use the
decimal digits of any script, and may separate digits by single underscores. Neither reading nor
writing goes beyond 4300 digits.

## Main definitions

* `maxDigits` : the greatest count of digits that is read or written.
* `digitRun?` : the digits of an unsigned numeral.
* `readInt?` : the number that a text spells.
* `Printable` : the numbers that are short enough to be written.
* `writeInt?` : a number as text.
-/

namespace ElementQuery.Number

open ElementQuery.Text

/-- The greatest count of digits that a numeral is read or written with. -/
def maxDigits : Nat := 4300

/-- The value of a list of decimal digits, the most significant one first. -/
def ofDigitList (digits : List Nat) : Nat := digits.foldl (fun n d => 10 * n + d) 0

/-- Digits that follow a first one, each perhaps behind a single underscore. -/
def moreDigits? : List Char → Option (List Nat)
  | [] => some []
  | '_' :: c :: rest => do
    let d ← digitValue? c
    let ds ← moreDigits? rest
    return d :: ds
  | c :: rest => do
    let d ← digitValue? c
    let ds ← moreDigits? rest
    return d :: ds

/-- The digits of an unsigned numeral, of which there is at least one. -/
def digitRun? : List Char → Option (List Nat)
  | [] => none
  | c :: rest => do
    let d ← digitValue? c
    let ds ← moreDigits? rest
    return d :: ds

/-- Splits an optional sign off; the flag says that it is a minus. -/
def splitSign : List Char → Bool × List Char
  | '-' :: rest => (true, rest)
  | '+' :: rest => (false, rest)
  | cs => (false, cs)

/-- The number with the given sign and magnitude. -/
def signed (negative : Bool) (n : Nat) : Int := if negative then -(n : Int) else n

/-- The number that a text spells, `none` for anything but a numeral of at most `maxDigits`
digits. -/
def readInt? (s : String) : Option Int := do
  let (negative, body) := splitSign (trimBoth isSpace s.toList)
  let digits ← digitRun? body
  if digits.length ≤ maxDigits then some (signed negative (ofDigitList digits)) else none

/-- Whether a number has at most `maxDigits` digits, so that it can be written. -/
def Printable (n : Int) : Prop := n.natAbs < Nat.pow 10 maxDigits

instance (n : Int) : Decidable (Printable n) := inferInstanceAs (Decidable (_ < _))

/-- A number is short enough if it is no larger than the number of digits it may have. -/
theorem printable_of_natAbs_le {n : Int} (h : n.natAbs ≤ maxDigits) : Printable n := by
  rw [Printable, Nat.pow_eq]
  exact Nat.lt_of_le_of_lt h (Nat.lt_pow_self (by decide))

/-- A number as text, `none` if it has more than `maxDigits` digits. -/
@[irreducible]
def writeInt? (n : Int) : Option String := if Printable n then some (toString n) else none

theorem writeInt?_eq_some {n : Int} (h : Printable n) : writeInt? n = some (toString n) := by
  unfold writeInt?
  exact if_pos h

/-- A number is written exactly if it has few enough digits, and then in full. -/
theorem writeInt?_eq_some_iff {n : Int} {s : String} :
    writeInt? n = some s ↔ Printable n ∧ s = toString n := by
  unfold writeInt?
  rw [Option.ite_none_right_eq_some, Option.some.injEq, eq_comm]

/-- The complaint about a number with too many digits to be written. -/
def tooLongToWrite : String :=
  "Exceeds the limit (" ++ toString maxDigits ++ " digits) for integer string conversion; "
    ++ "use sys.set_int_max_str_digits() to increase the limit"

end ElementQuery.Number
