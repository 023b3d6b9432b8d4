import ElementQuery.Number.Rounded
import ElementQuery.Query.Value

/-!
# Percent conversions

One conversion of a percent format: how a value is written by it, and how what is written is set
into a field of some width.

## Main definitions

* `Directive` : a conversion with its flags, its width and its precision.
* `Error` : why a format cannot be filled in.
* `Directive.write` : a value, written.
-/

namespace ElementQuery.Percent

open ElementQuery.Number ElementQuery.Text

/-- Why a format cannot be filled in. -/
inductive Error where
  /-- A field names its value, but the values have no names. -/
  | needsNames
  /-- The name in a field has no end. -/
  | unclosedName
  | noSuchName (name : String)
  | unfinished
  | tooFewValues
  | tooManyValues
  /-- A width or a precision is taken from a value that is no whole number. -/
  | notAWidth
  | widthTooLarge
  | precisionTooLarge
  /-- There is no such conversion; the position counts from 0. -/
  | noSuchConversion (c : Char) (position : Nat)
  | notANumber (conversion : Char) (sort : String)
  | notWhole (conversion : Char) (sort : String)
  /-- The conversion is for floating point numbers. -/
  | notReal (sort : String)
  | notACharacter
  | noSuchCharacter
  /-- A value that is no number is taken for a whole number. -/
  | wholeOfNan
  /-- An infinity is taken for a whole number. -/
  | wholeOfInfinity
  /-- A whole number is beyond the floating point numbers. -/
  | tooLargeForFloat
  /-- A whole number has too many digits to be written. -/
  | numberTooLong
  deriving DecidableEq, Repr

/-- The wording of a fault. -/
def Error.message : Error → String
  | needsNames => "format requires a mapping"
  | unclosedName => "incomplete format key"
  | noSuchName name => quoted name
  | unfinished => "incomplete format"
  | tooFewValues => "not enough arguments for format string"
  | tooManyValues => "not all arguments converted during string formatting"
  | notAWidth => "* wants int"
  | widthTooLarge => "width too big"
  | precisionTooLarge => "precision too big"
  | noSuchConversion c position =>
    let shown := if ' ' ≤ c ∧ c ≤ '~' then c else '?'
    "unsupported format character " ++ String.ofList ['\'', shown, '\''] ++ " (0x"
      ++ String.ofList (hexDigits 1 c.toNat) ++ ") at index " ++ toString position
  | notANumber conversion sort =>
    String.ofList ['%', conversion] ++ " format: a real number is required, not " ++ sort
  | notWhole conversion sort =>
    String.ofList ['%', conversion] ++ " format: an integer is required, not " ++ sort
  | notReal sort => "must be real number, not " ++ sort
  | notACharacter => "%c requires int or char"
  | noSuchCharacter => "%c arg not in range(0x110000)"
  | wholeOfNan => "cannot convert float NaN to integer"
  | wholeOfInfinity => "cannot convert float infinity to integer"
  | tooLargeForFloat => "int too large to convert to float"
  | numberTooLong => tooLongToWrite

/-- A conversion with its flags, its width and its precision. -/
structure Directive where
  /-- Whether the field is filled up on the right. -/
  left : Bool := false
  /-- Whether numbers that are not negative get a plus. -/
  plus : Bool := false
  /-- Whether numbers that are not negative get a blank. -/
  blank : Bool := false
  /-- Whether the longer form of numbers is written. -/
  long : Bool := false
  /-- Whether numbers are filled up with zeros. -/
  zeros : Bool := false
  width : Nat := 0
  precision : Option Nat := none
  conversion : Char := 's'

namespace Directive

/-- A text in its field. -/
def setText (d : Directive) (cs : List Char) : List Char :=
  let fill := List.replicate (d.width - cs.length) ' '
  if d.left then cs ++ fill else fill ++ cs

/-- A number in its field: zeros are filled in between its sign and radix mark and its digits. -/
def setNumber (d : Directive) (negative : Bool) (mark digits : List Char) : List Char :=
  let sign := if negative then ['-'] else if d.plus then ['+'] else if d.blank then [' '] else []
  let front := sign ++ mark
  if d.zeros && !d.left then
    front ++ List.replicate (d.width - front.length - digits.length) '0' ++ digits
  else d.setText (front ++ digits)

/-- What a precision keeps of a text. -/
def cutText (d : Directive) (cs : List Char) : List Char :=
  match d.precision with
  | none => cs
  | some n => cs.take n

/-- A character in ASCII, escaped if it has to be. -/
def asciiChar (c : Char) : List Char := if c.toNat < 0x80 then [c] else hexEscape c

/-- The whole number that is written for a value in base ten. -/
def wholeOf (d : Directive) (v : Value) : Except Error Int :=
  match v.base with
  | .int n => return n
  | .bool b => return if b then 1 else 0
  | .float .nan => throw .wholeOfNan
  | .float (.infinite _) => throw .wholeOfInfinity
  | .float (.finite negative significand exponent) =>
    return signed negative (significand * Nat.pow 2 exponent.toNat / Nat.pow 2 (-exponent).toNat)
  | _ => throw (.notANumber d.conversion v.sort)

/-- The whole number that is written for a value in another base. -/
def exactWholeOf (d : Directive) (v : Value) : Except Error Int :=
  match v.base with
  | .int n => return n
  | .bool b => return if b then 1 else 0
  | _ => throw (.notWhole d.conversion v.sort)

/-- The floating point number that is written for a value. -/
def realOf (v : Value) : Except Error Binary64 :=
  let ofInt (n : Int) := Binary64.ofRatio (decide (n < 0)) n.natAbs 1
  match v.base with
  | .float x => return x
  | .bool b => return ofInt (if b then 1 else 0)
  | .int n => if (ofInt n).isFinite then return ofInt n else throw .tooLargeForFloat
  | _ => throw (.notReal v.sort)

/-- The character that is written for a value. -/
def characterOf (v : Value) : Except Error Char :=
  let ofCode (n : Int) : Except Error Char :=
    if 0 ≤ n ∧ n < 0x110000 then return Char.ofNat n.toNat else throw .noSuchCharacter
  match v.base with
  | .int n => ofCode n
  | .bool b => ofCode (if b then 1 else 0)
  | .text s =>
    match s.toList with
    | [c] => return c
    | _ => throw .notACharacter
  | _ => throw .notACharacter

/-- A whole number in a base, with at least as many digits as the precision asks for. -/
def setWhole (d : Directive) (base : Nat) (mark : List Char) (capital : Bool) (n : Int) :
    List Char :=
  let digits := Nat.toDigits base n.natAbs
  let digits := List.replicate (d.precision.getD 0 - digits.length) '0' ++ digits
  let raise (cs : List Char) := if capital then cs.map Char.toUpper else cs
  d.setNumber (decide (n < 0)) (if d.long then raise mark else []) (raise digits)

/-- A whole number in base ten, if it is not too long to be written. -/
def writeDecimal (d : Directive) (n : Int) : Except Error (List Char) :=
  if Printable n then return d.setWhole 10 [] false n else throw .numberTooLong

/-- A floating point number in a layout, by default with six digits. -/
def setReal (d : Directive) (layout : Layout) (capital : Bool) (x : Binary64) : List Char :=
  let (negative, digits) := match x with
    | .nan => (false, ['n', 'a', 'n'])
    | .infinite negative => (negative, ['i', 'n', 'f'])
    | .finite negative significand exponent =>
      (negative, roundedChars layout (d.precision.getD 6) d.long significand exponent)
  d.setNumber negative [] (if capital then digits.map Char.toUpper else digits)

/-- What has been written of a value, as far as the precision keeps it. -/
def writeText (d : Directive) (text : Option String) : Except Error (List Char) :=
  match text with
  | some text => return d.setText (d.cutText text.toList)
  | none => throw .numberTooLong

/-- A value, written as the directive says. The format position of the conversion serves to report
one that does not exist. -/
def write (d : Directive) (position : Nat) (v : Value) : Except Error (List Char) :=
  match d.conversion with
  | 's' => d.writeText v.display?
  | 'r' => d.writeText v.shown?
  | 'a' => d.writeText (v.shown?.map fun s => String.ofList (s.toList.flatMap asciiChar))
  | 'c' => return d.setText [← characterOf v]
  | 'd' | 'i' | 'u' => d.wholeOf v >>= d.writeDecimal
  | 'o' => return d.setWhole 8 ['0', 'o'] false (← d.exactWholeOf v)
  | 'x' => return d.setWhole 16 ['0', 'x'] false (← d.exactWholeOf v)
  | 'X' => return d.setWhole 16 ['0', 'x'] true (← d.exactWholeOf v)
  | 'e' => return d.setReal .exponent false (← realOf v)
  | 'E' => return d.setReal .exponent true (← realOf v)
  | 'f' => return d.setReal .fixed false (← realOf v)
  | 'F' => return d.setReal .fixed true (← realOf v)
  | 'g' => return d.setReal .general false (← realOf v)
  | 'G' => return d.setReal .general true (← realOf v)
  | c => throw (.noSuchConversion c position)

end Directive

end ElementQuery.Percent
