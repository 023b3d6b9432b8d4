import ElementQuery.Text.Printable

/-!
# Quoted texts

The way a text is shown inside a message: between single quotes, or between double quotes when it
holds a single quote and no double one, with the quote in use, the backslash and everything that
is not printable escaped.

## Main definitions

* `hexDigits` : a number in lower case hexadecimal digits of a least width.
* `quoteFor` : the quote that a text is shown in.
* `escapeIn` : how one character is written between given quotes.
* `quoted` : the whole text.
-/

namespace ElementQuery.Text

/-- A number in lower case hexadecimal digits, filled up with zeros to a least width. -/
def hexDigits (width n : Nat) : List Char :=
  let digits := Nat.toDigits 16 n
  List.replicate (width - digits.length) '0' ++ digits

/-- The escape of a character that is not printable, by the size of its code point. -/
def hexEscape (c : Char) : List Char :=
  if c.toNat ≤ 0xFF then '\\' :: 'x' :: hexDigits 2 c.toNat
  else if c.toNat ≤ 0xFFFF then '\\' :: 'u' :: hexDigits 4 c.toNat
  else '\\' :: 'U' :: hexDigits 8 c.toNat

/-- How a character is written between the quotes `quote`. -/
def escapeIn (quote c : Char) : List Char :=
  if c = quote ∨ c = '\\' then ['\\', c]
  else if c = '\n' then ['\\', 'n']
  else if c = '\r' then ['\\', 'r']
  else if c = '\t' then ['\\', 't']
  else if isPrintable c then [c]
  else hexEscape c

/-- Single quotes, unless the text holds one of them and no double quote. -/
def quoteFor (cs : List Char) : Char :=
  if cs.contains '\'' && !cs.contains '"' then '"' else '\''

/-- The characters of the quoted text. -/
def quotedChars (cs : List Char) : List Char :=
  let quote := quoteFor cs
  quote :: cs.flatMap (escapeIn quote) ++ [quote]

/-- A text as it is shown inside a message. -/
def quoted (s : String) : String := String.ofList (quotedChars s.toList)

end ElementQuery.Text
