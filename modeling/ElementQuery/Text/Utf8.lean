import ElementQuery.Text.Quoted

/-!
# UTF-8

Bytes as text. A first byte says how many bytes the character has and between which bounds they
lie, so that no character has two forms. The first fault ends the reading.

## Main definitions

* `Utf8.tailBounds?` : the bounds of the bytes that follow a first byte.
* `Utf8.decode` : the text that bytes spell.
* `Utf8.Error` : what is wrong with bytes, and where.
-/

namespace ElementQuery.Text.Utf8

/-- What is wrong with bytes. -/
inductive Problem where
  | badStart
  /-- The character does not go on with the next byte. -/
  | badTail
  | endOfData
  deriving DecidableEq, Repr

/-- The wording of a problem. -/
def Problem.message : Problem → String
  | badStart => "invalid start byte"
  | badTail => "invalid continuation byte"
  | endOfData => "unexpected end of data"

/-- Why bytes are no text. -/
structure Error where
  problem : Problem
  position : Nat
  /-- The bytes of the character up to the fault. -/
  bytes : List Nat
  deriving DecidableEq, Repr

/-- The wording of a fault. -/
def Error.message (e : Error) : String :=
  let place := match e.bytes with
    | [b] =>
      "byte 0x" ++ String.ofList (hexDigits 2 b) ++ " in position " ++ toString e.position
    | bytes =>
      "bytes in position " ++ toString e.position ++ "-"
        ++ toString (e.position + bytes.length - 1)
  "'utf-8' codec can't decode " ++ place ++ ": " ++ e.problem.message

/-- The bounds of a byte that follows another without further restriction. -/
def anyTail : Nat × Nat := (0x80, 0xBF)

/-- The bounds of the bytes that follow a first byte; `none` if no character starts with it. -/
def tailBounds? (first : Nat) : Option (List (Nat × Nat)) :=
  if first ≤ 0x7F then some []
  else if first < 0xC2 then none
  else if first ≤ 0xDF then some [anyTail]
  else if first = 0xE0 then some [(0xA0, 0xBF), anyTail]
  else if first = 0xED then some [(0x80, 0x9F), anyTail]
  else if first ≤ 0xEF then some [anyTail, anyTail]
  else if first = 0xF0 then some [(0x90, 0xBF), anyTail, anyTail]
  else if first ≤ 0xF3 then some [anyTail, anyTail, anyTail]
  else if first = 0xF4 then some [(0x80, 0x8F), anyTail, anyTail]
  else none

/-- The character of a first byte and the bytes that follow it. -/
def charOf (first : Nat) (tail : List Nat) : Char :=
  let lead := match tail.length with
    | 0 => first
    | 1 => first % 0x20
    | 2 => first % 0x10
    | _ => first % 0x08
  Char.ofNat (tail.foldl (fun code b => code * 0x40 + b % 0x40) lead)

/-- The text of the bytes from `position` on. `begun` are the bytes of a character that has begun,
and `lacking` the bounds of those that it still lacks. -/
def decodeFrom (position : Nat) (begun : List Nat) :
    (lacking : List (Nat × Nat)) → List Nat → Except Error (List Char)
  | [], [] => return []
  | _ :: _, [] => throw ⟨.endOfData, position - begun.length, begun⟩
  | [], b :: rest =>
    match tailBounds? b with
    | none => throw ⟨.badStart, position, [b]⟩
    | some [] => do return charOf b [] :: (← decodeFrom (position + 1) [] [] rest)
    | some bounds => decodeFrom (position + 1) [b] bounds rest
  | (least, greatest) :: more, b :: rest =>
    if b < least ∨ greatest < b then throw ⟨.badTail, position - begun.length, begun⟩
    else
      let begun := begun ++ [b]
      match more with
      | [] => do
        return charOf (begun.headD 0) begun.tail :: (← decodeFrom (position + 1) [] [] rest)
      | more => decodeFrom (position + 1) begun more rest

/-- The text that bytes spell. -/
def decode (bytes : List Nat) : Except Error (List Char) := decodeFrom 0 [] [] bytes

end ElementQuery.Text.Utf8
