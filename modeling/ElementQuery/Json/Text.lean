/-!
# Texts in JSON

A string in a JSON text may be escaped in halves of surrogate pairs. A half that stands alone is no
character, and yet it is read: two strings with different halves are different strings. So the texts
that are read are made of code points. A text of characters is one of these, and what has to be a
text of characters shows the replacement character for a half.

## Main definitions

* `Json.CodePoint` : a character, or a half of a surrogate pair.
* `Json.Text` : a text of code points.
* `Json.Text.ofString` : a text of characters.
* `Json.Text.plain` : a text with the replacement character for each half.
-/

namespace ElementQuery.Json

/-- A character, or a half of a surrogate pair that stands alone. -/
inductive CodePoint where
  | char (c : Char)
  /-- The surrogate that comes so many behind the first one. -/
  | surrogate (offset : Fin 0x800)
  deriving DecidableEq, Repr

namespace CodePoint

/-- The code point with a code. -/
def ofCode (code : Nat) : CodePoint :=
  if h : 0xD800 ≤ code ∧ code ≤ 0xDFFF then surrogate ⟨code - 0xD800, by omega⟩
  else char (Char.ofNat code)

/-- The character that is shown for a code point. -/
def plain : CodePoint → Char
  | char c => c
  | surrogate _ => Char.ofNat 0xFFFD

end CodePoint

/-- A text of code points. -/
structure Text where
  codes : List CodePoint
  deriving DecidableEq, Repr

namespace Text

/-- A text of characters. -/
def ofString (s : String) : Text := ⟨s.toList.map .char⟩

instance : Coe String Text := ⟨ofString⟩

/-- A text with the replacement character for each half of a surrogate pair. -/
def plain (t : Text) : String := String.ofList (t.codes.map (·.plain))

/-- A text of characters is shown as it is. -/
@[simp] theorem plain_ofString (s : String) : plain s = s := by
  have hchars : (s.toList.map CodePoint.char).map (·.plain) = s.toList := by
    rw [List.map_map]
    exact List.map_id _
  rw [plain, ofString, hchars, String.ofList_toList]

end Text

end ElementQuery.Json
