import ElementQuery.Json.Text
import ElementQuery.Number.Shortest
import ElementQuery.Text.Quoted

/-!
# JSON values and their printing

## Main definitions

* `Json` : a JSON value; whole numbers are apart from floating point numbers, and the members of
  an object keep their order. Texts are strings, unless another type is given for them.
* `Json.Document`, `Json.Members` : a JSON value that is read from a text, and members of one.
* `Json.member?` : the member of an object under a name.
* `Json.insertMember` : puts a member into an object.
* `Json.indented` : a value over several lines, in ASCII.
-/

namespace ElementQuery

open ElementQuery.Number

/-- A JSON value with texts of a type. -/
inductive Json (τ : Type := String) where
  | null
  | bool (b : Bool)
  | int (n : Int)
  | float (x : Binary64)
  | string (s : τ)
  | array (items : List (Json τ))
  | object (members : List (τ × Json τ))

/-- A JSON value that is read from a text. -/
abbrev Json.Document := Json Json.Text

/-- The members of an object that is read from a text. -/
abbrev Json.Members := List (Json.Text × Json.Document)

namespace Json

section Members

variable {τ : Type} [BEq τ]

/-- The member of an object under a name. -/
def member? (name : τ) : Json τ → Option (Json τ)
  | object members => members.lookup name
  | _ => none

/-- Puts a member among members: one that is there keeps its place and gets the new value. -/
def insertMember (members : List (τ × Json τ)) (name : τ) (value : Json τ) : List (τ × Json τ) :=
  if members.any (·.1 == name) then
    members.map fun m => if m.1 == name then (name, value) else m
  else members ++ [(name, value)]

/-- Members in which each name stands once. -/
def mergeMembers (members : List (τ × Json τ)) : List (τ × Json τ) :=
  members.foldl (fun merged m => insertMember merged m.1 m.2) []

end Members

/-- An escape by code point, as two surrogates beyond the basic plane. -/
def codeEscape (code : Nat) : List Char :=
  let unit (n : Nat) : List Char := '\\' :: 'u' :: Text.hexDigits 4 n
  if code < 0x10000 then unit code
  else unit (0xD800 + (code - 0x10000) / 0x400) ++ unit (0xDC00 + (code - 0x10000) % 0x400)

/-- How a character is written in a string, all in ASCII. -/
def escape (c : Char) : List Char :=
  if c = '"' ∨ c = '\\' then ['\\', c]
  else if c = '\n' then ['\\', 'n']
  else if c = '\r' then ['\\', 'r']
  else if c = '\t' then ['\\', 't']
  else if c = '\x0c' then ['\\', 'f']
  else if c = '\x08' then ['\\', 'b']
  else if ' ' ≤ c ∧ c ≤ '~' then [c]
  else codeEscape c.toNat

/-- A text as a JSON string. -/
def quote (s : String) : String := String.ofList ('"' :: s.toList.flatMap escape ++ ['"'])

/-- A line feed and the blanks before a line at a depth. -/
def newline (depth : Nat) : String := String.ofList ('\n' :: List.replicate (2 * depth) ' ')

/-- Items between brackets, each on a line of its own at the next depth. -/
def block (opening closing : String) (depth : Nat) (items : List String) : String :=
  if items.isEmpty then opening ++ closing
  else opening ++ String.join ((items.map (newline (depth + 1) ++ ·)).intersperse ",")
    ++ newline depth ++ closing

mutual

/-- A value over several lines, its members and items two blanks further to the right. -/
def indented (depth : Nat) : Json → String
  | null => "null"
  | bool b => if b then "true" else "false"
  | int n => toString n
  | float x => x.text
  | string s => quote s
  | array items => block "[" "]" depth (indentedItems (depth + 1) items)
  | object members => block "\x7b" "\x7d" depth (indentedMembers (depth + 1) members)

/-- The items of an array. -/
def indentedItems (depth : Nat) : List Json → List String
  | [] => []
  | item :: rest => item.indented depth :: indentedItems depth rest

/-- The members of an object. -/
def indentedMembers (depth : Nat) : List (String × Json) → List String
  | [] => []
  | (name, value) :: rest =>
    (quote name ++ ": " ++ value.indented depth) :: indentedMembers depth rest

end

mutual

/-- A value on one line. -/
def compact : Json → String
  | null => "null"
  | bool b => if b then "true" else "false"
  | int n => toString n
  | float x => x.text
  | string s => quote s
  | array items => "[" ++ String.intercalate "," (compactItems items) ++ "]"
  | object members => "\x7b" ++ String.intercalate "," (compactMembers members) ++ "\x7d"

/-- The items of an array. -/
def compactItems : List Json → List String
  | [] => []
  | item :: rest => item.compact :: compactItems rest

/-- The members of an object. -/
def compactMembers : List (String × Json) → List String
  | [] => []
  | (name, value) :: rest => (quote name ++ ":" ++ value.compact) :: compactMembers rest

end

end Json

end ElementQuery
