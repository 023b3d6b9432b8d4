import ElementQuery.Number.Shortest
import ElementQuery.Regex.Basic

/-!
# Values that callers hand over

Keys, attribute values, tags, scopes and element fields come from callers that may pass values of
any sort. `Criterion` is what a value becomes in a query; `Value` is the open-ended input.

## Main definitions

* `Criterion` : what the value of a query entry is compared by.
* `Value` : a caller's value.
* `Value.base` : the number or text that a value is.
* `Value.display?` : the value as text.
* `Value.shown?` : the value as it is shown inside a message.
* `Value.symbolName?`, `Value.keyName?` : the value as a name.
* `Value.same` : equality of values across sorts of numbers.

## Design notes

A whole number with too many digits cannot be written, and neither can a value that holds one. The
functions that write values give nothing then.
-/

namespace ElementQuery

open ElementQuery.Text ElementQuery.Number

/-- What the value of a query entry is compared by. -/
inductive Criterion where
  | literal (text : String)
  | pattern (regex : Regex)
  /-- A position, counted from 0. -/
  | index (position : Int)

namespace Criterion

/-- The criterion as text. -/
def text : Criterion → String
  | literal text => text
  | pattern regex => regex.source
  | index position => toString position

/-- Whether the criterion is a regular expression. -/
def isPattern : Criterion → Bool
  | pattern _ => true
  | _ => false

/-- Equality of criteria. -/
def same : Criterion → Criterion → Bool
  | literal a, literal b => a == b
  | pattern a, pattern b => a.same b
  | index a, index b => a == b
  | _, _ => false

/-- The name of the criterion's sort. -/
def sort : Criterion → String
  | literal _ => "Literal"
  | pattern _ => "Pattern"
  | index _ => "Index"

end Criterion

/-- A number or a text, as the members of some enumerations are. -/
inductive Scalar where
  | int (n : Int)
  | float (x : Binary64)
  | text (s : String)

/-- A caller's value. -/
inductive Value where
  | none
  | bool (b : Bool)
  | int (n : Int)
  | float (x : Binary64)
  | text (s : String)
  | regex (r : Regex)
  /-- The member `A` of an enumeration `Sym` that stands for a value, and is none itself. -/
  | symbol (v : Value)
  /-- The member `A` of an enumeration `Sym` of numbers or of texts, which is one of these itself.
  It is written as its name, or as what it is. -/
  | member (scalar : Scalar) (byName : Bool)
  | list (items : List Value)
  | dict (entries : List (Value × Value))
  /-- A criterion made beforehand. -/
  | criterion (c : Criterion)

/-- How a regular expression is shown inside a message; a long source is cut. -/
def Regex.shown (r : Regex) : String :=
  let names := [(r.flags.template, "re.TEMPLATE"), (r.flags.ignoreCase, "re.IGNORECASE"),
    (r.flags.multiline, "re.MULTILINE"), (r.flags.dotAll, "re.DOTALL"),
    (r.flags.verbose, "re.VERBOSE"), (r.flags.ascii, "re.ASCII")]
  let on := names.filterMap fun (on, name) => if on then some name else Option.none
  let source := String.ofList ((quotedChars r.source.toList).take 200)
  "re.compile(" ++ source ++ (if on.isEmpty then "" else ", " ++ String.intercalate "|" on) ++ ")"

/-- How a criterion is shown inside a message. -/
def Criterion.shown? : Criterion → Option String
  | literal text => some ("Literal(value=" ++ quoted text ++ ")")
  | pattern regex => some ("Pattern(regex=" ++ regex.shown ++ ")")
  | index position => ("Index(position=" ++ · ++ ")") <$> writeInt? position

namespace Scalar

/-- A number or a text as a value. -/
def value : Scalar → Value
  | int n => .int n
  | float x => .float x
  | text s => .text s

/-- A number or a text as text. -/
def display? : Scalar → Option String
  | int n => writeInt? n
  | float x => some x.text
  | text s => some s

/-- How a number or a text is shown inside a message. -/
def shown? : Scalar → Option String
  | text s => some (quoted s)
  | scalar => scalar.display?

end Scalar

namespace Value

mutual

/-- How a value is shown inside a message. -/
def shown? : Value → Option String
  | none => some "None"
  | bool b => some (if b then "True" else "False")
  | int n => (Scalar.int n).shown?
  | float x => (Scalar.float x).shown?
  | text s => (Scalar.text s).shown?
  | regex r => some r.shown
  | symbol v => ("<Sym.A: " ++ · ++ ">") <$> v.shown?
  | member scalar _ => ("<Sym.A: " ++ · ++ ">") <$> scalar.shown?
  | list items => ("[" ++ String.intercalate ", " · ++ "]") <$> shownItems? items
  | dict entries =>
    ("\x7b" ++ String.intercalate ", " · ++ "\x7d") <$> shownEntries? entries
  | criterion c => c.shown?

/-- How the items of a list are shown. -/
def shownItems? : List Value → Option (List String)
  | [] => some []
  | v :: rest => do return (← v.shown?) :: (← shownItems? rest)

/-- How keys with their values are shown. -/
def shownEntries? : List (Value × Value) → Option (List String)
  | [] => some []
  | (k, v) :: rest => do
    return ((← k.shown?) ++ ": " ++ (← v.shown?)) :: (← shownEntries? rest)

end

/-- The number or the text that a value is; any other value is itself. -/
def base : Value → Value
  | member scalar _ => scalar.value
  | v => v

/-- A value as text. -/
def display? : Value → Option String
  | text s => some s
  | symbol _ => some "Sym.A"
  | member scalar byName => if byName then some "Sym.A" else scalar.display?
  | v => v.shown?

/-- What a symbol stands for; any other value stands for itself. -/
def meaning : Value → Value
  | symbol v => v
  | member scalar _ => scalar.value
  | v => v

/-- A value as a name: a symbol by what it stands for, a truth value in small letters. -/
def symbolName? (v : Value) : Option String :=
  match v.meaning with
  | bool b => some (if b then "true" else "false")
  | v => v.display?

end Value

/-- A name without the colon it may start with; a colon alone is kept. -/
def dropColon : List Char → List Char
  | ':' :: c :: rest => c :: rest
  | cs => cs

/-- The name that a text is as the key of a query entry. -/
def bareName (s : String) : String := String.ofList (dropColon s.toList)

/-- A value as the key of a query entry. -/
def Value.keyName? (v : Value) : Option String := bareName <$> v.symbolName?

namespace Value

/-- The name of the sort of a value. -/
def sort : Value → String
  | none => "NoneType"
  | bool _ => "bool"
  | int _ => "int"
  | float _ => "float"
  | text _ => "str"
  | regex _ => "Pattern"
  | symbol _ | member .. => "Sym"
  | list _ => "list"
  | dict _ => "dict"
  | criterion c => c.sort

/-- The name of the sort of a value, with its module where it has one. -/
def qualifiedSort : Value → String
  | regex _ => "re.Pattern"
  | v => v.sort

/-- Whether a value counts as true: no value, false, zeros and empty ones do not. -/
def isTruthy (v : Value) : Bool :=
  match v.base with
  | none => false
  | bool b => b
  | int n => n != 0
  | float x => !x.isZero
  | text s => !s.isEmpty
  | list items => !items.isEmpty
  | dict entries => !entries.isEmpty
  | _ => true

/-- The exact number that a value is, infinities and the like left out. -/
def number? (v : Value) : Option (Int × Int) :=
  match v.base with
  | bool b => some (if b then 1 else 0, 0)
  | int n => some (n, 0)
  | float (.finite negative significand exponent) =>
    if 0 ≤ exponent then some (signed negative (significand * Nat.pow 2 exponent.toNat), 0)
    else some (signed negative significand, exponent)
  | _ => Option.none

/-- Whether two numbers, each a factor and a power of two that is not positive, are equal. -/
def sameNumber (a b : Int × Int) : Bool :=
  a.1 * Nat.pow 2 (-b.2).toNat == b.1 * Nat.pow 2 (-a.2).toNat

/-- Whether two values are equal texts or equal numbers. Numbers of different sorts are compared by
what they are. -/
def sameScalar (a b : Value) : Bool :=
  match a.base, b.base with
  | text a, text b => a == b
  | float (.infinite a), float (.infinite b) => a == b
  | _, _ =>
    match a.number?, b.number? with
    | some a, some b => sameNumber a b
    | _, _ => false

mutual

/-- Whether two values are equal. A symbol that is no number and no text is a member of an
enumeration of its own. -/
def same : Value → Value → Bool
  | none, none => true
  | regex a, regex b => a.same b
  | list a, list b => sameItems a b
  | dict a, dict b => a.length == b.length && sameEntries a b
  | criterion a, criterion b => a.same b
  | a, b => sameScalar a b

/-- Whether two lists are equal item by item. -/
def sameItems : List Value → List Value → Bool
  | [], [] => true
  | a :: as, b :: bs => a.same b && sameItems as bs
  | _, _ => false

/-- Whether all entries of the first list are among those of the second. -/
def sameEntries : List (Value × Value) → List (Value × Value) → Bool
  | [], _ => true
  | (k, v) :: rest, bs => bs.any (fun b => k.same b.1 && v.same b.2) && sameEntries rest bs

end

/-- Whether a value may be a key: lists and keyed values may not. -/
def isHashable : Value → Bool
  | list _ | dict _ => false
  | _ => true

/-- Puts an entry among entries: a key that is there keeps its place and gets the new value. -/
def insertEntry (entries : List (Value × Value)) (key value : Value) : List (Value × Value) :=
  if entries.any (·.1.same key) then
    entries.map fun e => if e.1.same key then (e.1, value) else e
  else entries ++ [(key, value)]

/-- Entries in which each key stands once. -/
def mergeEntries (entries : List (Value × Value)) : List (Value × Value) :=
  entries.foldl (fun merged e => insertEntry merged e.1 e.2) []

end Value

end ElementQuery
