import ElementQuery.Selector.Basic

/-!
# XPaths

A query as an XPath: a search at any depth for the element name, then a check per entry. XPath 1.0
has no escapes, so a text with both quotes is put together by `concat`.

## Main definitions

* `XPath.literal` : a text as an XPath expression.
* `XPath.checks` : the part of an XPath behind the element name.
* `XPath.selector` : a whole XPath, if there is one.
* `XPath.path` : the XPath of an ancestry, if there is one.
-/

namespace ElementQuery.XPath

/-- The two quotes. -/
inductive Quote where
  | single
  | double
  deriving DecidableEq, Repr

namespace Quote

/-- The character of a quote. -/
def char : Quote → Char
  | single => '\''
  | double => '"'

/-- The other quote. -/
def other : Quote → Quote
  | single => double
  | double => single

/-- Puts quotes around characters. -/
def around (quote : Quote) (cs : List Char) : List Char := quote.char :: cs ++ [quote.char]

end Quote

/-- A text cut into single apostrophes and the longest pieces without one. -/
def pieces : List Char → List (List Char)
  | [] => []
  | c :: rest =>
    if c = '\'' then ['\''] :: pieces rest
    else
      match pieces rest with
      | [] => [[c]]
      | piece :: further =>
        if piece = ['\''] then [c] :: piece :: further else (c :: piece) :: further

/-- A piece in the quotes that it does not hold. -/
def quotePiece (piece : List Char) : List Char :=
  (if piece = ['\''] then Quote.double else Quote.single).around piece

/-- The characters of a text as an expression: in the preferred quotes if it does not hold them,
else in the other ones, else put together from pieces. -/
def literalChars (prefer : Quote) (cs : List Char) : List Char :=
  if !cs.contains prefer.char then prefer.around cs
  else if !cs.contains prefer.other.char then prefer.other.around cs
  else "concat(".toList ++ ", ".toList.intercalate ((pieces cs).map quotePiece) ++ [')']

/-- A text as an expression. -/
def literal (prefer : Quote) (s : String) : String :=
  String.ofList (literalChars prefer s.toList)

/-- The check for an entry. -/
def check (p : Predicate) : Except Fault String :=
  match p.kind with
  | .text => return "[text()=" ++ literal .double p.criterion.text ++ "]"
  | .index => ("[" ++ · ++ "]") <$> p.criterion.ordinal
  | _ => return "[@" ++ p.name ++ "=" ++ literal .single p.criterion.text ++ "]"

/-- The part of an XPath behind the element name. -/
def checks (q : Query) : Except Fault String := do
  q.requireLiterals .xpath
  return String.join (← q.checks.mapM check)

/-- The XPath of a query; there is none if a regular expression is involved. -/
def selector (tag : Value) (q : Query) (scope : Scope) : Except Fault (Option String) :=
  if tag.isPattern || q.hasPattern then return none
  else do return some (scope.lead ++ "//" ++ (← elementName tag) ++ (← checks q.withoutTag))

/-- The XPaths of levels, the first one in the given scope and the others below it. -/
def levelSelectors (scope : Scope) : List Query → Except Fault (List (Option String))
  | [] => return []
  | q :: rest => do
    let first ← selector (.text q.tagName) q scope
    let further ← rest.mapM fun q => selector (.text q.tagName) q .document
    return first :: further

/-- The XPath of an ancestry; there is none if a regular expression is involved. -/
def path (a : Ancestry) (scope : Scope) : Except Fault (Option String) := do
  a.check fun q => q.overrideFault?.or q.metaTagFault?
  if a.hasPattern then return none
  return ((← levelSelectors scope a.levels).mapM id).map String.join

end ElementQuery.XPath
