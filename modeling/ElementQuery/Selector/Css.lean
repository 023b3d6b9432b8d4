import ElementQuery.Selector.Basic

/-!
# CSS selectors

A query as a CSS selector: the element name, then a check per entry. Attribute values are quoted;
what would end a string or is not allowed in one is escaped. CSS cannot check the text of an
element, and it has no form for a regular expression.

## Main definitions

* `Css.quote` : a text as a CSS string.
* `Css.checks` : the part of a selector behind the element name.
* `Css.selector` : a whole selector, if there is one.
* `Css.path` : the selector of an ancestry, if there is one.
-/

namespace ElementQuery.Css

/-- How a character is written in a string. Line breaks become code point escapes, and a
character that CSS does not allow becomes the replacement character. -/
def escape (c : Char) : List Char :=
  if c = '\\' ∨ c = '\'' then ['\\', c]
  else if c = '\n' then ['\\', 'a', ' ']
  else if c = '\r' then ['\\', 'd', ' ']
  else if c = '\x0c' then ['\\', 'c', ' ']
  else if c = '\x00' then ['\\', 'f', 'f', 'f', 'd', ' ']
  else [c]

/-- The characters of a text as a string. -/
def quoteChars (cs : List Char) : List Char := '\'' :: cs.flatMap escape ++ ['\'']

/-- A text as a string. -/
def quote (s : String) : String := String.ofList (quoteChars s.toList)

/-- The check for an entry. -/
def check (p : Predicate) : Except Fault String :=
  match p.kind with
  | .text => throw (.textInCss p.name)
  | .index => (":nth-child(" ++ · ++ ")") <$> p.criterion.ordinal
  | _ => return "[" ++ p.name ++ "=" ++ quote p.criterion.text ++ "]"

/-- The part of a selector behind the element name. -/
def checks (q : Query) : Except Fault String := do
  q.requireLiterals .css
  return String.join (← q.checks.mapM check)

/-- The selector of a query; there is none if a regular expression is involved. -/
def selector (tag : Value) (q : Query) : Except Fault (Option String) :=
  if tag.isPattern || q.hasPattern then return none
  else do return some ((← elementName tag) ++ (← checks q.withoutTag))

/-- The selector of an ancestry; there is none if a regular expression is involved. -/
def path (a : Ancestry) : Except Fault (Option String) := do
  a.check Query.overrideFault?
  if a.hasPattern then return none
  let selectors ← a.levels.mapM fun q => selector (.text q.tagName) q
  return (selectors.mapM id).map (String.intercalate " ")

end ElementQuery.Css
