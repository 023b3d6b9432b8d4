import ElementQuery.Percent.Conversion

/-!
# Percent formats

A format is text with fields. A field starts with a percent sign; it may name its value in
parentheses, and goes on with flags, a width, a precision and the letter of a conversion. Values
without names are used up in order.

## Main definitions

* `Values` : what fields are filled with.
* `fill` : the text of a format whose fields are filled in.
-/

namespace ElementQuery.Percent

open ElementQuery.Text

/-- What fields are filled with. -/
inductive Values where
  /-- Values in order; each is used once. -/
  | inOrder (values : List Value)
  | named (entries : List (Value × Value))

/-- Where the filling in stands. -/
structure Progress where
  rest : List Char
  pending : List Value
  /-- The values by name, if they have names. -/
  entries : Option (List (Value × Value))

/-- A step of filling in. -/
abbrev Filling := StateT Progress (Except Error)

/-- The next character of the format, if there is one, which is read. -/
def take? : Filling (Option Char) := do
  let p ← get
  match p.rest with
  | [] => return none
  | c :: rest =>
    set { p with rest := rest }
    return some c

/-- Reads the given character, if it comes next. -/
def accept (c : Char) : Filling Bool := do
  let p ← get
  if p.rest.head? = some c then
    set { p with rest := p.rest.drop 1 }
    return true
  else return false

/-- The next value for a field without a name. -/
def nextValue : Filling Value := do
  let p ← get
  match p.pending with
  | [] => throw .tooFewValues
  | v :: pending =>
    set { p with pending := pending }
    return v

/-- Splits a name off at the parenthesis that closes it; parentheses inside it come in pairs. -/
def splitName : (depth : Nat) → List Char → Option (List Char × List Char)
  | _, [] => none
  | depth, c :: rest =>
    if c = ')' ∧ depth = 0 then some ([], rest)
    else
      let depth := if c = '(' then depth + 1 else if c = ')' then depth - 1 else depth
      (splitName depth rest).map fun (name, rest) => (c :: name, rest)

/-- Reads the name of a field behind its opening parenthesis. The value of that name is then the
only one that is pending. -/
def readName : Filling Unit := do
  let p ← get
  match p.entries with
  | none => throw .needsNames
  | some entries =>
    match splitName 0 p.rest with
    | none => throw .unclosedName
    | some (name, rest) =>
      match entries.find? (·.1.same (.text (String.ofList name))) with
      | none => throw (.noSuchName (String.ofList name))
      | some (_, v) => set { p with rest := rest, pending := [v] }

/-- Reads flags, in any order. -/
def readFlags : (steps : Nat) → Directive → Filling Directive
  | 0, d => return d
  | steps + 1, d => do
    if ← accept '-' then readFlags steps { d with left := true }
    else if ← accept '+' then readFlags steps { d with plus := true }
    else if ← accept ' ' then readFlags steps { d with blank := true }
    else if ← accept '#' then readFlags steps { d with long := true }
    else if ← accept '0' then readFlags steps { d with zeros := true }
    else return d

/-- Reads a whole number below a bound, or takes it from a value if there is an asterisk. -/
def readSize (bound : Nat) (tooLarge : Error) : Filling Int := do
  if ← accept '*' then
    match (← nextValue).base with
    | .int n => if n < -bound ∨ bound ≤ n then throw tooLarge else return n
    | .bool b => return if b then 1 else 0
    | _ => throw .notAWidth
  else
    let p ← get
    let digits := p.rest.takeWhile isAsciiDigit
    set { p with rest := p.rest.drop digits.length }
    let n := Number.ofDigitList (digits.map fun c => c.toNat - '0'.toNat)
    if bound ≤ n then throw tooLarge
    return n

/-- Reads a width; a negative one fills up on the right. -/
def readWidth (d : Directive) : Filling Directive := do
  let n ← readSize (Nat.pow 2 63) .widthTooLarge
  return { d with width := n.natAbs, left := d.left || n < 0 }

/-- Reads a precision, if there is one; a negative one counts as zero. -/
def readPrecision (d : Directive) : Filling Directive := do
  if ← accept '.' then
    let n ← readSize (Nat.pow 2 31) .precisionTooLarge
    return { d with precision := some n.toNat }
  else return d

/-- Skips a letter that says how long numbers are. -/
def skipSize : Filling Unit := do
  if ← accept 'h' then return
  if ← accept 'l' then return
  let _ ← accept 'L'

/-- Reads a field behind its percent sign and fills it in. A second percent sign right behind the
first one stands for itself. `length` is that of the format. -/
def fillField (length : Nat) : Filling (List Char) := do
  if ← accept '%' then return ['%']
  if ← accept '(' then readName
  let d ← readFlags length {}
  let d ← readPrecision (← readWidth d)
  skipSize
  match ← take? with
  | none => throw .unfinished
  | some c =>
    let position := length - (← get).rest.length - 1
    { d with conversion := c }.write position (← nextValue)

/-- Fills in all fields. -/
def fillAll (length : Nat) : (steps : Nat) → Filling (List Char)
  | 0 => return []
  | steps + 1 => do
    match ← take? with
    | none => return []
    | some '%' => return (← fillField length) ++ (← fillAll length steps)
    | some c => return c :: (← fillAll length steps)

/-- The text of a format whose fields are filled in. Values in order must all be used; for a field
without a name, values with names are one value. -/
def fill (format : String) (values : Values) : Except Error String := do
  let cs := format.toList
  let start : Progress := match values with
    | .inOrder values => ⟨cs, values, none⟩
    | .named entries => ⟨cs, [.dict entries], some entries⟩
  let (text, stop) ← (fillAll cs.length (cs.length + 1)).run start
  if stop.entries.isNone && !stop.pending.isEmpty then throw .tooManyValues
  return String.ofList text

end ElementQuery.Percent
