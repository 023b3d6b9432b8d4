import ElementQuery.Regex.Cursor

/-!
# Reading regular expressions

From the text of an expression to its tree, with the first fault of a malformed text.

## Main definitions

* `readSet`, `readRounds`, `readFlags` : the parts of an expression.
* `readAlternatives` : alternatives up to a closing parenthesis or the end.
* `readExpression` : a whole text.

## Design notes

The functions on nested groups count down a number of steps that `readExpression` takes from the
length of the text: each step reads at least one token or ends a list, so the steps cannot run
out before the text does.
-/

namespace ElementQuery.Regex

open ElementQuery.Text

/-- Reads one member of a set or the end of a range; `token` has been read already. -/
def readSetItem (token : List Char) : Reading SetItem :=
  match token with
  | ['\\', c] => readSetEscape c
  | c :: _ => pure (.code c.toNat)
  | [] => pure (.code 0)

/-- Refuses a range whose ends are not characters in ascending order. -/
def makeRange (first last : List Char) (low high : SetItem) : Reading SetItem := do
  match low, high with
  | .code low, .code high =>
    if low ≤ high then return .range low high
  | _, _ => pure ()
  failBack (.badRange (String.ofList first) (String.ofList last))
    (first.length + 1 + last.length)

/-- Reads the members of a set that starts at `start`, up to its closing bracket. -/
def readSetItems (start : Nat) : (steps : Nat) → List SetItem → Reading (List SetItem)
  | 0, _ => failAt .unterminatedSet start
  | steps + 1, items => do
    let token ← take
    if token.isEmpty then failAt .unterminatedSet start
    if token = [']'] && !items.isEmpty then return items.reverse
    let item ← readSetItem token
    if ← accept '-' then
      let last ← take
      if last.isEmpty then failAt .unterminatedSet start
      if last = [']'] then return (.code 45 :: item :: items).reverse
      let range ← makeRange token last item (← readSetItem last)
      readSetItems start steps (range :: items)
    else readSetItems start steps (item :: items)

/-- Reads a set behind its opening bracket. -/
def readSet : Reading Node := do
  let start := (← get).position - 1
  let negated ← accept '^'
  let items ← readSetItems start ((← get).rest.length + 1) []
  return .set negated items

/-- Counts of rounds from this number on are out of range. -/
def maxRounds : Nat := Nat.pow 2 32 - 1

/-- The count that digits spell; `none` without digits. -/
def roundCount? (digits : List Char) : Reading (Option Nat) := do
  if digits.isEmpty then return none
  if Number.maxDigits < digits.length then throw (.repetitionTooLong digits.length)
  let count := ofDigits 10 digits
  if maxRounds ≤ count then throw .repetitionTooLarge
  return some count

/-- Reads the bounds of a repetition behind an opening brace. Without a proper closing brace the
opening one stands for itself and nothing is read. -/
def readBounds : Reading (Option (Nat × Option Nat)) := do
  let start ← get
  if start.token = ['}'] then return none
  let low ← takeWhile (isOne isAsciiDigit)
  let high ← if ← accept ',' then takeWhile (isOne isAsciiDigit) else pure low
  if !(← accept '}') then
    set start
    return none
  let least ← roundCount? low
  let most ← roundCount? high
  if let (some least, some most) := (least, most) then
    if most < least then failAt .leastAboveMost start.position
  return some (least.getD 0, most)

/-- Reads the bounds behind a repetition sign. -/
def readRounds (sign : Char) : Reading (Option (Nat × Option Nat)) :=
  match sign with
  | '?' => pure (some (0, some 1))
  | '*' => pure (some (0, none))
  | '+' => pure (some (1, none))
  | _ => readBounds

/-- Reads the sign behind a repetition that changes its greed. -/
def readGreed : Reading Greed := do
  if ← accept '?' then return .lazy
  if ← accept '+' then return .possessive
  return .greedy

/-- Repeats the last of the parts read so far. The sign of the repetition ended at `place`. -/
def repeatLast (place : Nat) (bounds : Nat × Option Nat) (parts : List Node) :
    Reading (List Node) := do
  match parts with
  | [] => failAt .nothingToRepeat (place - 1)
  | last :: earlier =>
    if last.isAnchor then failAt .nothingToRepeat (place - 1)
    if last.isRounds then failAt .multipleRepeat (place - 1)
    return .rounds (← readGreed) bounds.1 bounds.2 last :: earlier

/-- What the letters behind `(?` ask for. -/
inductive FlagRequest where
  | whole
  | group (added removed : Flags)

/-- Whether a token is a letter that stands for a flag. -/
def isFlagLetter : List Char → Bool
  | [c] => c == 'L' || (Flags.none.set? c).isSome
  | _ => false

/-- The complaint about a token in the place of a flag letter. -/
def failFlag {α : Type} (token : List Char) (what : String) : Reading α :=
  failBack (if isOne isLetter token then .unknownFlag else .missing what) token.length

/-- Reads the letters that turn flags on, from `token` on; also says what ended them. -/
def readAddedFlags : (steps : Nat) → Flags → List Char → Reading (Flags × List Char)
  | 0, flags, token => pure (flags, token)
  | steps + 1, flags, token => do
    if token = ['L'] then failBack .localeFlag 0
    let flags := token.foldl (fun flags c => (flags.set? c).getD flags) flags
    if (token = ['a'] || token = ['u']) && flags.ascii && flags.unicode then
      failBack .incompatibleFlags 0
    let next ← take
    if next.isEmpty then failBack (.missing "-, : or )") 0
    if next = [')'] || next = ['-'] || next = [':'] then return (flags, next)
    if !isFlagLetter next then failFlag next "-, : or )"
    readAddedFlags steps flags next

/-- Reads the letters that turn flags off, from `token` on, up to a colon. -/
def readRemovedFlags : (steps : Nat) → Flags → List Char → Reading Flags
  | 0, flags, _ => pure flags
  | steps + 1, flags, token => do
    if token = ['a'] || token = ['u'] || token = ['L'] then failBack .classFlagTurnedOff 0
    let flags := token.foldl (fun flags c => (flags.set? c).getD flags) flags
    let next ← take
    if next.isEmpty then failBack (.missing ":") 0
    if next = [':'] then return flags
    if !isFlagLetter next then failFlag next ":"
    readRemovedFlags steps flags next

/-- Reads flags, from `token` on, up to the parenthesis or colon that ends them. -/
def readFlags (token : List Char) : Reading FlagRequest := do
  let steps := (← get).rest.length + 1
  let (added, ending) ← if token = ['-'] then pure (Flags.none, token)
    else readAddedFlags steps Flags.none token
  if ending = [')'] then
    modify fun c => { c with flags := c.flags.union added }
    return .whole
  if added.template then failBack (.scopedGlobalFlag true) 1
  let removed ← if ending = ['-'] then do
      let first ← take
      if first.isEmpty then failBack (.missing "flag") 0
      if !isFlagLetter first then failFlag first "flag"
      readRemovedFlags steps Flags.none first
    else pure Flags.none
  if removed.template then failBack (.scopedGlobalFlag false) 1
  if added.meets removed then failBack .flagOnAndOff 1
  return .group added removed

/-- Refuses a text that is no identifier; it ended one character before the next token. -/
def checkName (name : List Char) : Reading Unit := do
  if !isIdentifier name then failBack (.badGroupName (String.ofList name)) (name.length + 1)

/-- The number of the group with a name; the name ended one character before the next token. -/
def groupNamed (name : List Char) : Reading Nat := do
  match (← get).names.lookup (String.ofList name) with
  | some number => return number
  | none => failBack (.unknownGroupName (String.ofList name)) (name.length + 1)

/-- Opens a group that captures. -/
def openGroup (name : Option (List Char)) : Reading Nat := do
  let c ← get
  let number := c.widths.length
  set { c with widths := c.widths ++ [none] }
  if let some name := name then
    let text := String.ofList name
    if let some previous := c.names.lookup text then
      failBack (.redefinedGroup text number previous) (name.length + 1)
    modify fun c => { c with names := (text, number) :: c.names }
  return number

/-- The width of a tree as far as groups are known. -/
def Cursor.widthOf (c : Cursor) (body : Node) : Width :=
  body.width fun n => (c.widths[n]?.join).getD ⟨0, some 0⟩

/-- Closes a group that captures. -/
def closeGroup (number : Nat) (body : Node) : Reading Unit :=
  modify fun c => { c with widths := c.widths.set number (some (c.widthOf body)) }

/-- Reads the closing parenthesis of the group that starts at `start`. -/
def expectClosing (start : Nat) : Reading Unit := do
  if !(← accept ')') then failAt .unterminatedGroup start

/-- Reads the condition of a conditional group: the number or name of a group. -/
def readCondition : Reading Nat := do
  let name ← readName ')' "group name"
  let number ← if isIdentifier name then groupNamed name else do
    let some number := Number.readInt? (String.ofList name)
      | failBack (.badGroupName (String.ofList name)) (name.length + 1)
    if number < 0 then failBack (.badGroupName (String.ofList name)) (name.length + 1)
    if number = 0 then failBack .badGroupNumber (name.length + 1)
    if Nat.pow 2 30 - 1 ≤ number then
      failBack (.invalidGroupReference number.toNat) (name.length + 1)
    modify fun c =>
      if (c.conditions.lookup number.toNat).isSome then c
      else { c with
        conditions := c.conditions ++ [(number.toNat, c.position - name.length - 1)] }
    pure number.toNat
  checkLookbehindGroup number
  return number

/-- What the characters behind an opening parenthesis announce. -/
inductive GroupHead where
  /-- Nothing that matches: a comment, or flags for the whole expression. -/
  | nothing
  | flags
  | reference (number : Nat)
  /-- A body to look ahead or back for. -/
  | look (behind negated : Bool)
  | conditional (number : Nat)
  | atomic
  /-- A body, perhaps captured, perhaps under a name, perhaps with flags. -/
  | body (capture : Bool) (name : Option (List Char)) (added removed : Flags)

/-- Reads what follows `(?P`. -/
def readNamedHead : Reading GroupHead := do
  if ← accept '<' then
    let name ← readName '>' "group name"
    checkName name
    return .body true (some name) Flags.none Flags.none
  if ← accept '=' then
    let name ← readName ')' "group name"
    checkName name
    let number ← groupNamed name
    if (← get).widths[number]?.join.isNone then failBack .openGroup (name.length + 1)
    checkLookbehindGroup number
    return .reference number
  let token ← take
  if token.isEmpty then failBack .unexpectedEnd 0
  failBack (.unknownExtension ("?P" ++ String.ofList token)) (token.length + 2)

/-- Reads what follows the opening parenthesis at `start`. -/
def readGroupHead (start : Nat) : Reading GroupHead := do
  if !(← accept '?') then return .body true none Flags.none Flags.none
  let token ← take
  if token.isEmpty then failBack .unexpectedEnd 0
  if token = ['P'] then return ← readNamedHead
  if token = [':'] then return .body false none Flags.none Flags.none
  if token = ['#'] then
    let _ ← takeWhile (· != [')'])
    if !(← accept ')') then failAt .unterminatedComment start
    return .nothing
  if token = ['='] then return .look false false
  if token = ['!'] then return .look false true
  if token = ['<'] then
    let sign ← take
    if sign.isEmpty then failBack .unexpectedEnd 0
    if sign = ['='] then return .look true false
    if sign = ['!'] then return .look true true
    failBack (.unknownExtension ("?<" ++ String.ofList sign)) (sign.length + 2)
  if token = ['('] then return .conditional (← readCondition)
  if token = ['>'] then return .atomic
  if token = ['-'] || isFlagLetter token then
    match ← readFlags token with
    | .whole => return .flags
    | .group added removed => return .body false none added removed
  failBack (.unknownExtension ("?" ++ String.ofList token)) (token.length + 1)

/-- The blanks that a verbose expression skips. -/
def isVerboseBlank (c : Char) : Bool :=
  c == ' ' || c == '\t' || c == '\n' || c == '\r' || c == '\x0b' || c == '\x0c'

/-- Remembers at the start of a looking back how many groups there are. -/
def enterLook (behind : Bool) : Reading (Option Nat) := do
  let c ← get
  if behind && c.lookbehindGroups.isNone then
    set { c with lookbehindGroups := some c.widths.length }
  return c.lookbehindGroups

/-- Forgets at the end of the outermost looking back what was remembered. -/
def leaveLook (behind : Bool) (outer : Option Nat) : Reading Unit :=
  modify fun c => if behind && outer.isNone then { c with lookbehindGroups := none } else c

mutual

/-- Reads alternatives, up to a closing parenthesis or the end. At the top the flags of the whole
expression may change between them. -/
def readAlternatives : (steps : Nat) → (verbose top : Bool) → Reading Node
  | 0, _, _ => failBack .unexpectedEnd 0
  | steps + 1, verbose, top => do
    let first ← readSequence steps verbose top []
    readFurtherAlternatives steps verbose top first

/-- Reads the alternatives that follow `earlier`. -/
def readFurtherAlternatives : (steps : Nat) → (verbose top : Bool) → Node → Reading Node
  | 0, _, _, earlier => pure earlier
  | steps + 1, verbose, top, earlier => do
    if ← accept '|' then
      let whole := (← get).flags
      let verbose := if top then whole.verbose else verbose
      let next ← readSequence steps verbose false []
      readFurtherAlternatives steps verbose top (.alt earlier next)
    else return earlier

/-- Reads the parts of one alternative, behind the `parts` read so far, the last one first. Only
the first alternative at the top may set flags for the whole expression. -/
def readSequence : (steps : Nat) → (verbose first : Bool) → List Node → Reading Node
  | 0, _, _, parts => pure (.ofList parts.reverse)
  | steps + 1, verbose, first, parts => do
    let token := (← get).token
    if token.isEmpty || token = ['|'] || token = [')'] then return .ofList parts.reverse
    advance
    if verbose && isOne isVerboseBlank token then
      return ← readSequence steps verbose first parts
    if verbose && token = ['#'] then
      let _ ← takeWhile (· != ['\n'])
      advance
      return ← readSequence steps verbose first parts
    match token with
    | ['\\', c] => readSequence steps verbose first ((← readEscape c) :: parts)
    | ['['] => readSequence steps verbose first ((← readSet) :: parts)
    | ['.'] => readSequence steps verbose first (.any :: parts)
    | ['^'] => readSequence steps verbose first (.anchor .start :: parts)
    | ['$'] => readSequence steps verbose first (.anchor .finish :: parts)
    | ['('] =>
      let start := (← get).position - 1
      match ← readGroupHead start with
      | .nothing => readSequence steps verbose first parts
      | .flags =>
        if !first || !parts.isEmpty then failAt .globalFlagsNotFirst start
        readSequence steps (← get).flags.verbose first parts
      | head =>
        let node ← readGroupBody steps verbose start head
        readSequence steps verbose first (node :: parts)
    | [c] =>
      if c = '*' || c = '+' || c = '?' || c = '{' then
        let place := (← get).position
        match ← readRounds c with
        | none => readSequence steps verbose first (.code c.toNat :: parts)
        | some bounds =>
          readSequence steps verbose first (← repeatLast place bounds parts)
      else readSequence steps verbose first (.code c.toNat :: parts)
    | _ => return .ofList parts.reverse

/-- Reads what a group announced by `head` holds, and its closing parenthesis. -/
def readGroupBody : (steps : Nat) → (verbose : Bool) → (start : Nat) → GroupHead → Reading Node
  | 0, _, start, _ => failAt .unterminatedGroup start
  | steps + 1, verbose, start, head => do
    match head with
    | .nothing | .flags => return .empty
    | .reference number => return .backreference number
    | .look behind negated =>
      let outer ← enterLook behind
      let body ← readAlternatives steps verbose false
      leaveLook behind outer
      expectClosing start
      return .look behind negated body
    | .conditional number =>
      let yes ← readSequence steps verbose false []
      let no ← if ← accept '|' then do
          let no ← readSequence steps verbose false []
          if (← get).token = ['|'] then failBack .tooManyBranches 0
          pure no
        else pure .empty
      expectClosing start
      return .conditional number yes no
    | .atomic =>
      let body ← readAlternatives steps verbose false
      expectClosing start
      return .atomic body
    | .body capture name added removed =>
      let number ← if capture then some <$> openGroup name else pure none
      let inner := (verbose || added.verbose) && !removed.verbose
      let body ← readAlternatives steps inner false
      expectClosing start
      if let some number := number then closeGroup number body
      return .group number added removed body

end

/-- Reads a whole expression: its tree, its flags and the widths of its groups. -/
def readExpression (characterNamed : String → Option Nat) (flags : Flags) (source : String) :
    Except Error (Node × Flags × (Nat → Width)) := do
  let chars := source.toList
  let start : Cursor := ⟨source, chars, 0, flags, [none], [], none, [], characterNamed⟩
  let reading : Reading Node := do
    checkToken
    let node ← readAlternatives (3 * chars.length + 3) flags.verbose true
    let c ← get
    if c.flags.ascii && c.flags.unicode then throw .asciiAndUnicode
    if !c.token.isEmpty then failBack .unbalancedParenthesis 0
    for (number, position) in c.conditions do
      if c.widths.length ≤ number then failAt (.invalidGroupReference number) position
    return node
  let (node, c) ← reading.run start
  return (node, c.flags, fun n => (c.widths[n]?.join).getD ⟨0, some 0⟩)

end ElementQuery.Regex
