import ElementQuery.Notation.Error

/-!
# From texts to forms

A text in the query notation is a map or a vector of maps. It is read from left to right by a
machine with five stages; at each stage only the tokens that fit are looked for first, and any
other token is looked for only to name it in the complaint.

## Main definitions

* `Entry`, `Form` : the structure of a text.
* `Stage` : how far the reading of a form has come.
* `Stage.accepts`, `Stage.step` : which tokens can follow, and where they lead.
* `Stage.scans` : which tokens are looked for first.
* `Form.read` : the form of a text, or the first fault.

## Design notes

Behind the closing brace of a map, the scanner does not know whether the map stands alone. It
looks for what can follow a map in a vector, although only the end of the text can follow a map
that stands alone; this shows in what the complaint about a stray character expects.
-/

namespace ElementQuery.Notation

/-- A key and its value. -/
structure Entry where
  key : Token
  value : Token
  deriving DecidableEq, Repr

/-- The structure of a text. -/
inductive Form where
  | map (entries : List Entry)
  | vector (maps : List (List Entry))
  deriving DecidableEq, Repr

/-- How far the reading of a form has come. The maps of a vector that are complete are kept in
`outer`; there is none outside of a vector. -/
inductive Stage where
  | start
  /-- In a map, before a key or the end of the map. -/
  | entries (outer : Option (List (List Entry))) (read : List Entry)
  | value (outer : Option (List (List Entry))) (read : List Entry) (key : Token)
  /-- In a vector, before a map or the end of the vector. -/
  | maps (read : List (List Entry))
  | done (form : Form)
  deriving DecidableEq, Repr

namespace Stage

/-- The terminals that can follow. -/
def accepts : Stage → Expected
  | start => [.openMap, .openVector]
  | entries .. => [.keyword, .closeMap]
  | value .. => [.keyword, .regex, .integer, .string]
  | maps _ => [.openMap, .closeVector]
  | done _ => [.endOfText]

/-- The terminals that are looked for first. -/
def scans : Stage → Expected
  | done (.map _) => [.openMap, .closeVector]
  | done (.vector _) => []
  | stage => stage.accepts

/-- Behind the closing brace of a map. -/
def closeMap (outer : Option (List (List Entry))) (read : List Entry) : Stage :=
  match outer with
  | none => done (.map read)
  | some earlier => maps (earlier ++ [read])

/-- Where a token leads, if it fits. -/
def step (stage : Stage) (token : Token) : Option Stage :=
  match stage, token.terminal with
  | start, .openMap => some (entries none [])
  | start, .openVector => some (maps [])
  | entries outer read, .keyword => some (value outer read token)
  | entries outer read, .closeMap => some (closeMap outer read)
  | value outer read key, .keyword
  | value outer read key, .string
  | value outer read key, .regex
  | value outer read key, .integer => some (entries outer (read ++ [⟨key, token⟩]))
  | maps read, .openMap => some (entries (some read) [])
  | maps read, .closeVector => some (done (.vector read))
  | _, _ => none

/-- The form, if it is complete. -/
def form? : Stage → Option Form
  | done form => some form
  | _ => none

/-- A token leads on exactly when it can follow. -/
theorem isSome_step {stage : Stage} {token : Token} :
    (stage.step token).isSome ↔ token.terminal ∈ stage.accepts ∧ token.terminal ≠ .endOfText := by
  cases stage <;> cases h : token.terminal <;> simp [step, accepts, h]

end Stage

/-- Reads on at a stage, with the unread text `cs` at `place`, the last token having started at
`last`. -/
def Form.readFrom (stage : Stage) (last place : Place) (cs : List Char) : Except Error Form :=
  let here := place.after (cs.takeWhile isSeparator)
  match _hrest : skipSeparators cs with
  | [] =>
    match stage.form? with
    | some form => .ok form
    | none => .error (.unexpectedToken ⟨.endOfText, [], last⟩ stage.accepts)
  | c :: rest =>
    match _hscan : scan? stage.scans (c :: rest) with
    | some (terminal, lexeme, next) =>
      let token : Token := ⟨terminal, lexeme, here⟩
      match stage.step token with
      | some stage => Form.readFrom stage here (here.after lexeme) next
      | none => .error (.unexpectedToken token stage.accepts)
    | none =>
      match scan? Terminal.all (c :: rest) with
      | some (terminal, lexeme, _) =>
        .error (.unexpectedToken ⟨terminal, lexeme, here⟩ stage.accepts)
      | none => .error (.unexpectedCharacter c here stage.scans)
termination_by cs.length
decreasing_by
  have h₁ := length_lt_of_scan? _hscan
  have h₂ := length_skipSeparators_le cs
  rw [_hrest] at h₂
  exact Nat.lt_of_lt_of_le h₁ h₂

/-- The form of a text, or its first syntactic fault. -/
def Form.read (text : String) : Except Error Form :=
  Form.readFrom .start Place.start Place.start text.toList

end ElementQuery.Notation
