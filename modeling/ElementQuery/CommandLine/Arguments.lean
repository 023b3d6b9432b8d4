import ElementQuery.CommandLine.Similar
import ElementQuery.Text.Case
import ElementQuery.Text.Quoted
import ElementQuery.Text.Word

/-!
# Command line arguments

Options and operands. A long option may have its value behind an equals sign, a short one right
behind its letter; otherwise the value is the next argument. Two dashes end the options. Of several
values for one option the last one counts.

## Main definitions

* `OptionForm`, `ValueForm` : the form of an option and of its value.
* `UsageFault` : what is wrong with arguments.
* `Arguments`, `readArguments` : arguments, taken apart.
* `Arguments.settle` : the values of options, checked.
-/

namespace ElementQuery.CommandLine

open ElementQuery.Text

/-- The form of the value of an option. -/
inductive ValueForm where
  | nothing
  /-- One of some names, perhaps in any letter case. -/
  | choice (names : List String) (anyCase : Bool)
  | file
  deriving DecidableEq, Repr

/-- The form of an option. -/
structure OptionForm where
  long : String
  /-- The letter of the short name, if there is one. -/
  short : Option Char := none
  value : ValueForm := .nothing
  deriving DecidableEq, Repr

namespace OptionForm

/-- Whether the option has a value. -/
def takesValue (o : OptionForm) : Bool := o.value != .nothing

/-- The names of an option, as they stand in a message. -/
def hint (o : OptionForm) : String :=
  "'" ++ o.long ++ "'" ++ match o.short with
    | none => ""
    | some c => " / '-" ++ String.singleton c ++ "'"

end OptionForm

/-- What is wrong with arguments. -/
inductive UsageFault where
  /-- There is no such option; these names are similar. -/
  | noSuchOption (name : String) (similar : List String)
  /-- A value is given to an option that has none. -/
  | valueNotWanted (option : String)
  /-- An option has no value although it needs one. -/
  | valueMissing (option : String)
  /-- The value of an option is none of the choices. -/
  | notAChoice (hint value : String) (choices : List String)
  /-- The value of an option is a directory. -/
  | isDirectory (hint path : String)
  | operandMissing (name : String)
  | extraOperands (operands : List String)
  | commandMissing
  /-- There is no such command; these names are similar. -/
  | noSuchCommand (name : String) (similar : List String)
  | badOperand (name complaint : String)
  deriving DecidableEq, Repr

/-- The question whether one of some names was meant, after a blank. -/
def suggestion : List String → String
  | [] => ""
  | [name] => " Did you mean " ++ quoted name ++ "?"
  | names =>
    " (Did you mean one of: " ++ String.intercalate ", " (names.map quoted) ++ "?)"

/-- The wording of a fault. -/
def UsageFault.message : UsageFault → String
  | noSuchOption name similar => "No such option " ++ quoted name ++ "." ++ suggestion similar
  | valueNotWanted option => "Option " ++ quoted option ++ " does not take a value."
  | valueMissing option => "Option " ++ quoted option ++ " requires an argument."
  | notAChoice hint value choices =>
    "Invalid value for " ++ hint ++ ": " ++ quoted value ++ " is not one of "
      ++ String.intercalate ", " (choices.map quoted) ++ "."
  | isDirectory hint path =>
    "Invalid value for " ++ hint ++ ": File " ++ quoted path ++ " is a directory."
  | operandMissing name => "Missing argument '" ++ name ++ "'."
  | extraOperands operands =>
    "Got unexpected extra argument" ++ (if operands.length = 1 then "" else "s") ++ " ("
      ++ String.intercalate " " operands ++ ")"
  | commandMissing => "Missing command."
  | noSuchCommand name similar => "No such command " ++ quoted name ++ "." ++ suggestion similar
  | badOperand name complaint => "Invalid value for " ++ name ++ ": " ++ complaint

/-- The use of an option, with its value if it has one. -/
structure Use where
  option : OptionForm
  value : String

/-- What one argument with options gives. -/
inductive Word where
  | complete (uses : List Use)
  /-- Uses of options, and one that has its value in the next argument; the option is called by
  this name. -/
  | open (uses : List Use) (option : OptionForm) (name : String)

/-- Reads short options, each a letter. -/
def readLetters (forms : List OptionForm) : List Char → Except UsageFault Word
  | [] => return .complete []
  | c :: rest => do
    let name := String.ofList ['-', c]
    match forms.find? (·.short == some c) with
    | none => throw (.noSuchOption name [])
    | some o =>
      if o.takesValue then
        if rest.isEmpty then return .open [] o name
        else return .complete [⟨o, String.ofList rest⟩]
      else
        match ← readLetters forms rest with
        | .complete uses => return .complete (⟨o, ""⟩ :: uses)
        | .open uses o' name => return .open (⟨o, ""⟩ :: uses) o' name

/-- Reads an argument that starts with a dash and has more behind it. -/
def readWord (forms : List OptionForm) (arg : String) : Except UsageFault Word :=
  let name := String.ofList (arg.toList.takeWhile (· != '='))
  let given := arg.toList.dropWhile (· != '=')
  match forms.find? (·.long == name) with
  | some o =>
    match o.takesValue, given with
    | true, [] => return .open [] o name
    | true, _ :: value => return .complete [⟨o, String.ofList value⟩]
    | false, [] => return .complete [⟨o, ""⟩]
    | false, _ => throw (.valueNotWanted name)
  | none =>
    match arg.toList with
    | '-' :: '-' :: _ => throw (.noSuchOption name (similarNames name (forms.map (·.long))))
    | cs => readLetters forms (cs.drop 1)

/-- Arguments, taken apart. -/
structure Arguments where
  uses : List Use
  operands : List String

/-- Whether an argument is meant as options: a dash with more behind it. -/
def isOptionLike (arg : String) : Bool :=
  match arg.toList with
  | '-' :: _ :: _ => true
  | _ => false

/-- Takes arguments apart. Unless options and operands may be mixed, the first operand ends the
options. -/
def readArguments (forms : List OptionForm) (mixed : Bool) :
    List String → Except UsageFault Arguments
  | [] => return ⟨[], []⟩
  | arg :: rest => do
    if arg = "--" then return ⟨[], rest⟩
    else if !isOptionLike arg then
      if mixed then
        let more ← readArguments forms mixed rest
        return { more with operands := arg :: more.operands }
      else return ⟨[], arg :: rest⟩
    else
      match ← readWord forms arg with
      | .complete uses =>
        let more ← readArguments forms mixed rest
        return { more with uses := uses ++ more.uses }
      | .open uses o name =>
        match rest with
        | [] => throw (.valueMissing name)
        | value :: rest =>
          let more ← readArguments forms mixed rest
          return { more with uses := uses ++ ⟨o, value⟩ :: more.uses }

/-- The value of an option, checked: for a choice the name as it is listed. -/
def OptionForm.check (isDirectory : String → Bool) (o : OptionForm) (value : String) :
    Except UsageFault String :=
  match o.value with
  | .nothing => return value
  | .file => if isDirectory value then throw (.isDirectory o.hint value) else return value
  | .choice names anyCase =>
    let form (s : String) := if anyCase then lower s else s
    match names.find? (form · == form value) with
    | some name => return name
    | none => throw (.notAChoice o.hint value (names.map form))

namespace Arguments

/-- The options that are used, each once, in the order of their first use. -/
def options (a : Arguments) : List OptionForm := (a.uses.map (·.option)).eraseDups

/-- The last value of an option. -/
def lastValue (a : Arguments) (o : OptionForm) : String :=
  ((a.uses.filter (·.option == o)).getLast?.map (·.value)).getD ""

/-- The values of options by long name, checked in the order of first use. -/
def settle (isDirectory : String → Bool) (a : Arguments) :
    Except UsageFault (List (String × String)) :=
  a.options.mapM fun o => do return (o.long, ← o.check isDirectory (a.lastValue o))

end Arguments

end ElementQuery.CommandLine
