import ElementQuery.Json.Reader
import ElementQuery.Settings.Check
import ElementQuery.Text.Utf8

/-!
# Settings files

The settings in a file: UTF-8 text in which any line break counts as a line feed, and in it a JSON
object. Without a path there are only the defaults.

## Main definitions

* `tidyPath` : a path without what does not change where it leads.
* `unifyBreaks` : a text with line feeds for line breaks.
* `Settings.LoadError` : why there are no settings.
* `Settings.ofBytes`, `Settings.load` : the settings in a file.
-/

namespace ElementQuery

open ElementQuery.Text

/-- A path without empty steps and steps that stay where they are. Two slashes at its start are
kept apart from one; any other count means one. -/
def tidyPath (path : String) : String :=
  let slashes := (path.toList.takeWhile (· == '/')).length
  let root := if slashes = 0 then "" else if slashes = 2 then "//" else "/"
  let steps := (path.splitOn "/").filter fun step => step != "" && step != "."
  let tidy := root ++ String.intercalate "/" steps
  if tidy = "" then "." else tidy

/-- A text in which a carriage return, alone or with a line feed behind it, is a line feed. -/
def unifyBreaks : List Char → List Char
  | [] => []
  | '\r' :: '\n' :: rest => '\n' :: unifyBreaks rest
  | c :: rest => (if c = '\r' then '\n' else c) :: unifyBreaks rest

/-- No carriage return is left. -/
theorem return_not_mem_unifyBreaks (cs : List Char) : '\r' ∉ unifyBreaks cs := by
  fun_induction unifyBreaks cs with
  | case1 => simp
  | case2 rest ih => simpa using ih
  | case3 c rest _ ih =>
    by_cases h : c = '\r'
    · simpa [h] using ih
    · simpa [h, Ne.symm h] using ih

namespace Settings

/-- Why a file gives no settings. -/
inductive LoadError where
  | missing (path : String)
  | notText (cause : Utf8.Error)
  | malformed (path : String) (text : List Char) (problem : Json.Problem) (position : Nat)
  /-- A whole number in the text has too many digits to be read. -/
  | integerTooLong (digits : Nat)
  | notAnObject (path : String)
  | invalid (path : String) (offences : List Offence)

namespace LoadError

/-- The first line of the wording of a fault. -/
def message : LoadError → String
  | missing path => "Config file not found: " ++ path
  | notText cause => cause.message
  | malformed path text problem position =>
    "Invalid JSON in config file " ++ path ++ ": "
      ++ (Json.Error.malformed problem position).message text
  | integerTooLong digits => (Json.Error.integerTooLong digits).message []
  | notAnObject path => "Config file " ++ path ++ " must contain a JSON object"
  | invalid path offences =>
    "Invalid configuration in " ++ path ++ ": " ++ toString offences.length ++ " validation error"
      ++ (if offences.length = 1 then "" else "s") ++ " for ToolConfig"

/-- The file at fault, if the fault lies in what the file is meant to hold. -/
def path? : LoadError → Option String
  | missing path | malformed path .. | notAnObject path | invalid path _ => some path
  | notText _ | integerTooLong _ => none

/-- What is wrong with the described settings. -/
def offences : LoadError → List Offence
  | invalid _ offences => offences
  | _ => []

end LoadError

/-- The JSON value in the text of a file. -/
def readJson (path : String) (text : List Char) : Except LoadError Json.Document :=
  (Json.parse text).mapError fun
    | .malformed problem position => .malformed path text problem position
    | .integerTooLong digits => .integerTooLong digits

/-- The settings in the bytes of a file. -/
def ofBytes (path : String) (bytes : List Nat) : Except LoadError Settings := do
  let text := unifyBreaks (← (Utf8.decode bytes).mapError .notText)
  match ← readJson path text with
  | .object members =>
    match Settings.check members with
    | .valid settings => return settings
    | .invalid offences => throw (.invalid path offences)
  | _ => throw (.notAnObject path)

/-- The settings at a path, where `bytesAt` says what the files hold; the defaults without a
path. -/
def load (bytesAt : String → Option (List Nat)) : (path : Option String) → Except LoadError Settings
  | none => return {}
  | some path =>
    let path := tidyPath path
    match bytesAt path with
    | none => throw (.missing path)
    | some bytes => ofBytes path bytes

end Settings

end ElementQuery
