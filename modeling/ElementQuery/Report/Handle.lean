import ElementQuery.Report.Text
import ElementQuery.Settings.Basic

/-!
# Reports on handles

A handle stands for an element of a page or for a whole driver session. A report shows it in the
form `#<Label: value, …, Object: Name at 0x…>`, leaving out what is missing or empty.

## Main definitions

* `Handle` : what a handle can be asked, each accessor possibly missing.
* `Report.Fault` : why there is no report.
* `HandleKind` : what a handle is reported as.
* `Handle.reportElement`, `Handle.reportDriver`, `Handle.report` : the reports.
-/

namespace ElementQuery

open ElementQuery.Text

/-- What a driver session says about its browser. -/
structure Capabilities where
  browser : Value
  version : Value
  scripts : Value
  raw : List (String × Value)

/-- Whether the browser is driven by native events: a capability that is a text has to say
`true`. -/
def Capabilities.nativeEvents (c : Capabilities) : Bool :=
  match (c.raw.lookup "nativeEvents").map Value.base with
  | none => false
  | some (.text s) => lower (trim s) == "true"
  | some v => v.isTruthy

/-- What a handle can be asked. An accessor that is `none` is not there; an answer without a
value is. -/
structure Handle where
  sort : String
  tag : Option Value
  text : Option Value
  attributes : Option (List (String × Value))
  title : Option Value
  url : Option Value
  capabilities : Option Capabilities

/-- Why there is no report on a handle. -/
inductive Report.Fault where
  | noAccessor (sort accessor : String)
  /-- The handle is neither a driver handle nor an element handle. -/
  | neitherKind (sort : String)
  /-- There is no such kind of handle. -/
  | unknownKind (name : String)
  /-- The replacement for line breaks is malformed. -/
  | badReplacement (cause : Regex.Error)
  /-- Line breaks are replaced in something that is not a text. -/
  | notText (sort : String)
  | noLength (sort : String)
  /-- A list is cut, to which no mark can be added. -/
  | cutList
  /-- Something that has no first part is cut. -/
  | cutDict
  /-- A whole number has too many digits to be written. -/
  | numberTooLong
  deriving DecidableEq, Repr

/-- The wording of a fault. -/
def Report.Fault.message : Report.Fault → String
  | noAccessor sort accessor => quoted sort ++ " object has no attribute " ++ quoted accessor
  | neitherKind sort =>
    "Cannot format " ++ sort ++ ": not a driver handle or an element handle"
  | unknownKind name => quoted name ++ " is not a valid HandleKind"
  | badReplacement cause => cause.message
  | notText sort => (Misuse.searchInNonText sort).message
  | noLength sort => "object of type " ++ quoted sort ++ " has no len()"
  | cutList => "can only concatenate list (not \"str\") to list"
  | cutDict => (Misuse.unhashable "slice").message
  | numberTooLong => Number.tooLongToWrite

/-- What a handle is reported as. -/
inductive HandleKind where
  | driver
  | element
  deriving DecidableEq, Repr

/-- The kind with a name. -/
def HandleKind.ofName (name : String) : Except Report.Fault HandleKind :=
  if name = "driver" then return driver
  else if name = "element" then return element
  else throw (.unknownKind name)

namespace Report

/-- Whether a value is shown at all: a missing one and an empty text are not. -/
def isPresent (v : Value) : Bool :=
  match v.base with
  | .none => false
  | .text s => s != ""
  | _ => true

/-- A value as it is given. -/
def given (v : Value) : Except Fault String :=
  match v.display? with
  | some text => return text
  | none => throw .numberTooLong

/-- An element name between angle brackets. -/
def bracketed (v : Value) : Except Fault Value := do return .text ("<" ++ (← given v) ++ ">")

/-- A value as one line: its line breaks replaced, then cut. -/
def clean (settings : FormatterSettings) (v : Value) : Except Fault String :=
  match v.base with
  | .text s => do
    let line ← (eliminateBreaks settings.lineBreakReplacement s).mapError .badReplacement
    return truncate settings.truncateLength settings.ellipsis line
  | _ =>
    if v.isTruthy then do
      let _ ← (Regex.Template.parse settings.lineBreakReplacement).mapError .badReplacement
      throw (.notText v.qualifiedSort)
    else return ""

/-- A value cut to the length of the settings. One that is not too long stays what it is. -/
def cut (settings : FormatterSettings) (v : Value) : Except Fault Value :=
  if v.isTruthy then
    match v.base with
    | .text s =>
      if settings.truncateLength < s.length then
        return .text (truncate settings.truncateLength settings.ellipsis s)
      else return v
    | .list items =>
      if settings.truncateLength < items.length then throw .cutList else return v
    | .dict entries =>
      if settings.truncateLength < entries.length then throw .cutDict else return v
    | _ => throw (.noLength v.qualifiedSort)
  else return .text ""

/-- The attributes of an element that are reported, with their labels and whether they hold free
text. -/
def reportedAttributes : List (String × String × Bool) :=
  [("id", "Id", false), ("class", "Class", false), ("name", "Name", false),
    ("value", "Value", true), ("href", "Href", false), ("src", "Source", false)]

/-- What is shown of an attribute. -/
def shownAttribute (settings : FormatterSettings) (isFree : Bool) (v : Value) :
    Except Fault Value :=
  if isFree then .text <$> clean settings v else return v

/-- Labelled fields and the handle itself between brackets. The address of the handle does not
matter and is written as zero. -/
def render (sort : String) (fields : List (String × Value)) : Except Fault String := do
  let parts ← fields.mapM fun (label, v) => return label ++ ": " ++ (← given v)
  return "#<" ++ String.intercalate ", " (parts ++ ["Object: " ++ sort ++ " at 0x0"]) ++ ">"

/-- A field, if its value is shown. -/
def fieldOf (label : String) (v : Value) (shown : Value → Except Fault Value) :
    Except Fault (List (String × Value)) :=
  if isPresent v then do return [(label, ← shown v)] else return []

/-- The field that says whether the browser runs scripts. -/
def scriptFields : Value → Except Fault (List (String × Value))
  | .none => return []
  | v => do return [("JS Enabled", .text (lower (← given v)))]

end Report

namespace Handle

open Report

/-- An accessor, which may be missing. -/
def ask {α : Type} (h : Handle) (name : String) : Option α → Except Report.Fault α
  | some answer => return answer
  | none => throw (.noAccessor h.sort name)

/-- The report on an element. -/
def reportElement (h : Handle) (settings : FormatterSettings) : Except Report.Fault String := do
  let tag ← fieldOf "Tag" (← h.ask "tag_name" h.tag) bracketed
  let text ← fieldOf "Text" (← h.ask "text" h.text) fun v => .text <$> clean settings v
  let attributes ← reportedAttributes.mapM fun (name, label, isFree) => do
    let v := ((← h.ask "attribute" h.attributes).lookup name).getD .none
    fieldOf label v (shownAttribute settings isFree)
  render h.sort (tag ++ text ++ attributes.flatten)

/-- The report on a driver session. -/
def reportDriver (h : Handle) (settings : FormatterSettings) : Except Report.Fault String := do
  let capabilities ← h.ask "capabilities" h.capabilities
  let title ← fieldOf "Title" (← h.ask "page_title" h.title) pure
  let url ← fieldOf "URL" (← h.ask "current_url" h.url) (cut settings)
  let browser ← fieldOf "Browser" capabilities.browser pure
  let version ← fieldOf "Version" capabilities.version pure
  let scripts ← scriptFields capabilities.scripts
  let events : String := if capabilities.nativeEvents then "true" else "false"
  render h.sort
    (title ++ url ++ browser ++ version ++ scripts ++ [("Native Events Enabled", .text events)])

/-- What a handle is by its accessors; one that has all of them is a driver handle. -/
def kind (h : Handle) : Except Report.Fault HandleKind :=
  if h.title.isSome && h.url.isSome && h.capabilities.isSome then return .driver
  else if h.tag.isSome && h.text.isSome && h.attributes.isSome then return .element
  else throw (.neitherKind h.sort)

/-- The report on a handle, as the kind of the given name or as what it is. -/
def report (h : Handle) (kindName : Option String) (settings : FormatterSettings) :
    Except Report.Fault String := do
  let kind ← match kindName with
    | some name => HandleKind.ofName name
    | none => h.kind
  match kind with
  | .driver => h.reportDriver settings
  | .element => h.reportElement settings

end Handle

end ElementQuery
