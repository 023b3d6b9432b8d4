import ElementQuery.Log.Calendar
import ElementQuery.Log.Level
import ElementQuery.Percent.Format

/-!
# Log records and their lines

A record is what one call to a logger leaves behind. The unified line shows its time, its level,
its importance, its logger and its message; other lines are described by a percent format over the
fields of a record.

## Main definitions

* `Record` : a log record.
* `Record.text` : the message with its values filled in.
* `Record.importanceValue` : the importance, by default that of the level.
* `Record.line?` : the unified line.
* `LineFormat`, `LineFormat.make`, `LineFormat.write` : lines in other formats.
-/

namespace ElementQuery.Log

open ElementQuery.Text

/-- The pattern of the time stamp in the unified line. -/
def unifiedTime : String := "%Y-%m-%d %H:%M:%S"

/-- A log record. -/
structure Record where
  logger : String
  severity : Int
  /-- The message; with values it is a percent format. -/
  message : String
  values : List Value := []
  /-- When the record was made, in seconds since the start of 1970. -/
  created : Value := .int 0
  /-- The importance; no value if it is that of the level. -/
  importance : Value := .none

namespace Record

/-- The name of the record's level. -/
def levelName (r : Record) : String := severityName r.severity

/-- What the message is filled with: one keyed value stands for its entries. -/
def messageValues (r : Record) : Percent.Values :=
  match r.values with
  | [.dict (e :: entries)] => .named (e :: entries)
  | values => .inOrder values

/-- The message with its values filled in. Without values it is no format. -/
def text (r : Record) : Except Percent.Error String :=
  if r.values.isEmpty then return r.message else Percent.fill r.message r.messageValues

/-- The importance, by default that of the level. -/
def importanceValue (r : Record) : Value :=
  match r.importance with
  | .none => .int (importanceOf r.levelName)
  | v => v

/-- When the record was made, in whole seconds. -/
def seconds (r : Record) : Int :=
  match r.created with
  | .int n => n
  | .float x => x.floor?.getD 0
  | _ => 0

/-- The milliseconds of a second after which the record was made. -/
def milliseconds (r : Record) : Nat :=
  match r.created with
  | .float (.finite negative significand exponent) =>
    let scaled := Number.signed negative (1000 * significand * Nat.pow 2 exponent.toNat)
    ((scaled.fdiv (Nat.pow 2 (-exponent).toNat)).emod 1000).toNat
  | _ => 0

/-- The time stamp of a record as a pattern says; without a pattern that of the unified line with
milliseconds. -/
def stamp (pattern : String) (r : Record) : String :=
  let moment := Moment.ofSeconds r.seconds
  if pattern = "" then
    moment.format unifiedTime ++ "," ++ Moment.padded '0' 3 r.milliseconds
  else moment.format pattern

/-- A text filled up with blanks to a width. -/
def padRight (width : Nat) (s : String) : String :=
  s ++ String.ofList (List.replicate (width - s.length) ' ')

/-- The unified line of a record whose message is no format, after a time stamp; there is none if
the importance is too long to be written. -/
def line? (stamp : String) (r : Record) : Option String :=
  r.importanceValue.display?.map fun importance => String.intercalate " | "
    [stamp, padRight 8 r.levelName, importance, r.logger, r.message]

end Record

/-- The percent format of the unified line. -/
def unifiedFields : String :=
  "%(asctime)s | %(levelname)-8s | %(importance)s | %(name)s | %(message)s"

/-- The format of a log line. -/
structure LineFormat where
  /-- A percent format over the fields of a record. -/
  fields : String := unifiedFields
  time : String := unifiedTime

/-- Why a line cannot be written. -/
inductive LineError where
  | noFields (fields : String)
  /-- A record has no field of that name. -/
  | noSuchField (name : String)
  /-- The values do not fit the format. -/
  | misfit (cause : Percent.Error)
  deriving DecidableEq, Repr

/-- The wording of a fault. -/
def LineError.message : LineError → String
  | noFields fields => "Invalid format '" ++ fields ++ "' for '%' style"
  | noSuchField name => "Formatting field not found in record: " ++ quoted name
  | misfit cause => cause.message

/-- The form of a field in the format of a line. -/
def fieldForm : String := "%\\(\\w+\\)[#0+ -]*(\\*|\\d+)?(\\.(\\*|\\d+))?[diouxefgcrsa%]"

/-- Whether there is a field somewhere in the format of a line. -/
def hasField (fields : String) : Bool :=
  match Regex.compile { Regex.Flags.none with ignoreCase := true } fieldForm with
  | .ok form => form.occursIn fields
  | .error _ => false

namespace LineFormat

/-- The format with the given fields and the given pattern of the time stamp, either of which may
be left out; a format without text shows the message only. -/
def make (fields time : Option String) : Except LineError LineFormat := do
  let fields := fields.getD unifiedFields
  let fields := if fields = "" then "%(message)s" else fields
  if hasField fields then return ⟨fields, time.getD unifiedTime⟩ else throw (.noFields fields)

/-- The fields of a record by name. -/
def entries (format : LineFormat) (r : Record) (text : String) : List (Value × Value) :=
  [(.text "name", .text r.logger), (.text "msg", .text r.message),
    (.text "levelname", .text r.levelName), (.text "levelno", .int r.severity),
    (.text "created", r.created), (.text "importance", r.importanceValue),
    (.text "message", .text text), (.text "asctime", .text (r.stamp format.time))]

/-- The line of a record. -/
def write (format : LineFormat) (r : Record) : Except LineError String := do
  let text ← r.text.mapError .misfit
  (Percent.fill format.fields (.named (format.entries r text))).mapError fun
    | .noSuchName name => .noSuchField name
    | cause => .misfit cause

end LineFormat

end ElementQuery.Log
