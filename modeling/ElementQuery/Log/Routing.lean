import ElementQuery.Log.Record

/-!
# Where log records go

The loggers of this library hang below one package logger. Configuring it routes their records, in
unified lines, to one stream: a later configuration takes the place of an earlier one, and handlers
that others have added stay. From the first configuration on every record gets an importance when
it is made, so that callers can no longer set one themselves.

## Main definitions

* `Handler` : what the package logger hands records to.
* `Routing` : the state of the package logger.
* `Routing.configure`, `Routing.installMaker`, `Routing.addForeign` : the changes.
* `Routing.isEnabled`, `Routing.log` : which records are made, and where they are written.
-/

namespace ElementQuery.Log

/-- What the package logger hands records to. -/
inductive Handler where
  /-- A handler of this library, which writes unified lines to a numbered stream. -/
  | unified (stream : Nat)
  | foreign (label : Nat)
  deriving DecidableEq, Repr

/-- Whether a handler was installed by this library. -/
def Handler.isUnified : Handler → Bool
  | unified _ => true
  | foreign _ => false

/-- The state of the package logger. -/
structure Routing where
  handlers : List Handler := []
  /-- The least severity that is let through; 0 leaves it to the root logger. -/
  severity : Int := Level.warning.severity
  /-- Whether records are handed on to the root logger. -/
  propagates : Bool := true
  /-- How often the maker of records has been wrapped in one that sets the importance. -/
  wrappings : Nat := 0
  deriving DecidableEq, Repr

/-- How a level is given: as a number, or by name. -/
inductive LevelChoice where
  | number (severity : Int)
  | named (name : String)

/-- No level has this name. -/
structure UnknownLevel where
  name : String
  deriving DecidableEq, Repr

/-- The wording of the fault. -/
def UnknownLevel.message (e : UnknownLevel) : String := "Invalid log level: " ++ e.name

/-- The severity that is meant. -/
def LevelChoice.severity : LevelChoice → Except UnknownLevel Int
  | number n => return n
  | named name =>
    match Level.read? name with
    | some level => return level.severity
    | none => throw ⟨name⟩

/-- A record was to get an importance by its caller, although its maker sets one. -/
structure ImportanceTaken where
  deriving DecidableEq, Repr

/-- The wording of the fault. -/
def ImportanceTaken.message (_ : ImportanceTaken) : String :=
  "\"Attempt to overwrite 'importance' in LogRecord\""

/-- The name of the package logger. -/
def packageName : String := "webdriver_query"

/-- Whether a logger is the package logger or hangs below it. -/
def isOfPackage (logger : String) : Bool :=
  logger == packageName || (packageName ++ ".").toList.isPrefixOf logger.toList

namespace Routing

/-- Wraps the maker of records, unless that has been done. -/
def installMaker (r : Routing) : Routing :=
  if r.wrappings = 0 then { r with wrappings := 1 } else r

theorem wrappings_installMaker_pos (r : Routing) : 0 < r.installMaker.wrappings := by
  unfold installMaker
  split
  · simp
  · omega

/-- Wrapping the maker of records again changes nothing. -/
@[simp] theorem installMaker_installMaker (r : Routing) :
    r.installMaker.installMaker = r.installMaker := by
  have h := wrappings_installMaker_pos r
  rw [installMaker, if_neg (by omega)]

@[simp] theorem handlers_installMaker (r : Routing) : r.installMaker.handlers = r.handlers := by
  unfold installMaker
  split <;> rfl

/-- Adds a new handler of others behind the handlers that are there. Its label is for the reader and
is no identity: two handlers may bear the same one. To add a handler that is there already changes
nothing, so it is not among the changes. -/
def addForeign (r : Routing) (label : Nat) : Routing :=
  { r with handlers := r.handlers ++ [.foreign label] }

/-- Routes the package's records to a stream. -/
def configure (r : Routing) (level : LevelChoice) (stream : Nat) : Except UnknownLevel Routing := do
  let severity ← level.severity
  let r := r.installMaker
  return { r with
    handlers := r.handlers.filter (!·.isUnified) ++ [.unified stream]
    severity := severity
    propagates := false }

/-- The least severity that a logger lets through. The root logger lets warnings through. -/
def threshold (r : Routing) (logger : String) : Int :=
  if isOfPackage logger && r.severity != 0 then r.severity else Level.warning.severity

/-- Whether a logger makes a record of a severity. Only positive severities count. -/
def isEnabled (r : Routing) (logger : String) (severity : Int) : Bool :=
  0 < severity && r.threshold logger ≤ severity

/-- The streams that a logger's records are written to. -/
def streams (r : Routing) (logger : String) : List Nat :=
  if isOfPackage logger then
    r.handlers.filterMap fun
      | .unified stream => some stream
      | .foreign _ => none
  else []

/-- Where a call to a logger writes its record, if a record is made. `setsImportance` says that the
caller sets the importance. -/
def log (r : Routing) (record : Record) (setsImportance : Bool) :
    Except ImportanceTaken (List (Nat × Record)) :=
  if !r.isEnabled record.logger record.severity then return []
  else if setsImportance && r.wrappings != 0 then throw ⟨⟩
  else return (r.streams record.logger).map (·, record)

/-- Where the records of this library itself are written. -/
def logAll (r : Routing) (records : List Record) : List (Nat × Record) :=
  records.flatMap fun record =>
    if r.isEnabled record.logger record.severity then
      (r.streams record.logger).map (·, record)
    else []

end Routing

end ElementQuery.Log
