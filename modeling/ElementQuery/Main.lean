import Std.Time.DateTime.Timestamp
import ElementQuery.CommandLine.Commands

/-!
# The program

Looks up the settings file that the arguments name, tells the time, runs the command line and
writes what comes of it.

## Main definitions

* `lookUp` : what is found at a path.
* `main` : the program.
-/

namespace ElementQuery

open ElementQuery.CommandLine

/-- The error code for reading a directory as a file. -/
def directoryCode : UInt32 := 21

/-- What is found at a path. A directory can be opened but not read. -/
def lookUp (path : String) : IO FileState := do
  try
    let bytes ← IO.FS.readBinFile path
    return .file (bytes.toList.map (·.toNat))
  catch
    | .inappropriateType _ code _ => return if code = directoryCode then .directory else .absent
    | _ => return .absent

/-- The time stamp of now. -/
def stampOfNow : IO String := do
  let now ← Std.Time.Timestamp.now
  return (Log.Moment.ofSeconds now.toSecondsSinceUnixEpoch.val).format Log.unifiedTime

/-- What a run of the program on the given arguments depends on: of all files only the settings
file is looked at. -/
def surroundings (args : List String) : IO Surroundings := do
  let stamp ← stampOfNow
  match settingsPath? args with
  | none => return ⟨fun _ => .absent, stamp⟩
  | some path =>
    let named ← lookUp path
    let tidy ← lookUp (tidyPath path)
    return ⟨fun p => if p = path then named else if p = tidyPath path then tidy else .absent, stamp⟩

end ElementQuery

open ElementQuery ElementQuery.CommandLine in
/-- The program. -/
def main (args : List String) : IO UInt32 := do
  let outcome := run (← surroundings args) args
  (← IO.getStdout).putStr outcome.output
  (← IO.getStderr).putStr outcome.complaints
  if let some cause := outcome.breakdown then
    (← IO.getStderr).putStr (cause.message ++ "\n")
  return UInt32.ofNat outcome.exitCode
