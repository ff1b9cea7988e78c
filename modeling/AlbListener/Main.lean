import AlbListener.Cloud.Fleet
import AlbListener.Command.Basic
import AlbListener.Calendar.Instant
import Std.Time.DateTime.Timestamp

/-!
# The program

Carries out a command line on a provider in memory that has no listeners yet. The files that
the command line names and the variables of the environment are read first.
-/

namespace AlbListener.Program

/-- What stands at a path. -/
def readTarget (path : String) : IO PathTarget := do
  try
    return .file (← IO.FS.readFile path)
  catch e =>
    match e with
    | .inappropriateType .. => return .directory
    | _ => return .nothing

/-- What stands at those arguments that are paths. -/
def readTargets (args : List String) : IO (Entries PathTarget) :=
  args.mapM fun path => do
    return (path, ← readTarget path)

/-- The variables of the environment that have a meaning here. -/
def readEnvironment : IO Environment :=
  Environment.variableNames.filterMapM fun name => do
    return (← IO.getEnv name).map fun value => (name, value)

/-- The time, as it stands in events. -/
def readTime : IO String := do
  let now ← Std.Time.Timestamp.now
  return Calendar.instantText (now.toNanosecondsSinceUnixEpoch.val.toNat / 1000)

end AlbListener.Program

open AlbListener in
/-- Carries out the command line. -/
def main (args : List String) : IO UInt32 := do
  let targets ← Program.readTargets args
  let world : World Fleet :=
    { cloud := Fleet.cloud
      find := fun path => (Entries.get? targets path).getD .nothing
      environment := ← Program.readEnvironment
      now := ← Program.readTime }
  let outcome := Command.run world args (Fleet.ofListeners [] 0)
  for effect in outcome.trace do
    if let .log record := effect then IO.eprintln record.text
  match outcome.result with
  | .ok reply =>
    IO.print reply.output
    IO.eprint reply.ending.errorText
    return UInt32.ofNat reply.ending.exitCode
  | .error _ => return 1
