import DataLayer.Command.Run
import DataLayer.Source.Template
import Std.Time.DateTime.Timestamp

/-! The program: a command line with the arguments, the environment and the clock of the machine.

No engine is linked to it. It makes new migrations; every task that needs a database ends with the
complaint that the engine cannot be reached. -/

namespace DataLayer.Program

open DataLayer.Command DataLayer.Source

/-- The complaint about an engine that is not linked. -/
def absence : EngineFault := { kind := .interface, message := "no engine is linked" }

/-- An engine that cannot be reached. -/
def unreachable : Driver Unit where
  connect := fun state => (.error absence, state)
  setup := fun _ state => (.error absence, state)
  openCursor := fun _ state => (.error absence, state)
  execute := fun _ _ state => (.error absence, state)
  fetchAll := fun state => (.error absence, state)
  commit := fun state => (.error absence, state)
  rollback := id

/-- The variables that settings are read from. -/
def variableNames : List String :=
  ["DRIVER", "HOST", "PORT", "NAME", "USER", "PASS", "PASSWORD", "CHARSET", "TIMEZONE", "PATH"].map
      ("DB_" ++ ·)
    ++ ["NAME", "ENV", "DEBUG", "LOG_LEVEL", "MIGRATIONS_DIR", "SEEDS_DIR"].map ("APP_" ++ ·)

/-- The variables that are set. -/
def environment : IO (List (String × String)) := do
  let found ← variableNames.mapM fun name => do
    return (← IO.getEnv name).map fun value => (name, value)
  return found.filterMap id

/-- The text of the file of variables, if there is one. -/
def variableFile : IO (Option String) := do
  try return some (← IO.FS.readFile ".env") catch _ => return none

/-- The command line on this machine. -/
def desk : IO (Desk Unit) := do
  let now ← Std.Time.Timestamp.now
  return { surroundings := { environment := ← environment, file := ← variableFile }
           now := Moment.ofSeconds now.toSecondsSinceUnixEpoch.val.toNat
           driver := unreachable }

/-- The path of a place. -/
def pathText (place : Place) : String :=
  match place with
  | "/" :: rest => "/" ++ "/".intercalate rest
  | parts => "/".intercalate parts

/-- Writes a new file, and makes the folder that it is in. Nothing is written over. -/
def writeNew (place : Place) (text : String) : IO Unit := do
  if 1 < place.length then IO.FS.createDirAll (pathText place.dropLast)
  let handle ← IO.FS.Handle.mk (pathText place) .writeNew
  handle.putStr text

/-- Writes the new migrations of a tree. -/
def writeTree (tree : Tree File) : IO Unit :=
  tree.nodes.forM fun node =>
    match node.2 with
    | .file (.template name) => writeNew node.1 (templateText name)
    | _ => pure ()

end DataLayer.Program

open DataLayer DataLayer.Program in
/-- Runs a command line and hands on what it shows. -/
def main (arguments : List String) : IO UInt32 := do
  let outcome := (← desk).run {} () arguments
  writeTree outcome.tree
  outcome.screen.output.forM fun line => IO.println line
  outcome.screen.complaints.forM fun line => IO.eprintln line
  match outcome.ending with
  | .unclear => IO.eprintln "The arguments cannot be understood."
  | .died fault => IO.eprintln fault.text
  | .exited _ => pure ()
  return match outcome.ending.exitCode with
    | .int code => UInt32.ofNat (code % 256).toNat
    | code => if code.isTruthy then 1 else 0
