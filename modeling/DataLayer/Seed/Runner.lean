import DataLayer.Source.Load

/-! Running seeders. A seeder that fails is recorded, and the run moves on to the next one. -/

namespace DataLayer.Seed

open DataLayer.Script DataLayer.Source

variable {σ : Type}

/-- Holds of the names of seeder files. -/
def isFileName (name : String) : Bool :=
  ".py".toList.isSuffixOf name.toList && !"_".toList.isPrefixOf name.toList

/-- The paths of the seeder files in a folder, in order. -/
def discover (tree : Tree File) (folder : Path) : Except Misuse (List Path) := do
  let names := (← tree.listing folder).filter isFileName
  return (names.mergeSort fun first second => first ≤ second).map folder.child

/-- What came of a run. -/
structure RunResult where
  ran : List String := []
  skipped : List String := []
  errors : List (String × String) := []

/-- Holds of runs without a failure. -/
def RunResult.success (result : RunResult) : Bool := result.errors.isEmpty

/-- Inserts a row unless there is one with the same key. -/
def insertMissing (db : Database σ) (baseline : Baseline) (row : List (String × Value)) :
    Action σ Unit := do
  let key := (Entries.get? baseline.key row).getD .null
  let table : Query := { table := .text baseline.table }
  match ← (table.compare (.text baseline.key) (.text "=") key).finish db .exists with
  | .flag true => return ()
  | _ =>
    let _ ← table.finish db
      (.insert (.map (row.map fun entry => (.text entry.1, entry.2))))

/-- Does what a seeder is for. -/
def perform (db : Database σ) : Routine → Action σ Unit
  | .steps steps => do
    let _ ← DatabaseStep.performAll db steps
  | .baseline baseline => baseline.rows.forM (insertMissing db baseline)

/-- The seeder that bindings hold under a name. -/
def seederOf? (bindings : Bindings) (name : String) : Option ClassValue :=
  match Entries.get? name bindings with
  | some (.class definition) => if definition.role == some .seeder then some definition else none
  | _ => none

/-- Makes an instance of a seeder and runs it. -/
def runClass (db : Database σ) (definition : ClassValue) : Action σ Unit := do
  match definition.instanceFault? with
  | some fault => Action.fail fault
  | none => perform db (definition.run.getD (.steps []))

/-- Runs the seeder of one file and adds what came of it. A fault that no handler sees goes
through. -/
def runFile (db : Database σ) (tree : Tree File) (result : RunResult) (path : Path) :
    Action σ RunResult := do
  let name := path.stem
  let failed (fault : Fault) : Action σ RunResult := do
    if fault.escapes then Action.fail fault
    Action.note (.seedFailed name fault.text)
    return { result with errors := Entries.put name fault.text result.errors }
  match load tree path with
  | .error fault => failed fault
  | .ok bindings =>
    match seederOf? bindings name with
    | none =>
      Action.note (.seedSkipped name)
      return { result with skipped := result.skipped ++ [name] }
    | some definition =>
      match ← Action.ofState (runClass db definition).run with
      | .error fault => failed fault
      | .ok () =>
        Action.note (.seedCompleted name)
        return { result with ran := result.ran ++ [name] }

/-- Runs the seeders of a folder, or only the one of a name. `shown` is the folder as it was
given. -/
def run (db : Database σ) (tree : Tree File) (folder : Path) (shown : String)
    (target : Option String) : Action σ RunResult := do
  let files ← Action.check (discover tree folder)
  match target with
  | none => files.foldlM (runFile db tree) {}
  | some name =>
    match files.filter fun path => path.stem == name with
    | [] => Action.refuse (.of .migration ("Seeder '" ++ name ++ "' not found in " ++ shown))
    | found => found.foldlM (runFile db tree) {}

end DataLayer.Seed
