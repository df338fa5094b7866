import DataLayer.Migration.FileName
import DataLayer.Migration.Ledger
import DataLayer.Source.Load

/-! Applying migrations in the order of their file names and taking back the last one.

Each file is applied and then recorded. The first failure ends a run: the files before it stay
applied and recorded, the failing one is not recorded, and those after it are not touched. -/

namespace DataLayer.Migration

open DataLayer.Script DataLayer.Source

variable {σ : Type}

/-- The names of the migration files in a folder, in order. -/
def discover (tree : Tree File) (folder : Path) : Except Misuse (List String) := do
  return ((← tree.listing folder).filter isFileName).mergeSort fun first second => first ≤ second

/-- What came of a run. -/
structure RunResult where
  applied : List String := []
  skipped : List String := []
  errors : List (String × String) := []

/-- Holds of runs without a failure. -/
def RunResult.success (result : RunResult) : Bool := result.errors.isEmpty

mutual

/-- The complaint about a value that cannot be a member of a set: one that can change, or a tuple
that holds such a value. -/
def memberComplaint? : Value → Option String
  | .list _ => some "unhashable type: 'list'"
  | .map _ => some "unhashable type: 'dict'"
  | .tuple items => itemComplaint? items
  | .decimal (.undefined _ true _) => some "Cannot hash a signaling NaN value"
  | _ => none

/-- The complaint about the first of some values that cannot be a member of a set. -/
def itemComplaint? : List Value → Option String
  | [] => none
  | item :: rest => (memberComplaint? item).or (itemComplaint? rest)

end

/-- The names that are recorded as applied. -/
def recordedNames (records : List Record) : Except Misuse (List Value) :=
  records.mapM fun record =>
    match memberComplaint? record.migration with
    | none => .ok record.migration
    | some complaint => .error (.unsuitable complaint)

/-- Makes an instance of the migration that a file defines. -/
def instantiate (tree : Tree File) (path : Path) : Except Fault ClassValue := do
  let definition ← loadClass tree path .migration
  match definition.instanceFault? with
  | some fault => .error fault
  | none => return definition

/-- Applies one file and records it. -/
def applyFile (db : Database σ) (tree : Tree File) (folder : Path) (file : String) :
    Action σ Unit := do
  let migration ← Action.ofExcept (instantiate tree (folder.child file))
  SchemaStep.performAll db (migration.up.getD [])
  recordFile db file
  Action.note .applied

/-- Does some work while a field is bound to the log, and unbinds it in any case. -/
def withLogField {α : Type} (name : String) (value : Value) (work : StateM (Session σ) α) :
    StateM (Session σ) α := do
  modify fun s => { s with context := LogContext.bind [(name, value)] s.context }
  let result ← work
  modify fun s => { s with context := LogContext.unbind [name] s.context }
  return result

/-- Applies one file and notes its failure. -/
def tryFile (db : Database σ) (tree : Tree File) (folder : Path) (file : String) :
    StateM (Session σ) (Except Fault Unit) :=
  withLogField "migration" (.text file) (do
    match ← (applyFile db tree folder file).run with
    | .ok () => return .ok ()
    | .error fault =>
      if !fault.escapes then Session.note (.migrationFailed fault.text)
      return .error fault)

/-- Applies files one after the other up to the first failure. Files that are recorded are
skipped. A fault that no handler sees goes through. -/
def applyFiles (db : Database σ) (tree : Tree File) (folder : Path) (recorded : List Value)
    (result : RunResult) : List String → Action σ RunResult
  | [] => return result
  | file :: rest => do
    if recorded.contains (.text file) then
      applyFiles db tree folder recorded { result with skipped := result.skipped ++ [file] } rest
    else
      match ← Action.ofState (tryFile db tree folder file) with
      | .ok () =>
        applyFiles db tree folder recorded { result with applied := result.applied ++ [file] } rest
      | .error fault =>
        if fault.escapes then Action.fail fault
        else return { result with errors := result.errors ++ [(file, fault.text)] }

/-- Applies every migration that is not recorded. -/
def applyPending (db : Database σ) (tree : Tree File) (folder : Path) : Action σ RunResult := do
  let recorded ← Action.check (recordedNames (← records db))
  applyFiles db tree folder recorded {} (← Action.check (discover tree folder))

/-- The files that are not recorded as applied. -/
def pending (db : Database σ) (tree : Tree File) (folder : Path) : Action σ (List String) := do
  let recorded ← Action.check (recordedNames (← records db))
  return (← Action.check (discover tree folder)).filter fun file =>
    !recorded.contains (.text file)

/-- The path of a recorded migration. -/
def recordedPath (folder : Path) (migration : Value) : Except Misuse Path :=
  match migration.text? with
  | some _ => .ok (folder.child migration.display)
  | none => .error (.unsuitable ("unsupported operand type(s) for /: 'PosixPath' and '"
      ++ migration.kindName ++ "'"))

/-- The report that the file of a recorded migration is gone. -/
def fileMissing (migration : Value) : Report where
  kind := .migration
  message := .text
    ("Migration file '" ++ migration.display ++ "' not found. Cannot rollback.")
  context := { migration }

/-- Undoes what a file did, noting its failure. -/
def reverseFile (db : Database σ) (tree : Tree File) (path : Path) (migration : Value) :
    Action σ Unit := do
  let work : Action σ Unit := do
    let definition ← Action.ofExcept (instantiate tree path)
    SchemaStep.performAll db (definition.down.getD [])
  match ← Action.ofState work.run with
  | .ok () => return ()
  | .error fault =>
    if !fault.escapes then Action.note (.rollbackFailed migration fault.text)
    Action.fail fault

/-- Takes back the migration that was applied last, if there is one: undoes what it did and erases
its record. -/
def rollbackLast (db : Database σ) (tree : Tree File) (folder : Path) :
    Action σ (Option Value) := do
  match (← records db).getLast? with
  | none => return none
  | some last =>
    let path ← Action.check (recordedPath folder last.migration)
    if ← Action.check (tree.isFile path) then
      reverseFile db tree path last.migration
      eraseRecord db last.id
      Action.note (.rolledBack last.migration)
      return some last.migration
    else Action.refuse (fileMissing last.migration)

end DataLayer.Migration
