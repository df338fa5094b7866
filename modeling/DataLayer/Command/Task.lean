import DataLayer.Command.Request
import DataLayer.Command.Screen
import DataLayer.Migration.Create
import DataLayer.Migration.Runner
import DataLayer.Seed.Runner
import DataLayer.Settings.Basic

/-! The tasks of the command line. A task ends with something to show and an exit code; a report
that comes up on its way is shown as a complaint, and other faults go through. -/

namespace DataLayer.Command

open DataLayer.Source

variable {σ α : Type}

/-- What a task comes to. -/
structure Verdict where
  shown : List Shown
  exitCode : Nat := 0

namespace Verdict

/-- An error with its message. -/
def failure (message : String) : Verdict where
  shown := [.complaint ("[bold red]Error[/bold red]: " ++ message)]
  exitCode := 1

/-- The complaints about what failed, by name. -/
def complaints (errors : List (String × String)) : List Shown :=
  errors.map fun error => .complaint ("[red]FAILED[/red] " ++ error.1 ++ ": " ++ error.2)

/-- What is shown of applied migrations. -/
def ofMigrations (result : Migration.RunResult) : Verdict :=
  let done : List Shown := result.applied.map fun name =>
    .line ("Migrating: " ++ name ++ "... [green]DONE[/green]")
  if result.success then
    if result.applied.isEmpty then { shown := [.line "Nothing to migrate."] }
    else { shown := done ++ [.line "All done."] }
  else { shown := done ++ complaints result.errors, exitCode := 1 }

/-- What is shown of a migration that was taken back. -/
def ofRollback (migration : Option Value) : Verdict :=
  match migration with
  | none => { shown := [.line "Nothing to rollback."] }
  | some name =>
    { shown := [.line ("Rolled back: " ++ name.display ++ "... [green]DONE[/green]")] }

/-- When a migration was applied, as the table of migrations shows it. -/
def appliedAt (record : Migration.Record) : String :=
  if record.createdAt.isTruthy then record.createdAt.display else ""

/-- What is shown of all migrations: those that are recorded, and then those that are pending. -/
def ofStatus (records : List Migration.Record) (pending : List String) : Verdict :=
  let rows := records.map (fun record => [record.migration.display, "Applied", appliedAt record])
    ++ pending.map fun name => [name, "Pending", ""]
  if rows.isEmpty then { shown := [.line "[dim]No items.[/dim]"] }
  else { shown := [.table
    { title := "Migrations", heads := ["migration", "status", "applied_at"], rows }] }

/-- What is shown of a new migration. -/
def ofNewMigration (path : Path) : Verdict where
  shown := [.line ("Created Migration: " ++ path.text)]

/-- What is shown of seeders. -/
def ofSeeders (result : Seed.RunResult) : Verdict :=
  let lines : List Shown :=
    result.ran.map (fun name => .line ("Seeding: " ++ name ++ "... [green]DONE[/green]"))
      ++ result.skipped.map fun name =>
        .line ("Seeding: " ++ name ++ "... [yellow]SKIPPED[/yellow] (class not found)")
  if result.success then { shown := lines }
  else { shown := lines ++ complaints result.errors, exitCode := 1 }

end Verdict

/-- The verdict on some work, or a failure for the report that ended it. -/
def judged (verdict : α → Verdict) (result : Except Fault α) : Except Fault Verdict :=
  match result with
  | .ok value => .ok (verdict value)
  | .error (.report report) => .ok (.failure report.message.display)
  | .error fault => .error fault

/-- Does some work on a database that is opened for it and closed afterwards. When it cannot be
opened for the engine's sake, that is a failure; other faults of opening it go through. -/
def onDatabase (db : Database σ) (work : Action σ α) (verdict : α → Verdict) :
    Action σ Verdict := ExceptT.mk do
  match ← (Database.connect db).run with
  | .error (.report report) =>
    if report.kind = .connection then
      return .ok (.failure ("DB Connection Failed: " ++ report.message.display))
    else return .error (.report report)
  | .error fault => return .error fault
  | .ok () =>
    let result ← work.run
    match ← (Database.disconnect db).run with
    | .error fault => return .error fault
    | .ok () => return judged verdict result

/-- A command line: where its settings are looked for, the time, and the engine that its databases
lead to. -/
structure Desk (σ : Type) where
  surroundings : Surroundings
  now : Moment
  driver : Driver σ

namespace Desk

/-- The database of a request. -/
def database (desk : Desk σ) (request : Request) : Except Fault (Database σ) :=
  (desk.surroundings.chooseAt request.database).map fun choice => choice.on desk.driver desk.now

/-- Does some work on the database of a request. -/
def withDatabase (desk : Desk σ) (request : Request) (work : Database σ → Action σ α)
    (verdict : α → Verdict) : Action σ Verdict := do
  let db ← Action.ofExcept (desk.database request)
  onDatabase db (work db) verdict

/-- Makes the ledger and does some work with it. -/
def withLedger (desk : Desk σ) (request : Request) (work : Database σ → Action σ α)
    (verdict : α → Verdict) : Action σ Verdict :=
  desk.withDatabase request (fun db => do
    Migration.ensureLedger db
    work db) verdict

/-- The folder of a request, or the one of the settings. -/
def folder (desk : Desk σ) (request : Request) : Except Fault Path := do
  match request.folder with
  | some folder =>
    if folder.text.toList.contains '\x00' then
      .error (.misuse (.unreadable "embedded null byte"))
    else return folder
  | none =>
    let settings ← AppSettings.load desk.surroundings
    return match request.task with
      | .seed _ => settings.seedsDir
      | _ => settings.migrationsDir

/-- Does a task that works on a database. -/
def performOnDatabase (desk : Desk σ) (tree : Tree File) (folder : Path) (request : Request) :
    Action σ Verdict :=
  match request.task with
  | .migrate => desk.withLedger request
      (fun db => Migration.applyPending db tree folder) Verdict.ofMigrations
  | .rollback => desk.withLedger request
      (fun db => Migration.rollbackLast db tree folder) Verdict.ofRollback
  | .status => desk.withLedger request
      (fun db => do
        let records ← Migration.records db
        return (records, ← Migration.pending db tree folder))
      (fun found => Verdict.ofStatus found.1 found.2)
  | .makeMigration _ => return { shown := [] }
  | .seed target => desk.withDatabase request
      (fun db => Seed.run db tree folder folder.text target) Verdict.ofSeeders

/-- Does what a request asks for, and hands back the tree that it leaves. -/
def perform (desk : Desk σ) (tree : Tree File) (request : Request) :
    StateM (Session σ) (Except Fault Verdict × Tree File) := do
  match desk.folder request with
  | .error fault => return (.error fault, tree)
  | .ok folder =>
    match request.task with
    | .makeMigration name =>
      let (result, tree) := Migration.create tree (.text name) (.text folder.text) desk.now
      return (judged Verdict.ofNewMigration result, tree)
    | _ => return (← (desk.performOnDatabase tree folder request).run, tree)

end Desk
end DataLayer.Command
