import DataLayer.Command.Run
import DataLayer.Proofs.Database.Opening
import DataLayer.Proofs.Migration.CalmEngine

/-! The course of a command line. What is asked for is done on a database that is opened for it, and what
that comes to is told. Main statement: a command line that asks for something ends as what came of the work
does, or as the first text that cannot be shown. -/

namespace DataLayer.Command

open DataLayer.Action DataLayer.Database

variable {σ α : Type}

/-- What becomes of a task whose database cannot be opened. -/
def unopened (fault : Fault) : Except Fault Verdict :=
  match fault with
  | .report report =>
    if report.kind = .connection then .ok (.failure ("DB Connection Failed: " ++ report.message.display))
    else .error (.report report)
  | fault => .error fault

section

variable {db : Database σ} {s t : Session σ} (work : Action σ α) (verdict : α → Verdict)

theorem onDatabase_unopened {fault : Fault} (refused : on (connect db) s = (.error fault, t)) :
    on (onDatabase db work verdict) s = (unopened fault, t) := by
  unfold Action.on at refused
  unfold onDatabase unopened
  rw [on_mk, Session.bind_apply, refused]
  cases fault with
  | report report =>
    dsimp only
    split <;> rfl
  | _ => rfl

/-- The database is closed again whatever the work ends with. -/
theorem onDatabase_opened (opened : on (connect db) s = (.ok (), t)) :
    on (onDatabase db work verdict) s = (judged verdict (on work t).1, (on (disconnect db) (on work t).2).2) := by
  have closes (u : Session σ) : (on (disconnect db) u).1 = .ok () := by
    rw [on_disconnect]
    split
    · rfl
    · split <;> rfl
  unfold onDatabase
  rw [on_mk, Session.bind_apply]
  unfold Action.on at opened closes ⊢
  rw [opened]
  dsimp only
  rw [Session.bind_apply, Session.bind_apply, closes]
  rfl

end

namespace Desk

variable {desk : Desk σ} {request : Request}

theorem on_withDatabase {db : Database σ} (chosen : desk.database request = .ok db) (work : Database σ → Action σ α)
    (verdict : α → Verdict) (s : Session σ) :
    on (desk.withDatabase request work verdict) s = on (onDatabase db (work db) verdict) s := by
  unfold withDatabase
  rw [on_bind, on_ofExcept, chosen]

theorem on_withDatabase_unchosen {fault : Fault} (unchosen : desk.database request = .error fault)
    (work : Database σ → Action σ α) (verdict : α → Verdict) (s : Session σ) :
    on (desk.withDatabase request work verdict) s = (.error fault, s) := by
  unfold withDatabase
  rw [on_bind, on_ofExcept, unchosen]

/-- What is left when a task has come to a result. -/
def leaves (result : Except Fault Verdict) (tree : Tree Source.File) (session : Session σ) (log : LogSettings) :
    Outcome σ :=
  match result with
  | .error fault => { ending := (farewell fault).1, screen := (farewell fault).2, tree, session, log }
  | .ok verdict =>
    let told := ({} : Screen).addAll verdict.shown
    { ending := match told.2 with
        | none => .exited (.int verdict.exitCode)
        | some misuse => .died (.misuse misuse)
      screen := told.1, tree, session, log }

theorem leaves_session (result : Except Fault Verdict) (tree : Tree Source.File) (session : Session σ)
    (log : LogSettings) : (leaves result tree session log).session = session := by
  cases result <;> rfl

theorem answer_eq (desk : Desk σ) (tree : Tree Source.File) (start : Session σ) (log : LogSettings) (request : Request) :
    desk.answer tree start log request =
      let ended := desk.perform tree request start
      leaves ended.1.1 ended.1.2 ended.2 log := by
  have unfolded : (desk.perform tree request).run start = desk.perform tree request start := rfl
  unfold answer
  rw [unfolded]
  rcases desk.perform tree request start with ⟨⟨fault | verdict, left⟩, session⟩
  · rfl
  · unfold leaves
    dsimp only
    rcases ({} : Screen).addAll verdict.shown with ⟨screen, - | misuse⟩ <;> rfl

/-- A task on a database leaves the files as they are. -/
theorem perform_eq {folder : Path} (placed : desk.folder request = .ok folder)
    (other : ∀ name, request.task ≠ .makeMigration name) (tree : Tree Source.File) (start : Session σ) :
    desk.perform tree request start =
      let ended := on (desk.performOnDatabase tree folder request) start
      ((ended.1, tree), ended.2) := by
  unfold perform
  rw [placed]
  dsimp only
  cases task : request.task with
  | makeMigration name => exact absurd task (other name)
  | _ => rfl

section

variable (tree : Tree Source.File) (folder : Path)

theorem performOnDatabase_migrate (task : request.task = .migrate) :
    desk.performOnDatabase tree folder request =
      desk.withLedger request (fun db => Migration.applyPending db tree folder) .ofMigrations := by
  unfold performOnDatabase
  rw [task]

theorem performOnDatabase_rollback (task : request.task = .rollback) :
    desk.performOnDatabase tree folder request =
      desk.withLedger request (fun db => Migration.rollbackLast db tree folder) .ofRollback := by
  unfold performOnDatabase
  rw [task]

theorem performOnDatabase_status (task : request.task = .status) :
    desk.performOnDatabase tree folder request = desk.withLedger request
      (fun db => do
        let records ← Migration.records db
        return (records, ← Migration.pending db tree folder)) (fun found => .ofStatus found.1 found.2) := by
  unfold performOnDatabase
  rw [task]

theorem performOnDatabase_seed {target : Option String} (task : request.task = .seed target) :
    desk.performOnDatabase tree folder request =
      desk.withDatabase request (fun db => Seed.run db tree folder folder.text target) .ofSeeders := by
  unfold performOnDatabase
  rw [task]

end

/-- The arguments of a command line ask for something, and the settings of the program and its log are valid. -/
structure Asks (desk : Desk σ) (arguments : List String) (log : LogSettings) (request : Request) : Prop where
  asked : ∃ name rest, Opening.ofArguments arguments = .command name rest ∧ Order.ofArguments name rest = .request request
  valid : desk.logSettings = .ok log

theorem run_asks {arguments : List String} {log : LogSettings} (asks : desk.Asks arguments log request)
    (tree : Tree Source.File) (engine : σ) :
    desk.run tree engine arguments = desk.answer tree { engine } log request := by
  obtain ⟨name, rest, opening, order⟩ := asks.asked
  unfold run
  rw [opening]
  dsimp only
  rw [asks.valid]
  dsimp only
  rw [order]

/-- A task is done on the database of its request, if that can be opened. -/
theorem run_onDatabase {arguments : List String} {log : LogSettings} {folder : Path} {db : Database σ} {engine : σ}
    {tree : Tree Source.File} {work : Database σ → Action σ α} {verdict : α → Verdict}
    (asks : desk.Asks arguments log request) (placed : desk.folder request = .ok folder) (chosen : desk.database request = .ok db)
    (other : ∀ name, request.task ≠ .makeMigration name)
    (task : desk.performOnDatabase tree folder request = desk.withDatabase request work verdict) :
    desk.run tree engine arguments = match on (connect db) { engine } with
      | (.ok (), s) => leaves (judged verdict (on (work db) s).1) tree (on (disconnect db) (on (work db) s).2).2 log
      | (.error fault, s) => leaves (unopened fault) tree s log := by
  rw [run_asks asks, answer_eq, perform_eq placed other, task, on_withDatabase chosen]
  rcases opening : on (connect db) { engine } with ⟨fault | nothing, s⟩
  · rw [onDatabase_unopened _ _ opening]
  · rw [onDatabase_opened _ _ opening]

/-- Work on a ledger that can be made ends the command line with what it comes to. -/
theorem run_withLedger {arguments : List String} {log : LogSettings} {folder : Path} {db : Database σ} {engine : σ}
    {s t : Session σ} {tree : Tree Source.File} {work : Database σ → Action σ α} {verdict : α → Verdict}
    (asks : desk.Asks arguments log request) (placed : desk.folder request = .ok folder)
    (chosen : desk.database request = .ok db) (other : ∀ name, request.task ≠ .makeMigration name)
    (task : desk.performOnDatabase tree folder request = desk.withLedger request work verdict)
    (opens : on (connect db) { engine } = (.ok (), s)) (makes : on (Migration.ensureLedger db) s = (.ok (), t)) :
    desk.run tree engine arguments =
      leaves (judged verdict (on (work db) t).1) tree (on (disconnect db) (on (work db) t).2).2 log := by
  rw [run_onDatabase asks placed chosen other task, opens]
  dsimp only
  rw [on_bind, makes]

end Desk
end DataLayer.Command

/-! A command line on the ledger's engine. Main statement: the engine accepts what the command line does before
its work, and the rows that it keeps are read then. -/

namespace DataLayer.Command

open DataLayer.Action DataLayer.Database DataLayer.Migration DataLayer.Migration.LedgerEngine

/-- A command line with nothing set around it. -/
def calmDesk : Desk LedgerEngine :=
  { surroundings := {}, now := ⟨⟨2025, 1, 1⟩, ⟨0, 0, 0, 0, none⟩⟩, driver := LedgerEngine.driver }

/-- The request to take back the last migration of a folder, on an embedded database. -/
def rollbackRequest : Request := { task := .rollback, database := some "a.db", folder := some (Path.ofText "m") }

/-- The arguments of that request. -/
def rollbackArguments : List String := ["rollback", "-d", "a.db", "-m", "m"]

theorem calmDesk_asks : ∃ log, calmDesk.Asks rollbackArguments log rollbackRequest :=
  ⟨_, ⟨.rollback, ["-d", "a.db", "-m", "m"], rfl, rfl⟩, rfl⟩

theorem calmDesk_folder : calmDesk.folder rollbackRequest = .ok here := by
  have placed : Path.ofText "m" = here := by decide +kernel
  unfold Desk.folder rollbackRequest
  rw [placed]
  rfl

/-- The engine accepts what a command line does before its work. -/
theorem calmDesk_opens : ∃ db, calmDesk.database rollbackRequest = .ok db ∧ db.driver = LedgerEngine.driver ∧
    ∀ engine : LedgerEngine, engine.complaints = [] → ∃ s t, Action.on (connect db) { engine } = (.ok (), s) ∧
      Action.on (ensureLedger db) s = (.ok (), t) ∧ Ready t := by
  obtain ⟨db, chosen, same, opens, sql, compiled⟩ : ∃ db, calmDesk.database rollbackRequest = .ok db ∧
      db.driver = LedgerEngine.driver ∧ (∀ engine : LedgerEngine, (Action.on (connect db) { engine }).1 = .ok ()) ∧
      ∃ sql, Schema.compile db.dialect ledgerTable true describeLedger = .ok (some sql) :=
    ⟨_, rfl, rfl, fun engine => rfl, _, rfl⟩
  have accepted : db.driver.Accepts fun engine => engine.complaints = [] := same ▸ accepts
  refine ⟨db, chosen, same, fun engine calm => ?_⟩
  have opened : Action.on (connect db) { engine } = (.ok (), (Action.on (connect db) { engine }).2) :=
    Prod.ext (opens engine) rfl
  have willing : db.Willing (fun engine => engine.complaints = []) { engine } := ⟨calm, opens engine⟩
  obtain ⟨held, quiet⟩ := willing.opened accepted opened
  obtain ⟨t, made, ready⟩ := create_willing accepted (willing_of_held quiet held) compiled
  refine ⟨_, t, opened, ?_, ready.1, ready.2⟩
  unfold ensureLedger
  rw [on_bind, made]
  rfl

/-- Rows whose numbers grow are read as they were kept. -/
theorem calmDesk_reads {rows : List Entry} (growing : Growing rows) : ∃ db, calmDesk.database rollbackRequest = .ok db ∧
    db.driver = LedgerEngine.driver ∧ ∃ s t u,
      Action.on (connect db) { engine := { rows, saved := rows } } = (.ok (), s) ∧
        Action.on (ensureLedger db) s = (.ok (), t) ∧ ledger.Settled t.engine ∧ ledger.rows t.engine = rows ∧
        Action.on (records db) t = (.ok (rows.map Entry.record), u) := by
  obtain ⟨db, chosen, same, ready⟩ := calmDesk_opens
  obtain ⟨s, t, opens, makes, ready⟩ := ready { rows, saved := rows } rfl
  have keeps := keepsLedger db same
  have settled : ledger.Settled { rows, saved := rows } := rfl
  have opened := connect_moves (opens_rests keeps) { engine := { rows, saved := rows } } settled
  rw [opens] at opened
  have made := ensureLedger_ledger keeps opened.1
  rw [makes] at made
  have kept : ledger.rows t.engine = rows := made.2.trans opened.2
  obtain ⟨found, u, reads, -⟩ := records_ready same ready
  obtain ⟨ordered, inOrder, rfl⟩ := (records_ledger keeps made.1).2 reads
  obtain rfl : ordered = rows := (kept ▸ inOrder).eq_of_growing growing
  exact ⟨db, chosen, same, s, t, u, opens, makes, made.1, kept, reads⟩

end DataLayer.Command
