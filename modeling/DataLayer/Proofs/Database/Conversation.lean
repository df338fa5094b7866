import DataLayer.Engine.Scripted
import DataLayer.Proofs.Database.Protocol

/-! What an engine sees of one statement, and what is logged and reported of it. Main statement: on an
open cursor the statement is executed once, its rows are fetched where it has columns, a commit ends what
went well and a rollback what the engine complained about, and the cursor is closed once and last,
whatever happens. -/

namespace DataLayer

variable {σ : Type}

/-- The fault that stops a statement on an open cursor: the first that the engine has when it executes
the statement, when the rows are fetched, where there are columns, or when it commits. -/
def Driver.failure (driver : Driver σ) (sql : Value) (params : List Value) (engine : σ) : Option EngineFault :=
  match driver.execute sql params engine with
  | (.error fault, _) => some fault
  | (.ok answer, executed) =>
    match if answer.columns = [] then (.ok [], executed) else driver.fetchAll executed with
    | (.error fault, _) => some fault
    | (.ok _, fetched) =>
      match driver.commit fetched with
      | (.error fault, _) => some fault
      | (.ok (), _) => none

/-- Holds when an engine executes a statement and its answer has columns. -/
def Driver.HasColumns (driver : Driver σ) (sql : Value) (params : List Value) (engine : σ) : Prop :=
  ∃ answer executed, driver.execute sql params engine = (.ok answer, executed) ∧ answer.columns ≠ []

namespace Database

variable {db : Database σ} {driver : Driver σ} {sql : Value} {params : List Value} {engine after : σ}

/-- The requests to fetch rows and to commit, where they are made. -/
def followUps (fetched committed : Bool) : List EngineEvent :=
  (if fetched then [.fetchAll] else []) ++ if committed then [.commit] else []

/-- The requests of one statement, from opening its cursor to closing it. -/
def conversation (prepared : Bool) (sql : Value) (params : List Value) (fetched committed rolledBack : Bool) :
    List EngineEvent :=
  .openCursor prepared :: .execute sql params :: followUps fetched committed
    ++ (if rolledBack then [.rollback] else []) ++ [.closeCursor]

/-- Whether rows are fetched is decided by the columns. -/
theorem fetches_eq {columns : List String} {rows : Except EngineFault (List (List Value))}
    {events : List EngineEvent} (fetch : Fetches driver columns engine rows events after) :
    (if columns = [] then (.ok [], engine) else driver.fetchAll engine) = (rows, after) ∧
      events = followUps (decide (columns ≠ [])) false := by
  cases fetch with
  | nothing bare => simp [bare, followUps]
  | rows wide fetched => simp [wide, fetched, followUps]

theorem followUps_commit (fetched : Bool) : followUps fetched false ++ [.commit] = followUps fetched true := by
  simp [followUps]

theorem columns_iff {answer : Answer} (execute : driver.execute sql params engine = (.ok answer, after)) :
    decide (answer.columns ≠ []) = true ↔ driver.HasColumns sql params engine := by
  simp [Driver.HasColumns, execute]

/-- The fault in a result. -/
def faultOf {α : Type} : Except EngineFault α → Option EngineFault
  | .ok _ => none
  | .error fault => some fault

/-- What follows a statement on its cursor, and the fault that it ends with. -/
theorem performs_followUps {result : Except EngineFault Statement} {events : List EngineEvent}
    (performs : Performs driver sql params engine result events after) :
    ∃ fetched committed, events = .execute sql params :: followUps fetched committed ∧
      (fetched = true ↔ driver.HasColumns sql params engine) ∧ (faultOf result = none → committed = true) ∧
      driver.failure sql params engine = faultOf result := by
  cases performs with
  | refused execute =>
    have none : ¬driver.HasColumns sql params engine := by simp [Driver.HasColumns, execute]
    exact ⟨false, false, rfl, by simp [none], nofun, by simp [Driver.failure, execute, faultOf]⟩
  | @unfetched answer fault events executed _ execute fetch =>
    obtain ⟨fetched, rfl⟩ := fetches_eq fetch
    exact ⟨decide (answer.columns ≠ []), false, rfl, columns_iff execute, nofun,
      by simp [Driver.failure, execute, fetched, faultOf]⟩
  | @uncommitted answer rows fault events executed _ _ execute fetch commit =>
    obtain ⟨fetched, rfl⟩ := fetches_eq fetch
    exact ⟨decide (answer.columns ≠ []), true, congrArg _ (followUps_commit _), columns_iff execute, fun _ => rfl,
      by simp [Driver.failure, execute, fetched, commit, faultOf]⟩
  | @done answer rows events executed _ _ execute fetch commit =>
    obtain ⟨fetched, rfl⟩ := fetches_eq fetch
    exact ⟨decide (answer.columns ≠ []), true, congrArg _ (followUps_commit _), columns_iff execute, fun _ => rfl,
      by simp [Driver.failure, execute, fetched, commit, faultOf]⟩

/-- What becomes of a statement by the fault that stopped it: whether it was committed and whether it was
rolled back, what was logged, and what it ends with. Words of the engine are shown where errors are
exposed. -/
def Concluded (db : Database σ) (sql : Value) (params : List Value) (committed rolledBack : Bool)
    (notices : List Notice) (result : Except Fault Statement) : Option EngineFault → Prop
  | none => committed = true ∧ rolledBack = false ∧ ∃ statement, result = .ok statement ∧
      notices = [.executed sql params.length statement.rows.length statement.rowcount]
  | some fault =>
    if fault.kind.isDriverError then
      rolledBack = true ∧ ∃ report, result = .error (.report report) ∧
        notices = [.failed sql report.kind fault.message] ∧
        report.kind = (if fault.kind = .integrity then .integrity else .query) ∧
        report.context.sql = sql ∧ report.engineMessage = .text fault.message ∧
        report.message = .text (if db.exposeErrors.isTruthy then fault.message else Report.genericMessage)
    else rolledBack = false ∧ notices = [] ∧ result = .error (.engine fault)

/-- A statement on an open cursor. -/
theorem run_conversation {s : Session σ} {ready : σ} (held : s.held = true)
    (opens : db.driver.openCursor (db.isPrepared params) s.engine = (.ok (), ready)) :
    let ended := Action.on (run db sql params) s
    ∃ fetched committed rolledBack notices,
      ended.2.events = s.events ++ conversation (db.isPrepared params) sql params fetched committed rolledBack ∧
      ended.2.log = s.log ++ notices.map (⟨·, s.context⟩) ∧
      (fetched = true ↔ db.driver.HasColumns sql params ready) ∧
      Concluded db sql params committed rolledBack notices ended.1 (db.driver.failure sql params ready) := by
  have runs := run_runs db sql params s
  generalize Action.on (run db sql params) s = ended at runs
  cases runs with
  | unopened opening =>
    rw [ensureHandle_held db held] at opening
    cases opening
  | refused opening cursor =>
    rw [ensureHandle_held db held] at opening
    cases opening
    rw [opens] at cursor
    cases cursor
  | @performed opened other after result events opening cursor performs =>
    rw [ensureHandle_held db held] at opening
    cases opening
    rw [opens] at cursor
    cases cursor
    obtain ⟨fetched, committed, rfl, columns, commits, failure⟩ := performs_followUps performs
    rw [failure]
    refine ⟨fetched, committed, ?_⟩
    rcases result with fault | statement
    · cases complains : fault.kind.isDriverError with
      | true =>
        refine ⟨true, [.failed sql (statementReport db sql fault).kind fault.message], ?_, ?_, columns, ?_⟩
        · simp [conclude, complains, conversation, Session.past, Session.noted]
        · simp [conclude, complains, Session.past, Session.noted]
        · simp only [Concluded, conclude, complains, faultOf, ↓reduceIte]
          exact ⟨trivial, _, rfl, rfl, rfl, rfl, rfl, rfl⟩
      | false =>
        refine ⟨false, [], ?_, ?_, columns, ?_⟩
        · simp [conclude, complains, conversation, Session.past]
        · simp [conclude, complains, Session.past]
        · simp [Concluded, conclude, complains, faultOf]
    · refine ⟨false, [.executed sql params.length statement.rows.length statement.rowcount], ?_, ?_, columns, ?_⟩
      · simp [conclude, conversation, Session.past, Session.noted]
      · simp [conclude, Session.past, Session.noted]
      · exact ⟨commits rfl, rfl, statement, rfl, rfl⟩

/-- A constraint that is checked only when the statement commits. -/
theorem run_conversation_deferred :
    let broken : EngineFault := ⟨.integrity, "FOREIGN KEY constraint failed"⟩
    let response : Scripted.Response := { columns := ["id"], rows := [[.int 7]], complaint := some (.commit, broken) }
    let db : Database Scripted.Engine :=
      { kind := .mysql, config := {}, exposeErrors := .bool true, now := ⟨⟨2025, 1, 1⟩, ⟨0, 0, 0, 0, none⟩⟩,
        driver := Scripted.driver }
    let s : Session Scripted.Engine := { engine := { script := [response] }, held := true, connected := true }
    let sql : Value := .text "INSERT INTO t (a) VALUES (?) RETURNING id"
    let params : List Value := [.int 1]
    let ended := Action.on (run db sql params) s
    s.held = true ∧ db.driver.openCursor (db.isPrepared params) s.engine = (.ok (), s.engine) ∧
      db.driver.failure sql params s.engine = some broken ∧
      ∃ fetched committed rolledBack notices,
        ended.2.events = s.events ++ conversation (db.isPrepared params) sql params fetched committed rolledBack ∧
        ended.2.log = s.log ++ notices.map (⟨·, s.context⟩) ∧
        (fetched = true ↔ db.driver.HasColumns sql params s.engine) ∧
        Concluded db sql params committed rolledBack notices ended.1 (some broken) := by
  intro broken response db s sql params ended
  have held : s.held = true := rfl
  have opens : db.driver.openCursor (db.isPrepared params) s.engine = (.ok (), s.engine) := rfl
  have failure : db.driver.failure sql params s.engine = some broken := by rfl
  refine ⟨held, opens, failure, ?_⟩
  rw [← failure]
  exact run_conversation held opens

end Database
end DataLayer
