import DataLayer.Database.Run
import DataLayer.Proofs.Session

/-! The ways in which one statement can go. A handle is opened when none is held, a cursor is
opened, the statement runs on it, its rows are fetched when it has columns, and a commit ends it;
each of these steps can fail, and then the later ones are left out. -/

namespace DataLayer

variable {σ : Type}

namespace Database

/-- Fetching the rows of an answer: nothing is asked of the engine when there are no columns. -/
inductive Fetches (driver : Driver σ) (columns : List String) (engine : σ) :
    Except EngineFault (List (List Value)) → List EngineEvent → σ → Prop where
  | nothing (bare : columns = []) : Fetches driver columns engine (.ok []) [] engine
  | rows {result : Except EngineFault (List (List Value))} {after : σ} (wide : columns ≠ [])
      (fetched : driver.fetchAll engine = (result, after)) :
      Fetches driver columns engine result [.fetchAll] after

/-- What can become of a statement on an open cursor, with the events that the engine sees and the
engine afterwards. -/
inductive Performs (driver : Driver σ) (sql : Value) (params : List Value) (engine : σ) :
    Except EngineFault Statement → List EngineEvent → σ → Prop where
  | refused {fault : EngineFault} {after : σ}
      (execute : driver.execute sql params engine = (.error fault, after)) :
      Performs driver sql params engine (.error fault) [.execute sql params] after
  | unfetched {answer : Answer} {fault : EngineFault} {events : List EngineEvent} {executed after : σ}
      (execute : driver.execute sql params engine = (.ok answer, executed))
      (fetch : Fetches driver answer.columns executed (.error fault) events after) :
      Performs driver sql params engine (.error fault) (.execute sql params :: events) after
  | uncommitted {answer : Answer} {rows : List (List Value)} {fault : EngineFault}
      {events : List EngineEvent} {executed fetched after : σ}
      (execute : driver.execute sql params engine = (.ok answer, executed))
      (fetch : Fetches driver answer.columns executed (.ok rows) events fetched)
      (commit : driver.commit fetched = (.error fault, after)) :
      Performs driver sql params engine (.error fault) (.execute sql params :: events ++ [.commit]) after
  | done {answer : Answer} {rows : List (List Value)} {events : List EngineEvent}
      {executed fetched after : σ}
      (execute : driver.execute sql params engine = (.ok answer, executed))
      (fetch : Fetches driver answer.columns executed (.ok rows) events fetched)
      (commit : driver.commit fetched = (.ok (), after)) :
      Performs driver sql params engine
        (.ok { rows := rows.map (Row.ofColumns answer.columns), rowcount := answer.rowcount,
               lastrowid := answer.lastrowid })
        (.execute sql params :: events ++ [.commit]) after

/-- A commit that follows the rows, whether there was anything to fetch or not. -/
theorem commit_performs {db : Database σ} {sql : Value} {params : List Value} {s : Session σ}
    {answer : Answer} {executed fetched : σ} {rows : List (List Value)} {events : List EngineEvent}
    (execute : db.driver.execute sql params s.engine = (.ok answer, executed))
    (fetch : Fetches db.driver answer.columns executed (.ok rows) events fetched) :
    ∃ result more engine, Performs db.driver sql params s.engine result more engine ∧
      Action.on (do
        ExceptT.mk (Session.send .commit db.driver.commit)
        pure { rows := rows.map (Row.ofColumns answer.columns), rowcount := answer.rowcount,
               lastrowid := answer.lastrowid } : ExceptT EngineFault (StateM (Session σ)) Statement)
        (s.past (.execute sql params :: events) fetched) = (result, s.past more engine) := by
  rcases commit : db.driver.commit fetched with ⟨committed, after⟩
  simp only [Action.on_bind, Action.on_mk, Session.send_apply, Session.past_past]
  cases committed with
  | error fault =>
    refine ⟨_, _, _, .uncommitted execute fetch commit, ?_⟩
    simp only [Session.past, commit]
  | ok nothing =>
    refine ⟨_, _, _, .done execute fetch commit, ?_⟩
    simp only [Session.past, commit, Action.on_pure]

/-- A statement on an open cursor goes one of these ways. -/
theorem perform_performs (db : Database σ) (sql : Value) (params : List Value) (s : Session σ) :
    ∃ result events engine, Performs db.driver sql params s.engine result events engine ∧
      Action.on (perform db sql params) s = (result, s.past events engine) := by
  unfold perform
  rw [Action.on_bind, Action.on_mk, Session.send_apply]
  rcases execute : db.driver.execute sql params s.engine with ⟨answer, executed⟩
  cases answer with
  | error fault => exact ⟨_, _, _, .refused execute, rfl⟩
  | ok answer =>
    by_cases bare : answer.columns = []
    · simp only [bare, List.isEmpty_nil, ↓reduceIte, pure_bind]
      have ended := commit_performs execute (.nothing bare)
      simpa only [bare] using ended
    · have wide : answer.columns.isEmpty = false := by simpa using bare
      simp only [wide, Bool.false_eq_true, ↓reduceIte]
      rw [Action.on_bind, Action.on_mk, Session.send_apply, Session.past_past]
      rcases fetched : db.driver.fetchAll executed with ⟨rows, after⟩
      cases rows with
      | error fault =>
        refine ⟨_, _, _, .unfetched execute (.rows bare fetched), ?_⟩
        simp only [Session.past, fetched, List.singleton_append]
      | ok rows =>
        have ended := commit_performs execute (.rows bare fetched)
        simpa only [Session.past, fetched, List.singleton_append] using ended

/-- Holds when the cursor of a statement with these values is a prepared one. -/
def isPrepared (db : Database σ) (params : List Value) : Bool :=
  db.kind = .mysql && !params.isEmpty

/-- Where a handle is held there is nothing to open. -/
theorem ensureHandle_held (db : Database σ) {s : Session σ} (held : s.held = true) :
    Action.on (ensureHandle db) s = (.ok (), s) := by
  unfold ensureHandle
  rw [Action.on_bind, Action.on_get]
  dsimp only
  rw [held]
  rfl

/-- The end of a statement. What went well is logged, a complaint of the engine is rolled back and
reported, and any other fault goes through as it is. The cursor is closed in every case. -/
def conclude (db : Database σ) (sql : Value) (params : List Value) (s : Session σ) :
    Except EngineFault Statement → Except Fault Statement × Session σ
  | .ok statement =>
    (.ok statement, (s.past [.closeCursor] s.engine).noted
      (.executed sql params.length statement.rows.length statement.rowcount))
  | .error fault =>
    let report := statementReport db sql fault
    let rolledBack := s.past [.rollback] (db.driver.rollback s.engine)
    if fault.kind.isDriverError then
      (.error (.report report), (rolledBack.noted (.failed sql report.kind fault.message)).past
        [.closeCursor] rolledBack.engine)
    else (.error (.engine fault), s.past [.closeCursor] s.engine)

/-- What can become of one statement from a session on. -/
inductive Runs (db : Database σ) (sql : Value) (params : List Value) (s : Session σ) :
    Except Fault Statement × Session σ → Prop where
  | unopened {fault : Fault} {after : Session σ}
      (opening : Action.on (ensureHandle db) s = (.error fault, after)) :
      Runs db sql params s (.error fault, after)
  | refused {opened : Session σ} {fault : EngineFault} {after : σ}
      (opening : Action.on (ensureHandle db) s = (.ok (), opened))
      (cursor : db.driver.openCursor (db.isPrepared params) opened.engine = (.error fault, after)) :
      Runs db sql params s
        (.error (.engine fault), opened.past [.openCursor (db.isPrepared params)] after)
  | performed {opened : Session σ} {ready after : σ} {result : Except EngineFault Statement}
      {events : List EngineEvent} (opening : Action.on (ensureHandle db) s = (.ok (), opened))
      (cursor : db.driver.openCursor (db.isPrepared params) opened.engine = (.ok (), ready))
      (performs : Performs db.driver sql params ready result events after) :
      Runs db sql params s (conclude db sql params
        (opened.past (.openCursor (db.isPrepared params) :: events) after) result)

theorem run_runs (db : Database σ) (sql : Value) (params : List Value) (s : Session σ) :
    Runs db sql params s (Action.on (run db sql params) s) := by
  unfold run
  rw [Action.on_bind]
  rcases opening : Action.on (ensureHandle db) s with ⟨result, opened⟩
  cases result with
  | error fault => exact .unopened opening
  | ok nothing =>
    change Runs db sql params s (Action.on (Action.ofState (Session.send
      (.openCursor (db.isPrepared params)) (db.driver.openCursor (db.isPrepared params))) >>= _) opened)
    rw [Action.on_bind, Action.on_ofState, Session.send_apply]
    rcases cursor : db.driver.openCursor (db.isPrepared params) opened.engine with ⟨result, ready⟩
    cases result with
    | error fault => exact .refused opening cursor
    | ok nothing =>
      obtain ⟨result, events, after, performs, ended⟩ :=
        perform_performs db sql params (opened.past [.openCursor (db.isPrepared params)] ready)
      have runs := Runs.performed opening cursor performs
      simp only [Action.on_bind, Action.on_ofState]
      change (perform db sql params).run _ = _ at ended
      rw [ended, Session.past_past]
      cases result with
      | ok statement => exact runs
      | error fault =>
        cases driverError : fault.kind.isDriverError with
        | true =>
          simp only [conclude, driverError, ↓reduceIte] at runs ⊢
          exact runs
        | false =>
          simp only [conclude, driverError, Bool.false_eq_true, ↓reduceIte] at runs ⊢
          exact runs

/-- A statement that gets a cursor goes one of its ways there, and is concluded. -/
theorem run_performed {db : Database σ} {params : List Value} {s opened : Session σ} {ready : σ}
    (opening : Action.on (ensureHandle db) s = (.ok (), opened))
    (cursor : db.driver.openCursor (db.isPrepared params) opened.engine = (.ok (), ready)) (sql : Value) :
    ∃ result events after, Performs db.driver sql params ready result events after ∧
      Action.on (run db sql params) s =
        conclude db sql params (opened.past (.openCursor (db.isPrepared params) :: events) after) result := by
  have runs := run_runs db sql params s
  generalize Action.on (run db sql params) s = ended at runs ⊢
  cases runs with
  | unopened failed =>
    rw [opening] at failed
    cases failed
  | refused opens failed =>
    rw [opening] at opens
    cases opens
    rw [cursor] at failed
    cases failed
  | performed opens granted performs =>
    rw [opening] at opens
    cases opens
    rw [cursor] at granted
    cases granted
    exact ⟨_, _, _, performs, rfl⟩

/-- A statement that goes well was executed on a cursor, and its rows were fetched. -/
theorem run_ok {db : Database σ} {sql : Value} {params : List Value} {s t : Session σ} {statement : Statement}
    (ran : Action.on (run db sql params) s = (.ok statement, t)) :
    ∃ opened ready answer executed cells events fetched,
      Action.on (ensureHandle db) s = (.ok (), opened) ∧
      db.driver.openCursor (db.isPrepared params) opened.engine = (.ok (), ready) ∧
      db.driver.execute sql params ready = (.ok answer, executed) ∧
      Fetches db.driver answer.columns executed (.ok cells) events fetched ∧
      statement.rows = cells.map (Row.ofColumns answer.columns) := by
  have runs := run_runs db sql params s
  rw [ran] at runs
  generalize ended : ((.ok statement, t) : Except Fault Statement × Session σ) = last at runs
  cases runs with
  | unopened opening => cases ended
  | refused opening cursor => cases ended
  | @performed opened ready after result events opening cursor performs =>
    cases performs with
    | done execute fetch commit =>
      cases ended
      exact ⟨_, _, _, _, _, _, _, opening, cursor, execute, fetch, rfl⟩
    | _ =>
      unfold conclude at ended
      dsimp only at ended
      split at ended <;> cases ended

end Database
end DataLayer
