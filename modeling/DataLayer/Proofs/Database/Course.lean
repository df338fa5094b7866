import DataLayer.Proofs.Database.Opening
import DataLayer.Proofs.Database.Protocol

/-! What holds of every step of opening a handle holds of the whole, in whatever way it ends. Main
statement: running a statement sends it once, or fails before any was sent. -/

namespace DataLayer.Database

variable {σ α : Type} {db : Database σ} {relation : Session σ → Session σ → Prop}

/-- A relation that every single step of opening and closing a handle stays within. -/
structure Opens (db : Database σ) (relation : Session σ → Session σ → Prop) : Prop where
  connect : ∀ kind keywords, Session.Moves relation (Session.send (.connect kind keywords) db.driver.connect)
  setup : ∀ sql, Session.Moves relation (Session.send (.setup sql) (db.driver.setup sql))
  openCursor : ∀ prepared,
    Session.Moves relation (Session.send (.openCursor prepared) (db.driver.openCursor prepared))
  closeCursor : Session.Moves relation (Session.record (σ := σ) .closeCursor)
  close : Session.Moves relation (Session.record (σ := σ) .close)
  flags : ∀ (s : Session σ) held connected, relation s { s with held, connected }
  noted : ∀ (s : Session σ) notice, relation s (s.noted notice)

/-- The same of a relation that not every notice stays within, but the only one that is logged on the way: that the
connection is open. -/
structure Handles (db : Database σ) (relation : Session σ → Session σ → Prop) : Prop where
  connect : ∀ kind keywords, Session.Moves relation (Session.send (.connect kind keywords) db.driver.connect)
  setup : ∀ sql, Session.Moves relation (Session.send (.setup sql) (db.driver.setup sql))
  openCursor : ∀ prepared,
    Session.Moves relation (Session.send (.openCursor prepared) (db.driver.openCursor prepared))
  closeCursor : Session.Moves relation (Session.record (σ := σ) .closeCursor)
  close : Session.Moves relation (Session.record (σ := σ) .close)
  flags : ∀ (s : Session σ) held connected, relation s { s with held, connected }
  opened : ∀ (s : Session σ) kind target offset, relation s (s.noted (.connected kind target offset))

theorem Opens.handles (opens : Opens db relation) : Handles db relation :=
  { opens with opened := fun s _ _ _ => opens.noted s _ }

theorem connectionFailed_moves [Progress relation] (engine : String) (fault : EngineFault) :
    Action.Moves relation (connectionFailed engine fault : Action σ α) := by
  unfold connectionFailed
  split
  · exact Action.moves_refuse _
  · exact Action.moves_fail _

theorem connectEmbedded_moves [Progress relation] (handles : Handles db relation) :
    Action.Moves relation (connectEmbedded db) := by
  unfold connectEmbedded
  dsimp only
  refine Action.moves_bind (Action.moves_check _) fun locator => ?_
  refine Action.moves_bind (Action.moves_ofState (handles.connect _ _)) fun opened => ?_
  cases opened with
  | error fault => exact connectionFailed_moves _ _
  | ok nothing =>
    refine Action.moves_bind (Action.moves_modify fun s => handles.flags s _ _) fun nothing => ?_
    refine Action.moves_bind (Action.moves_ofState (handles.setup _)) fun prepared => ?_
    cases prepared with
    | error fault => exact connectionFailed_moves _ _
    | ok nothing =>
      refine Action.moves_bind (Action.moves_modify fun s => handles.flags s _ _) fun nothing => ?_
      exact Action.moves_note fun s => handles.opened s _ _ _

theorem prepareServer_moves [Progress relation] (handles : Handles db relation) (offset : String) :
    Session.Moves relation (prepareServer db offset) := by
  unfold prepareServer
  refine Session.moves_bind (handles.openCursor _) fun opened => ?_
  cases opened with
  | error fault => exact Session.moves_pure _
  | ok nothing =>
    refine Session.moves_bind (handles.setup _) fun prepared => ?_
    refine Session.moves_bind handles.closeCursor fun nothing => ?_
    exact Session.moves_pure _

theorem release_moves [Progress relation] (handles : Handles db relation) :
    Session.Moves relation (release : StateM (Session σ) Unit) :=
  Session.moves_bind handles.close fun _ s => handles.flags s _ _

theorem connectServer_moves [Progress relation] (handles : Handles db relation) :
    Action.Moves relation (connectServer db) := by
  unfold connectServer
  refine Action.moves_bind (Action.moves_ofExcept _) fun offset => ?_
  dsimp only
  split
  · exact Action.moves_fail _
  · refine Action.moves_bind (Action.moves_ofState (handles.connect _ _)) fun opened => ?_
    cases opened with
    | error fault => exact connectionFailed_moves _ _
    | ok nothing =>
      refine Action.moves_bind (Action.moves_modify fun s => handles.flags s _ _) fun nothing => ?_
      refine Action.moves_bind (Action.moves_ofState (prepareServer_moves handles offset)) fun prepared => ?_
      cases prepared with
      | error fault =>
        dsimp only
        split
        · exact Action.moves_bind (Action.moves_ofState (release_moves handles))
            fun _ => connectionFailed_moves _ _
        · exact connectionFailed_moves _ _
      | ok nothing =>
        refine Action.moves_bind (Action.moves_modify fun s => handles.flags s _ _) fun nothing => ?_
        exact Action.moves_note fun s => handles.opened s _ _ _

theorem connect_handles [Progress relation] (handles : Handles db relation) :
    Action.Moves relation (connect db) := by
  unfold connect
  refine Action.moves_bind Action.moves_get fun s => ?_
  split
  · exact Action.moves_pure _
  · cases db.kind with
    | sqlite => exact connectEmbedded_moves handles
    | mysql => exact connectServer_moves handles

theorem connect_moves [Progress relation] (opens : Opens db relation) :
    Action.Moves relation (connect db) :=
  connect_handles opens.handles

theorem ensureHandle_moves [Progress relation] (opens : Opens db relation) :
    Action.Moves relation (ensureHandle db) := by
  unfold ensureHandle
  refine Action.moves_bind Action.moves_get fun s => ?_
  split
  · exact connect_moves opens
  · exact Action.moves_pure _

theorem disconnect_moves [Progress relation] (opens : Opens db relation) :
    Action.Moves relation (disconnect db) := by
  unfold disconnect
  refine Action.moves_bind Action.moves_get fun s => ?_
  split
  · refine Action.moves_bind (Action.moves_ofState (release_moves opens.handles)) fun nothing => ?_
    exact Action.moves_modify fun s => opens.flags s _ _
  · split
    · exact Action.moves_modify fun s => opens.flags s _ _
    · exact Action.moves_pure _

/-- The statements among what an engine is asked for, each with its values. -/
def executions (events : List EngineEvent) : List (Value × List Value) :=
  events.filterMap fun
    | .execute sql params => some (sql, params)
    | _ => none

theorem executions_append (events more : List EngineEvent) :
    executions (events ++ more) = executions events ++ executions more :=
  List.filterMap_append

/-- The engine is asked for more, but for no statement. -/
def Idle (s t : Session σ) : Prop := ∃ new, t.events = s.events ++ new ∧ executions new = []

instance : Progress (Idle (σ := σ)) where
  refl s := ⟨[], by simp, rfl⟩
  trans := by
    rintro r s t ⟨new, grown, none⟩ ⟨more, grown', none'⟩
    refine ⟨new ++ more, ?_, ?_⟩
    · rw [grown', grown, List.append_assoc]
    · rw [executions_append, none, none', List.append_nil]

/-- Opening and closing a handle asks for no statement. -/
theorem opens_idle (db : Database σ) : Opens db Idle where
  connect _ _ _ := ⟨_, rfl, rfl⟩
  setup _ _ := ⟨_, rfl, rfl⟩
  openCursor _ _ := ⟨_, rfl, rfl⟩
  closeCursor _ := ⟨_, rfl, rfl⟩
  close _ := ⟨_, rfl, rfl⟩
  flags _ _ _ := ⟨[], by simp, rfl⟩
  noted s _ := ⟨[], by simp [Session.noted], rfl⟩

theorem opening_idle {s opened : Session σ} {result : Except Fault Unit}
    (opening : Action.on (ensureHandle db) s = (result, opened)) : Idle s opened := by
  have moves := ensureHandle_moves (opens_idle db) s
  rwa [opening] at moves

theorem fetches_executions {driver : Driver σ} {columns : List String} {engine after : σ}
    {rows : Except EngineFault (List (List Value))} {events : List EngineEvent}
    (fetch : Fetches driver columns engine rows events after) : executions events = [] := by
  cases fetch <;> rfl

theorem performs_executions {driver : Driver σ} {sql : Value} {params : List Value} {engine after : σ}
    {result : Except EngineFault Statement} {events : List EngineEvent}
    (performs : Performs driver sql params engine result events after) :
    ∃ rest, events = .execute sql params :: rest ∧ executions rest = [] := by
  cases performs with
  | refused execute => exact ⟨[], rfl, rfl⟩
  | unfetched execute fetch => exact ⟨_, rfl, fetches_executions fetch⟩
  | @uncommitted answer rows fault events executed fetched after execute fetch commit =>
    refine ⟨events ++ [.commit], rfl, ?_⟩
    rw [executions_append, fetches_executions fetch]
    rfl
  | @done answer rows events executed fetched after execute fetch commit =>
    refine ⟨events ++ [.commit], rfl, ?_⟩
    rw [executions_append, fetches_executions fetch]
    rfl

theorem conclude_idle (db : Database σ) (sql : Value) (params : List Value) (s : Session σ)
    (result : Except EngineFault Statement) : Idle s (conclude db sql params s result).2 := by
  cases result with
  | ok statement => exact ⟨[.closeCursor], rfl, rfl⟩
  | error fault =>
    unfold conclude
    dsimp only
    split
    · exact ⟨[.rollback, .closeCursor], by simp [Session.past, Session.noted], rfl⟩
    · exact ⟨[.closeCursor], rfl, rfl⟩

/-- Holds when a statement with these values gets a cursor: connecting and opening the cursor succeed. -/
def Admits (db : Database σ) (params : List Value) (s : Session σ) : Prop :=
  ∃ opened ready, Action.on (connect db) s = (.ok (), opened) ∧
    db.driver.openCursor (db.isPrepared params) opened.engine = (.ok (), ready)

/-- A statement that gets a cursor is sent once. Without one no statement is sent, and running it fails. -/
theorem run_sends (db : Database σ) (sql : Value) (params : List Value) (s : Session σ) :
    ∃ new, (Action.on (run db sql params) s).2.events = s.events ++ new ∧
      (db.Admits params s → executions new = [(sql, params)]) ∧
      (¬ db.Admits params s → executions new = [] ∧ ∃ fault, (Action.on (run db sql params) s).1 = .error fault) := by
  have runs := run_runs db sql params s
  generalize Action.on (run db sql params) s = ended at runs ⊢
  cases runs with
  | unopened opening =>
    obtain ⟨new, grown, none⟩ := opening_idle opening
    refine ⟨new, grown, ?_, fun _ => ⟨none, _, rfl⟩⟩
    rintro ⟨opened, ready, connected, -⟩
    rw [← on_ensureHandle, opening] at connected
    cases connected
  | refused opening cursor =>
    obtain ⟨new, grown, none⟩ := opening_idle opening
    refine ⟨new ++ [.openCursor (db.isPrepared params)], ?_, ?_, fun _ => ⟨?_, _, rfl⟩⟩
    · simp only [Session.past, grown, List.append_assoc]
    · rintro ⟨opened, ready, connected, granted⟩
      rw [← on_ensureHandle, opening] at connected
      cases connected
      rw [cursor] at granted
      cases granted
    · rw [executions_append, none]
      rfl
  | @performed opened _ after result events opening cursor performs =>
    obtain ⟨new, grown, none⟩ := opening_idle opening
    obtain ⟨more, grown', none'⟩ := conclude_idle db sql params
      (opened.past (.openCursor (db.isPrepared params) :: events) after) result
    refine ⟨new ++ (.openCursor (db.isPrepared params) :: events ++ more), ?_, fun _ => ?_, fun unadmitted => ?_⟩
    · rw [grown']
      simp only [Session.past, grown, List.append_assoc]
    · obtain ⟨rest, rfl, silent⟩ := performs_executions performs
      have opening : executions (.openCursor (db.isPrepared params) :: .execute sql params :: rest) =
          (sql, params) :: executions rest := rfl
      rw [executions_append, none, executions_append, none', opening, silent]
      rfl
    · rw [on_ensureHandle] at opening
      exact absurd ⟨opened, _, opening, cursor⟩ unadmitted

/-- Running a statement sends it once, or fails before the engine has seen any statement. -/
theorem run_executions (db : Database σ) (sql : Value) (params : List Value) (s : Session σ) :
    ∃ new, (Action.on (run db sql params) s).2.events = s.events ++ new ∧
      (executions new = [(sql, params)] ∨
        executions new = [] ∧ ∃ fault, (Action.on (run db sql params) s).1 = .error fault) := by
  obtain ⟨new, grown, admitted, unadmitted⟩ := run_sends db sql params s
  by_cases admits : db.Admits params s
  · exact ⟨new, grown, .inl (admitted admits)⟩
  · exact ⟨new, grown, .inr (unadmitted admits)⟩

end DataLayer.Database
