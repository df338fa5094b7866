import DataLayer.Proofs.Database.Course

/-! What an engine with transactions stores. What a transaction sees and what is saved differ only while a
change is open; main statement: after every statement, whether it went well or not, nothing is open, and a
statement that failed has changed nothing. -/

namespace DataLayer.Database

open DataLayer.Action

variable {σ τ α : Type}

/-- Where an engine stores something: as it stands in the running transaction, and as it was saved by the
last one. -/
structure Storage (σ τ : Type) where
  current : σ → τ
  saved : σ → τ

namespace Storage

/-- No change is open. -/
def Settled (storage : Storage σ τ) (engine : σ) : Prop := storage.saved engine = storage.current engine

/-- A request that leaves alone what is stored when no change of it is open. -/
def Leaves (storage : Storage σ τ) (request : σ → α × σ) : Prop :=
  ∀ engine, storage.Settled engine → storage.current (request engine).2 = storage.current engine ∧
    storage.saved (request engine).2 = storage.saved engine

/-- After a complaint nothing more is saved, and unless the complaint is one that a rollback follows,
nothing is left open. -/
def Spared (storage : Storage σ τ) (engine : σ) (fault : EngineFault) (after : σ) : Prop :=
  storage.saved after = storage.saved engine ∧
    (fault.kind.isDriverError = false → storage.current after = storage.saved engine)

/-- A statement that changes what is stored in one way when it goes well, and spares it when it does not. -/
def Executes (storage : Storage σ τ) (driver : Driver σ) (sql : Value) (params : List Value)
    (effect : Answer → τ → τ → Prop) : Prop :=
  ∀ engine, storage.Settled engine → match driver.execute sql params engine with
    | (.ok answer, after) =>
      storage.saved after = storage.saved engine ∧ effect answer (storage.current engine) (storage.current after)
    | (.error fault, after) => storage.Spared engine fault after

/-- What becomes of a statement: the change is saved, or there is none. -/
def Ends (storage : Storage σ τ) (effect : Answer → τ → τ → Prop) (engine after : σ) :
    Except EngineFault Statement → Prop
  | .ok _ => storage.Settled after ∧ ∃ answer, effect answer (storage.current engine) (storage.current after)
  | .error fault => storage.Spared engine fault after

/-- What becomes of some work: nothing is open at the end, and there is a change when the work goes well,
and none otherwise. -/
def Done (storage : Storage σ τ) (change : τ → τ → Prop) (s : Session σ) : Except Fault α × Session σ → Prop
  | (.ok _, t) => storage.Settled t.engine ∧ change (storage.current s.engine) (storage.current t.engine)
  | (.error _, t) => storage.Settled t.engine ∧ storage.current t.engine = storage.current s.engine

/-- From a session without an open change to another one that stores the same. -/
def Rests (storage : Storage σ τ) (s t : Session σ) : Prop :=
  storage.Settled s.engine → storage.Settled t.engine ∧ storage.current t.engine = storage.current s.engine

end Storage

open Storage

/-- A database whose engine has transactions: what is committed lasts, what is rolled back is gone, and
nothing but a statement makes a change. -/
structure KeepsStorage (db : Database σ) (storage : Storage σ τ) : Prop where
  connect : storage.Leaves db.driver.connect
  setup : ∀ sql, storage.Leaves (db.driver.setup sql)
  openCursor : ∀ prepared, storage.Leaves (db.driver.openCursor prepared)
  fetchAll : storage.Leaves db.driver.fetchAll
  commit : ∀ engine, match db.driver.commit engine with
    | (.ok (), after) =>
      storage.current after = storage.current engine ∧ storage.saved after = storage.current engine
    | (.error fault, after) => storage.Spared engine fault after
  rollback : ∀ engine, storage.current (db.driver.rollback engine) = storage.saved engine ∧
    storage.saved (db.driver.rollback engine) = storage.saved engine

section

variable {db : Database σ} {storage : Storage σ τ}

instance : Progress storage.Rests where
  refl _ settled := ⟨settled, rfl⟩
  trans first second settled := by
    obtain ⟨between, same⟩ := first settled
    obtain ⟨after, same'⟩ := second between
    exact ⟨after, same'.trans same⟩

theorem leaves_moves {request : σ → α × σ} (leaves : storage.Leaves request) (event : EngineEvent) :
    Session.Moves storage.Rests (Session.send event request) := by
  intro s settled
  obtain ⟨current, saved⟩ := leaves s.engine settled
  rw [Session.send_apply]
  refine ⟨?_, current⟩
  change storage.saved (request s.engine).2 = storage.current (request s.engine).2
  rw [saved, current]
  exact settled

theorem opens_storage (keeps : KeepsStorage db storage) : Opens db storage.Rests where
  connect _ _ := leaves_moves keeps.connect _
  setup sql := leaves_moves (keeps.setup sql) _
  openCursor prepared := leaves_moves (keeps.openCursor prepared) _
  closeCursor _ settled := ⟨settled, rfl⟩
  close _ settled := ⟨settled, rfl⟩
  flags _ _ _ settled := ⟨settled, rfl⟩
  noted _ _ settled := ⟨settled, rfl⟩

theorem handle_stores (keeps : KeepsStorage db storage) {s opened : Session σ} {result : Except Fault Unit}
    (settled : storage.Settled s.engine) (opening : Action.on (ensureHandle db) s = (result, opened)) :
    storage.Settled opened.engine ∧ storage.current opened.engine = storage.current s.engine := by
  have rests := ensureHandle_moves (opens_storage keeps) s settled
  rwa [opening] at rests

theorem cursor_stores (keeps : KeepsStorage db storage) {s opened : Session σ} {result : Except EngineFault Unit}
    {ready : σ} {prepared : Bool} (settled : storage.Settled s.engine)
    (opening : Action.on (ensureHandle db) s = (.ok (), opened))
    (cursor : db.driver.openCursor prepared opened.engine = (result, ready)) :
    storage.Settled ready ∧ storage.current ready = storage.current s.engine := by
  obtain ⟨open', current⟩ := handle_stores keeps settled opening
  obtain ⟨rests, current'⟩ := (opens_storage keeps).openCursor prepared opened open'
  rw [Session.send_apply, cursor] at rests current'
  exact ⟨rests, current'.trans current⟩

/-- Fetching has nothing to do with what is stored: a statement that changed it has no rows to fetch. -/
theorem fetches_stores (keeps : KeepsStorage db storage) {columns : List String} {engine after : σ}
    {result : Except EngineFault (List (List Value))} {events : List EngineEvent}
    (safe : columns = [] ∨ storage.Settled engine) (fetches : Fetches db.driver columns engine result events after) :
    storage.current after = storage.current engine ∧ storage.saved after = storage.saved engine := by
  cases fetches with
  | nothing bare => exact ⟨rfl, rfl⟩
  | rows wide fetched =>
    have left := keeps.fetchAll engine (safe.resolve_left wide)
    rwa [fetched] at left

/-- A statement on an open cursor that goes well is saved with its effect; one that does not is spared. -/
theorem performs_stores (keeps : KeepsStorage db storage) {sql : Value} {params : List Value}
    {effect : Answer → τ → τ → Prop} (executes : storage.Executes db.driver sql params effect)
    (bare : ∀ {answer before after}, effect answer before after → answer.columns = [] ∨ after = before)
    {engine after : σ} {result : Except EngineFault Statement} {events : List EngineEvent}
    (settled : storage.Settled engine) (performs : Performs db.driver sql params engine result events after) :
    storage.Ends effect engine after result := by
  have executed := executes engine settled
  -- What was read only is settled still, so that fetching its rows leaves it alone.
  have safe {answer : Answer} {between : σ} (saved : storage.saved between = storage.saved engine)
      (effected : effect answer (storage.current engine) (storage.current between)) :
      answer.columns = [] ∨ storage.Settled between := by
    refine (bare effected).imp_right fun same => ?_
    rw [Settled, saved, same]
    exact settled
  cases performs with
  | refused execute =>
    rw [execute] at executed
    exact executed
  | unfetched execute fetch =>
    rw [execute] at executed
    obtain ⟨saved, effected⟩ := executed
    obtain ⟨current, saved'⟩ := fetches_stores keeps (safe saved effected) fetch
    cases fetch with
    | rows wide fetched =>
      have same := (bare effected).resolve_left wide
      exact ⟨saved'.trans saved, fun _ => current.trans (same.trans settled.symm)⟩
  | @uncommitted _ _ _ _ _ fetched _ execute fetch commit =>
    rw [execute] at executed
    obtain ⟨saved, effected⟩ := executed
    obtain ⟨-, saved'⟩ := fetches_stores keeps (safe saved effected) fetch
    have committed := keeps.commit fetched
    rw [commit] at committed
    obtain ⟨last, given⟩ := committed
    rw [saved', saved] at last given
    exact ⟨last, given⟩
  | @done answer _ _ _ fetched _ execute fetch commit =>
    rw [execute] at executed
    obtain ⟨saved, effected⟩ := executed
    obtain ⟨current, -⟩ := fetches_stores keeps (safe saved effected) fetch
    have committed := keeps.commit fetched
    rw [commit] at committed
    obtain ⟨last, lasting⟩ := committed
    refine ⟨lasting.trans last.symm, answer, ?_⟩
    rw [last, current]
    exact effected

/-- The end of a statement closes what a complaint left open. -/
theorem conclude_stores (keeps : KeepsStorage db storage) (sql : Value) (params : List Value) {engine : σ}
    {fault : EngineFault} {s : Session σ} (settled : storage.Settled engine)
    (spared : storage.Spared engine fault s.engine) {change : τ → τ → Prop} {start : Session σ}
    (same : storage.current engine = storage.current start.engine) :
    storage.Done change start (conclude db sql params s (.error fault)) := by
  obtain ⟨saved, given⟩ := spared
  unfold conclude
  dsimp only
  split
  next driverError =>
    obtain ⟨current, saved'⟩ := keeps.rollback s.engine
    exact ⟨saved'.trans current.symm, (current.trans (saved.trans settled)).trans same⟩
  next other =>
    have current := given (Bool.not_eq_true _ ▸ other)
    exact ⟨saved.trans current.symm, (current.trans settled).trans same⟩

/-- After a statement nothing is open. It has its effect when it goes well, and none otherwise. -/
theorem run_stores (keeps : KeepsStorage db storage) {sql : Value} {params : List Value}
    {effect : Answer → τ → τ → Prop} (executes : storage.Executes db.driver sql params effect)
    (bare : ∀ {answer before after}, effect answer before after → answer.columns = [] ∨ after = before)
    {s : Session σ} (settled : storage.Settled s.engine) :
    storage.Done (fun before after => ∃ answer, effect answer before after) s (Action.on (run db sql params) s) := by
  have runs := run_runs db sql params s
  generalize Action.on (run db sql params) s = ended at runs ⊢
  cases runs with
  | unopened opening => exact handle_stores keeps settled opening
  | refused opening cursor => exact cursor_stores keeps settled opening cursor
  | @performed opened ready after result events opening cursor performs =>
    obtain ⟨ready', current⟩ := cursor_stores keeps settled opening cursor
    have performed := performs_stores keeps executes bare ready' performs
    cases result with
    | ok statement =>
      obtain ⟨ended, effected⟩ := performed
      exact ⟨ended, current ▸ effected⟩
    | error fault =>
      have spared : storage.Spared ready fault (opened.past (.openCursor (db.isPrepared params) :: events) after).engine :=
        performed
      exact conclude_stores keeps sql params ready' spared current

end

end DataLayer.Database
