import DataLayer.Proofs.Database.Access

/-! Databases on engines that accept everything. What an engine accepts may depend on its state, as long as no
request leads out of the states in which it does. Main statement: where the connection opens, every statement goes
well and leaves it open. -/

namespace DataLayer

open DataLayer.Action

variable {σ α : Type}

/-- An answer without a complaint, after which the engine is calm. -/
def Driver.Accepted (calm : σ → Prop) (answered : Except EngineFault α × σ) : Prop :=
  (∃ value, answered.1 = .ok value) ∧ calm answered.2

/-- An engine that accepts every request while it is calm, and stays so. -/
structure Driver.Accepts (driver : Driver σ) (calm : σ → Prop) : Prop where
  connect : ∀ ⦃engine⦄, calm engine → Accepted calm (driver.connect engine)
  setup : ∀ sql ⦃engine⦄, calm engine → Accepted calm (driver.setup sql engine)
  openCursor : ∀ prepared ⦃engine⦄, calm engine → Accepted calm (driver.openCursor prepared engine)
  execute : ∀ sql params ⦃engine⦄, calm engine → Accepted calm (driver.execute sql params engine)
  fetchAll : ∀ ⦃engine⦄, calm engine → Accepted calm (driver.fetchAll engine)
  commit : ∀ ⦃engine⦄, calm engine → Accepted calm (driver.commit engine)

namespace Database

variable {db : Database σ} {driver : Driver σ} {calm : σ → Prop} {s t : Session σ}

/-- No complaint is made, and the engine is calm after an answer. -/
theorem accepted_cases {result : Except EngineFault α} {after : σ} {answered : Except EngineFault α × σ}
    (accepted : Driver.Accepted calm answered) (given : answered = (result, after)) :
    (∃ value, result = .ok value) ∧ calm after := by
  subst given
  exact accepted

theorem fetches_accepted (accepts : driver.Accepts calm) {columns : List String} {engine after : σ}
    {result : Except EngineFault (List (List Value))} {events : List EngineEvent} (quiet : calm engine)
    (fetches : Fetches driver columns engine result events after) : (∃ rows, result = .ok rows) ∧ calm after := by
  cases fetches with
  | nothing bare => exact ⟨⟨[], rfl⟩, quiet⟩
  | rows wide fetched => exact accepted_cases (accepts.fetchAll quiet) fetched

theorem performs_accepted (accepts : driver.Accepts calm) {sql : Value} {params : List Value} {engine after : σ}
    {result : Except EngineFault Statement} {events : List EngineEvent} (quiet : calm engine)
    (performs : Performs driver sql params engine result events after) :
    (∃ statement, result = .ok statement) ∧ calm after := by
  cases performs with
  | refused execute =>
    obtain ⟨⟨_, taken⟩, -⟩ := accepted_cases (accepts.execute sql params quiet) execute
    cases taken
  | unfetched execute fetch =>
    obtain ⟨-, executed⟩ := accepted_cases (accepts.execute sql params quiet) execute
    obtain ⟨⟨_, taken⟩, -⟩ := fetches_accepted accepts executed fetch
    cases taken
  | uncommitted execute fetch commit =>
    obtain ⟨-, executed⟩ := accepted_cases (accepts.execute sql params quiet) execute
    obtain ⟨-, fetched⟩ := fetches_accepted accepts executed fetch
    obtain ⟨⟨_, taken⟩, -⟩ := accepted_cases (accepts.commit fetched) commit
    cases taken
  | done execute fetch commit =>
    obtain ⟨-, executed⟩ := accepted_cases (accepts.execute sql params quiet) execute
    obtain ⟨-, fetched⟩ := fetches_accepted accepts executed fetch
    obtain ⟨-, committed⟩ := accepted_cases (accepts.commit fetched) commit
    exact ⟨⟨_, rfl⟩, committed⟩

/-- A session from which a statement can run: its engine is calm, and the connection is open or opens. -/
structure Willing (db : Database σ) (calm : σ → Prop) (s : Session σ) : Prop where
  quiet : calm s.engine
  opens : (Action.on (connect db) s).1 = .ok ()

theorem willing_of_held (quiet : calm s.engine) (held : s.held = true) : db.Willing calm s where
  quiet
  opens := by rw [← on_ensureHandle, ensureHandle_held db held]

/-- An open connection on an engine that was calm before is open to further statements. -/
theorem Willing.opened (accepts : db.driver.Accepts calm) (willing : db.Willing calm s)
    (opening : Action.on (connect db) s = (.ok (), t)) : t.held = true ∧ calm t.engine := by
  have connects := connect_connects db s
  rw [opening] at connects
  generalize ended : ((.ok (), t) : Except Fault Unit × Session σ) = last at connects
  cases connects with
  | held held =>
    cases ended
    exact ⟨held, willing.quiet⟩
  | unasked free own => cases ended
  | refused free connect => cases ended
  | abandoned free connect readies gives => cases ended
  | halfway free connect readies keeps => cases ended
  | opened free connect prepares readies =>
    cases ended
    obtain ⟨-, fresh⟩ := accepted_cases (accepts.connect willing.quiet) connect
    refine ⟨rfl, ?_⟩
    cases readies with
    | embedded kind setup => exact (accepted_cases (accepts.setup _ fresh) setup).2
    | server kind cursor setup =>
      obtain ⟨-, ready⟩ := accepted_cases (accepts.openCursor false fresh) cursor
      exact (accepted_cases (accepts.setup _ ready) setup).2

/-- Where everything is accepted a statement goes well, and leaves the connection open. -/
theorem run_willing (accepts : db.driver.Accepts calm) (willing : db.Willing calm s) (sql : Value)
    (params : List Value) :
    ∃ statement t, Action.on (run db sql params) s = (.ok statement, t) ∧ t.held = true ∧ calm t.engine := by
  obtain ⟨opened, opening⟩ : ∃ opened, Action.on (connect db) s = (.ok (), opened) := ⟨_, Prod.ext willing.opens rfl⟩
  obtain ⟨held, quiet⟩ := willing.opened accepts opening
  obtain ⟨⟨_, granted⟩, ready⟩ := accepts.openCursor (db.isPrepared params) quiet
  obtain ⟨result, events, after, performs, ran⟩ :=
    run_performed ((on_ensureHandle db s).trans opening) (Prod.ext granted rfl) sql
  obtain ⟨⟨statement, rfl⟩, calm⟩ := performs_accepted accepts ready performs
  exact ⟨statement, _, ran, held, calm⟩

/-- So does the creation of a table whose description compiles. -/
theorem create_willing (accepts : db.driver.Accepts calm) (willing : db.Willing calm s) {table : Value}
    {describe : Schema.Describe} {sql : String}
    (compiled : Schema.compile db.dialect table true describe = .ok (some sql)) :
    ∃ t, Action.on (Schema.create db table describe) s = (.ok (some sql), t) ∧ t.held = true ∧ calm t.engine := by
  obtain ⟨statement, t, ran, opened⟩ := run_willing accepts willing (.text sql) []
  refine ⟨t, ?_, opened⟩
  unfold Schema.create
  rw [Access.on_applyBlueprint, compiled]
  dsimp only
  rw [ran]
  rfl

end Database
end DataLayer
