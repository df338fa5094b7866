import DataLayer.Proofs.Database.Course
import DataLayer.Proofs.Database.Opening

/-! What a row of requests tells of an engine. The answers of an engine depend on its state alone, so the
requests of a session, made again from the start, show which of them went well: how many handles were
opened and closed, which statement prepared the newest one, and which statements wait for a commit. -/

namespace DataLayer

variable {σ α : Type}

/-- The fault that a request was answered with, if there was one, and the engine afterwards. -/
def Driver.answered (result : Except EngineFault α × σ) : Option EngineFault × σ :=
  match result with
  | (.ok _, engine) => (none, engine)
  | (.error fault, engine) => (some fault, engine)

/-- What comes of a request. Closing is not up to the engine. -/
def Driver.serve (driver : Driver σ) (engine : σ) : EngineEvent → Option EngineFault × σ
  | .connect _ _ => answered (driver.connect engine)
  | .setup sql => answered (driver.setup sql engine)
  | .openCursor prepared => answered (driver.openCursor prepared engine)
  | .execute sql params => answered (driver.execute sql params engine)
  | .fetchAll => answered (driver.fetchAll engine)
  | .commit => answered (driver.commit engine)
  | .rollback => (none, driver.rollback engine)
  | .closeCursor => (none, engine)
  | .close => (none, engine)

/-- An engine with what can be told of its handles. -/
structure Watch (σ : Type) where
  engine : σ
  opened : Nat := 0
  closed : Nat := 0
  /-- The statement that prepared the handle opened last. -/
  setup : Option String := none
  /-- The statements that were neither committed nor rolled back, in order. -/
  pending : List (Value × List Value) := []

namespace Watch

/-- What can be told after one more request. A commit that fails settles nothing, and a handle that is
closed takes what was pending on it along. -/
def see (driver : Driver σ) (w : Watch σ) (event : EngineEvent) : Watch σ :=
  let (fault, engine) := driver.serve w.engine event
  match event, fault with
  | .connect _ _, none => { w with engine, opened := w.opened + 1, setup := none, pending := [] }
  | .setup sql, none => { w with engine, setup := some sql }
  | .execute sql params, _ => { w with engine, pending := w.pending ++ [(sql, params)] }
  | .commit, none => { w with engine, pending := [] }
  | .rollback, _ => { w with engine, pending := [] }
  | .close, _ => { w with engine, closed := w.closed + 1, setup := none, pending := [] }
  | _, _ => { w with engine }

/-- What can be told after some requests. -/
def seeAll (driver : Driver σ) (w : Watch σ) (events : List EngineEvent) : Watch σ :=
  events.foldl (see driver) w

/-- Holds when every one of some requests has a property, in view of what could be told before it. -/
def Always (driver : Driver σ) (property : Watch σ → EngineEvent → Prop) : Watch σ → List EngineEvent → Prop
  | _, [] => True
  | w, event :: rest => property w event ∧ Always driver property (w.see driver event) rest

instance instDecidableAlways (driver : Driver σ) (property : Watch σ → EngineEvent → Prop) [∀ w event, Decidable (property w event)] :
    ∀ w events, Decidable (Always driver property w events)
  | _, [] => .isTrue trivial
  | w, event :: rest =>
    have := instDecidableAlways driver property (w.see driver event) rest
    inferInstanceAs (Decidable (property w event ∧ Always driver property (w.see driver event) rest))

variable {driver : Driver σ} {w : Watch σ}

@[simp] theorem seeAll_nil : w.seeAll driver [] = w := rfl

@[simp] theorem seeAll_cons (event : EngineEvent) (rest : List EngineEvent) :
    w.seeAll driver (event :: rest) = (w.see driver event).seeAll driver rest := rfl

@[simp] theorem seeAll_append (events more : List EngineEvent) :
    w.seeAll driver (events ++ more) = (w.seeAll driver events).seeAll driver more :=
  List.foldl_append

section

variable {property : Watch σ → EngineEvent → Prop}

@[simp] theorem always_nil : Always driver property w [] := trivial

@[simp] theorem always_cons (event : EngineEvent) (rest : List EngineEvent) :
    Always driver property w (event :: rest) ↔ property w event ∧ Always driver property (w.see driver event) rest :=
  Iff.rfl

@[simp] theorem always_append (events more : List EngineEvent) :
    Always driver property w (events ++ more) ↔
      Always driver property w events ∧ Always driver property (w.seeAll driver events) more := by
  induction events generalizing w with
  | nil => simp
  | cons event rest ih => simp [ih, and_assoc]

end

theorem see_execute (sql : Value) (params : List Value) : w.see driver (.execute sql params) =
    { w with engine := (driver.execute sql params w.engine).2, pending := w.pending ++ [(sql, params)] } := by
  rcases execute : driver.execute sql params w.engine with ⟨answer, after⟩
  cases answer <;> simp [see, Driver.serve, Driver.answered, execute]

theorem see_openCursor (prepared : Bool) :
    w.see driver (.openCursor prepared) = { w with engine := (driver.openCursor prepared w.engine).2 } := by
  rcases cursor : driver.openCursor prepared w.engine with ⟨answer, after⟩
  cases answer <;> simp [see, Driver.serve, Driver.answered, cursor]

theorem see_fetchAll : w.see driver .fetchAll = { w with engine := (driver.fetchAll w.engine).2 } := by
  rcases fetch : driver.fetchAll w.engine with ⟨answer, after⟩
  cases answer <;> simp [see, Driver.serve, Driver.answered, fetch]

theorem see_connect (kind : EngineKind) (keywords : List (String × Value)) :
    w.see driver (.connect kind keywords) = match driver.connect w.engine with
      | (.ok (), engine) => { w with engine, opened := w.opened + 1, setup := none, pending := [] }
      | (.error _, engine) => { w with engine } := by
  rcases connect : driver.connect w.engine with ⟨answer, after⟩
  cases answer <;> simp [see, Driver.serve, Driver.answered, connect]

theorem see_setup (sql : String) : w.see driver (.setup sql) = match driver.setup sql w.engine with
    | (.ok (), engine) => { w with engine, setup := some sql }
    | (.error _, engine) => { w with engine } := by
  rcases setup : driver.setup sql w.engine with ⟨answer, after⟩
  cases answer <;> simp [see, Driver.serve, Driver.answered, setup]

theorem see_commit : w.see driver .commit = match driver.commit w.engine with
    | (.ok (), engine) => { w with engine, pending := [] }
    | (.error _, engine) => { w with engine } := by
  rcases commit : driver.commit w.engine with ⟨answer, after⟩
  cases answer <;> simp [see, Driver.serve, Driver.answered, commit]

theorem see_rollback : w.see driver .rollback = { w with engine := driver.rollback w.engine, pending := [] } := rfl

theorem see_closeCursor : w.see driver .closeCursor = w := rfl

theorem see_close : w.see driver .close = { w with closed := w.closed + 1, setup := none, pending := [] } := rfl

/-- Holds of every request but statements, and of the statements at which something can be told. -/
def AtStatements (property : Watch σ → Prop) : Watch σ → EngineEvent → Prop
  | w, .execute _ _ => property w
  | _, _ => True

/-- Holds while one more handle was opened than was closed. -/
def IsOpen (w : Watch σ) : Prop := w.opened = w.closed + 1

/-- Holds while the handle opened last is open and was prepared as it has to be. -/
def IsReady (prepares : String → Prop) (w : Watch σ) : Prop := w.IsOpen ∧ ∃ sql, w.setup = some sql ∧ prepares sql

end Watch

/-- What the requests of a session tell of an engine that began in a given state. -/
def Session.watch (s : Session σ) (driver : Driver σ) (start : σ) : Watch σ :=
  Watch.seeAll driver { engine := start } s.events

theorem Session.watch_append {s t : Session σ} {driver : Driver σ} {start : σ} {events : List EngineEvent}
    (grown : t.events = s.events ++ events) :
    t.watch driver start = (s.watch driver start).seeAll driver events := by
  rw [watch, grown]
  exact Watch.seeAll_append _ _

namespace Database

open Watch (Always AtStatements)

variable {db : Database σ} {driver : Driver σ} {w : Watch σ} {after : σ}

/-- What holds at statements holds of requests without statements. -/
theorem always_silent {property : Watch σ → Prop} {events : List EngineEvent} (silent : executions events = []) :
    Always driver (AtStatements property) w events := by
  induction events generalizing w with
  | nil => trivial
  | cons event rest ih =>
    cases event with
    | execute sql params => cases silent
    | _ => exact ⟨trivial, ih silent⟩

theorem readies_silent {sql : String} {fresh : σ} {result : Except EngineFault Unit} {events : List EngineEvent}
    (readies : Readies db sql fresh result events after) : executions events = [] := by
  cases readies <;> rfl

/-- A handle is prepared by the statement that went well on it. -/
theorem readies_watch {sql : String} {result : Except EngineFault Unit} {events : List EngineEvent}
    (readies : Readies db sql w.engine result events after) :
    w.seeAll db.driver events = { w with engine := after, setup := if result.isOk then some sql else w.setup } := by
  cases readies with
  | @embedded result after kind setup => cases result <;> simp [Watch.see_setup, setup, Except.isOk, Except.toBool]
  | bare kind cursor => simp [Watch.see_openCursor, cursor, Except.isOk, Except.toBool]
  | @server result ready after kind cursor setup =>
    cases result <;>
      simp [Watch.see_openCursor, Watch.see_setup, Watch.see_closeCursor, cursor, setup, Except.isOk, Except.toBool]

/-- A fresh handle, and what became of preparing it. -/
theorem opening_watch {kind : EngineKind} {keywords : List (String × Value)} {sql : String} {fresh : σ}
    {result : Except EngineFault Unit} {events : List EngineEvent}
    (connect : db.driver.connect w.engine = (.ok (), fresh)) (readies : Readies db sql fresh result events after) :
    w.seeAll db.driver (.connect kind keywords :: events) =
      { engine := after, opened := w.opened + 1, closed := w.closed, pending := [],
        setup := if result.isOk then some sql else none } := by
  let handle : Watch σ := { engine := fresh, opened := w.opened + 1, closed := w.closed }
  have opened : w.see db.driver (.connect kind keywords) = handle := by rw [Watch.see_connect, connect]
  have prepared : Readies db sql handle.engine result events after := readies
  rw [Watch.seeAll_cons, opened, readies_watch prepared]

theorem opening_silent {kind : EngineKind} {keywords : List (String × Value)} {sql : String} {fresh : σ}
    {result : Except EngineFault Unit} {events : List EngineEvent} (readies : Readies db sql fresh result events after) :
    executions (.connect kind keywords :: events) = [] := by
  change executions events = []
  exact readies_silent readies

theorem fetches_watch {columns : List String} {rows : Except EngineFault (List (List Value))}
    {events : List EngineEvent} (fetch : Fetches driver columns w.engine rows events after) :
    w.seeAll driver events = { w with engine := after } := by
  cases fetch with
  | nothing bare => rfl
  | rows wide fetched => simp [Watch.see_fetchAll, fetched]

/-- A statement that went through is settled by its commit; any other one is left to wait. -/
theorem performs_watch {sql : Value} {params : List Value} {result : Except EngineFault Statement}
    {events : List EngineEvent} (performs : Performs driver sql params w.engine result events after) :
    w.seeAll driver events = { w with engine := after, pending := if result.isOk then [] else w.pending ++ [(sql, params)] } := by
  let executed (engine : σ) : Watch σ := { w with engine, pending := w.pending ++ [(sql, params)] }
  have execution {answer : Except EngineFault Answer} {engine : σ}
      (execute : driver.execute sql params w.engine = (answer, engine)) :
      w.see driver (.execute sql params) = executed engine := by
    rw [Watch.see_execute, execute]
  cases performs with
  | refused execute => exact execution execute
  | @unfetched answer fault events engine _ execute fetch =>
    rw [Watch.seeAll_cons, execution execute]
    exact fetches_watch fetch
  | @uncommitted answer rows fault events engine ready _ execute fetch commit =>
    have fetched : (executed engine).seeAll driver events = executed ready := fetches_watch fetch
    rw [List.cons_append, Watch.seeAll_cons, execution execute, Watch.seeAll_append, fetched]
    simp [Watch.see_commit, executed, commit, Except.isOk, Except.toBool]
  | @done answer rows events engine ready _ execute fetch commit =>
    have fetched : (executed engine).seeAll driver events = executed ready := fetches_watch fetch
    rw [List.cons_append, Watch.seeAll_cons, execution execute, Watch.seeAll_append, fetched]
    simp [Watch.see_commit, executed, commit, Except.isOk, Except.toBool]

/-- The requests that end a statement. What the engine complained about is rolled back. -/
def closing : Except EngineFault Statement → List EngineEvent
  | .ok _ => [.closeCursor]
  | .error fault => if fault.kind.isDriverError then [.rollback, .closeCursor] else [.closeCursor]

theorem closing_silent (result : Except EngineFault Statement) : executions (closing result) = [] := by
  cases result with
  | ok statement => rfl
  | error fault =>
    unfold closing
    dsimp only
    split <;> rfl

theorem conclude_session (db : Database σ) (sql : Value) (params : List Value) (s : Session σ)
    (result : Except EngineFault Statement) :
    let t := (conclude db sql params s result).2
    t.events = s.events ++ closing result ∧ t.held = s.held ∧ t.connected = s.connected := by
  cases result with
  | ok statement => exact ⟨rfl, rfl, rfl⟩
  | error fault =>
    cases complains : fault.kind.isDriverError <;> simp [conclude, closing, complains, Session.past, Session.noted]

theorem conclude_events (db : Database σ) (sql : Value) (params : List Value) (opened : Session σ) (after : σ)
    (prepared : Bool) (events : List EngineEvent) (result : Except EngineFault Statement) :
    (conclude db sql params (opened.past (.openCursor prepared :: events) after) result).2.events =
      opened.events ++ (.openCursor prepared :: events ++ closing result) := by
  obtain ⟨grown, -, -⟩ := conclude_session db sql params (opened.past (.openCursor prepared :: events) after) result
  rw [grown]
  exact List.append_assoc _ _ _

/-- The statements that wait after one more has ended. A commit and a rollback leave none. -/
def leaves (pending : List (Value × List Value)) (statement : Value × List Value) :
    Except EngineFault Statement → List (Value × List Value)
  | .ok _ => []
  | .error fault => if fault.kind.isDriverError then [] else pending ++ [statement]

/-- The requests of one statement tell nothing new of the handles. -/
theorem statement_watch (db : Database σ) {sql : Value} {params : List Value} {prepared : Bool} {opened : Session σ}
    {start ready : σ} {result : Except EngineFault Statement} {events : List EngineEvent}
    (engine : (opened.watch db.driver start).engine = opened.engine)
    (cursor : db.driver.openCursor prepared opened.engine = (.ok (), ready))
    (performs : Performs db.driver sql params ready result events after) :
    let t := (conclude db sql params (opened.past (.openCursor prepared :: events) after) result).2
    t.watch db.driver start = { opened.watch db.driver start with
      engine := t.engine, pending := leaves (opened.watch db.driver start).pending (sql, params) result } := by
  intro t
  rw [Session.watch_append (conclude_events db sql params opened after prepared events result)]
  generalize opened.watch db.driver start = w at engine ⊢
  have onCursor : w.see db.driver (.openCursor prepared) = { w with engine := ready } := by
    rw [Watch.see_openCursor, engine, cursor]
  have ran := performs_watch (w := { w with engine := ready }) performs
  rw [Watch.seeAll_append, Watch.seeAll_cons, onCursor, ran]
  cases result with
  | ok statement => rfl
  | error fault =>
    cases complains : fault.kind.isDriverError <;>
      simp [t, closing, leaves, conclude, complains, Session.past, Session.noted, Watch.see_rollback,
        Watch.see_closeCursor, Except.isOk, Except.toBool]

end Database
end DataLayer
