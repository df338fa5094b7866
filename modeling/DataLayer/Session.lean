import DataLayer.Engine.Driver
import DataLayer.Log.Notice

/-! Sessions: the state that work with a database goes through, and the single steps that change
it. Every step that reaches the engine is recorded before the engine is asked. -/

namespace DataLayer

/-- The state of a session: the engine, whether a handle is held and whether it counts as
connected, what the engine saw, and what was logged, both in order. -/
structure Session (σ : Type) where
  engine : σ
  held : Bool := false
  connected : Bool := false
  events : List EngineEvent := []
  log : List Logged := []
  context : LogContext := []

/-- Work on a session that may end early with a fault. What was done before the fault stays
done. -/
abbrev Action (σ : Type) : Type → Type := ExceptT Fault (StateM (Session σ))

namespace Session

variable {σ α : Type}

/-- Records what the engine is asked for. -/
def record (event : EngineEvent) : StateM (Session σ) Unit :=
  modify fun s => { s with events := s.events ++ [event] }

/-- Logs a notice together with the context that is bound. -/
def note (notice : Notice) : StateM (Session σ) Unit :=
  modify fun s => { s with log := s.log ++ [⟨notice, s.context⟩] }

/-- Asks the engine for something. -/
def ask (request : σ → α × σ) : StateM (Session σ) α := fun s =>
  let (answer, engine) := request s.engine
  (answer, { s with engine })

/-- Asks the engine for something and records it. -/
def send (event : EngineEvent) (request : σ → α × σ) : StateM (Session σ) α := do
  record event
  ask request

end Session

namespace Action

variable {σ α : Type}

/-- Work that cannot fail. -/
def ofState (work : StateM (Session σ) α) : Action σ α := ExceptT.mk (do return .ok (← work))

/-- Work whose failure is handed back as a value. -/
def outcome (work : Action σ α) : StateM (Session σ) (Except Fault α) := work.run

/-- Ends early with a fault. -/
def fail (fault : Fault) : Action σ α := throw fault

/-- Ends early with a report. -/
def refuse (report : Report) : Action σ α := throw (.report report)

/-- A value, or the fault that there is none. -/
def ofExcept (result : Except Fault α) : Action σ α :=
  match result with
  | .ok value => pure value
  | .error fault => throw fault

/-- A value, or the complaint that there is none. -/
def check (result : Except Misuse α) : Action σ α :=
  match result with
  | .ok value => pure value
  | .error misuse => throw (.misuse misuse)

/-- Logs a notice. -/
def note (notice : Notice) : Action σ Unit := ofState (Session.note notice)

/-- Does some work and then something more, whether the work failed or not. -/
def andFinally (work : Action σ α) (after : StateM (Session σ) Unit) : Action σ α :=
  ExceptT.mk (do
    let result ← work.run
    after
    return result)

end Action
end DataLayer
