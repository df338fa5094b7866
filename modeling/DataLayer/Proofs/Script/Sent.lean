import DataLayer.Proofs.Database.Course
import DataLayer.Proofs.Script.Passage
import DataLayer.Script.Schema

/-! The statements that some work sends. Work only ever adds to what the engine was asked for; main
statement: works one after the other send what the first sends, and then what the second sends from the
session that the first ended in. -/

namespace DataLayer

open DataLayer.Action DataLayer.Database

variable {σ α β : Type} {db : Database σ}

section

variable {relation : Session σ → Session σ → Prop} [Progress relation]

namespace Schema

theorem change_moves (serves : Serves db relation) (sql : String) : Action.Moves relation (change db sql) :=
  moves_bind (serves.execute _ _) fun _ => moves_pure _

theorem applyBlueprint_moves (serves : Serves db relation) (table : Value) (isCreate : Bool) (describe : Describe) :
    Action.Moves relation (applyBlueprint db table isCreate describe) := by
  refine moves_bind (moves_ofExcept _) fun compiled => ?_
  cases compiled with
  | none => exact moves_bind (moves_note fun s => serves.noted s _) fun _ => moves_pure _
  | some sql => exact moves_bind (change_moves serves sql) fun _ => moves_pure _

theorem rename_moves (serves : Serves db relation) (source target : Value) :
    Action.Moves relation (rename db source target) :=
  moves_bind (moves_check _) fun _ => change_moves serves _

theorem drop_moves (serves : Serves db relation) (table : Value) : Action.Moves relation (drop db table) :=
  moves_bind (moves_check _) fun _ => change_moves serves _

theorem dropIfExists_moves (serves : Serves db relation) (table : Value) :
    Action.Moves relation (dropIfExists db table) :=
  moves_bind (moves_check _) fun _ => change_moves serves _

theorem hasTable_moves (serves : Serves db relation) (table : Value) : Action.Moves relation (hasTable db table) :=
  moves_bind (serves.queryOne _ _) fun _ => moves_pure _

end Schema

namespace Script.SchemaStep

theorem performCall_moves (serves : Serves db relation) (call : Call) : Action.Moves relation (performCall db call) := by
  unfold performCall
  dsimp only
  split
  · exact moves_bind (moves_check _) fun _ => moves_bind (Schema.rename_moves serves _ _) fun _ => moves_pure _
  · exact moves_bind (moves_check _) fun _ => moves_bind (Schema.drop_moves serves _) fun _ => moves_pure _
  · exact moves_bind (moves_check _) fun _ => moves_bind (Schema.dropIfExists_moves serves _) fun _ => moves_pure _
  · exact moves_bind (moves_check _) fun _ => moves_bind (Schema.hasTable_moves serves _) fun _ => moves_pure _
  · exact moves_fail _

/-- What everything stays within that a step on a database can do, a step on its tables stays within. -/
theorem perform_moves (serves : Serves db relation) (step : SchemaStep) : Action.Moves relation (perform db step) := by
  cases step with
  | create table columns => exact moves_bind (Schema.applyBlueprint_moves serves _ _ _) fun _ => moves_pure _
  | alter table columns => exact moves_bind (Schema.applyBlueprint_moves serves _ _ _) fun _ => moves_pure _
  | compile table isCreate columns => exact moves_bind (moves_ofExcept _) fun _ => moves_pure _
  | call request => exact performCall_moves serves request
  | database step => exact DatabaseStep.perform_moves serves step
  | raise name message => exact moves_fail _

theorem performAll_moves (serves : Serves db relation) (steps : List SchemaStep) :
    Action.Moves relation (performAll db steps) := by
  induction steps with
  | nil => exact moves_pure _
  | cons step rest ih => exact moves_bind (perform_moves serves step) fun _ => ih

end Script.SchemaStep

end

/-- The engine was asked for more, and what it was asked for before stands first. -/
def Session.Grows (s t : Session σ) : Prop := ∃ new, t.events = s.events ++ new

instance : Progress (Session.Grows (σ := σ)) where
  refl s := ⟨[], (List.append_nil _).symm⟩
  trans := by
    rintro r s t ⟨new, grown⟩ ⟨more, grown'⟩
    exact ⟨new ++ more, by rw [grown', grown, List.append_assoc]⟩

theorem Database.Idle.grows {s t : Session σ} (idle : Idle s t) : s.Grows t := by
  obtain ⟨new, grown, -⟩ := idle
  exact ⟨new, grown⟩

theorem Database.serves_grows (db : Database σ) : Serves db Session.Grows where
  connect s := (connect_moves (opens_idle db) s).grows
  disconnect s := (disconnect_moves (opens_idle db) s).grows
  run sql params s := by
    obtain ⟨new, grown, -⟩ := run_executions db sql params s
    exact ⟨new, grown⟩
  noted s _ := ⟨[], (List.append_nil _).symm⟩

/-- The statements that some work sends, each with its values. -/
def Action.sent (work : Action σ α) (s : Session σ) : List (Value × List Value) :=
  executions ((on work s).2.events.drop s.events.length)

namespace Action

theorem sent_eq {work : Action σ α} {s : Session σ} {new : List EngineEvent}
    (grown : (on work s).2.events = s.events ++ new) : sent work s = executions new := by
  unfold sent
  rw [grown, List.drop_left]

/-- The rest of some work adds what it sends to what was sent before it. -/
theorem sent_bind {work : Action σ α} {next : α → Action σ β} {s t : Session σ} {value : α}
    (first : on work s = (.ok value, t)) (grows : s.Grows t) (grows' : Action.Moves Session.Grows (next value)) :
    sent (work >>= next) s = sent work s ++ sent (next value) t := by
  obtain ⟨new, grown⟩ := grows
  obtain ⟨more, grown'⟩ := grows' t
  have begun : sent work s = executions new := sent_eq (by rw [first]; exact grown)
  have ended : (on (work >>= next) s).2.events = s.events ++ (new ++ more) := by
    rw [on_bind, first]
    dsimp only
    rw [grown', grown, List.append_assoc]
  rw [begun, sent_eq grown', sent_eq ended, executions_append]

/-- Work that asks the engine for nothing sends nothing. -/
theorem sent_nil {work : Action σ α} {s : Session σ} (same : (on work s).2.events = s.events) : sent work s = [] := by
  unfold sent
  rw [same, List.drop_length]
  rfl

/-- Works that end with the same events have sent the same. -/
theorem sent_congr {work : Action σ α} {other : Action σ β} {s : Session σ}
    (same : (on work s).2.events = (on other s).2.events) : sent work s = sent other s := by
  unfold sent
  rw [same]

end Action

/-- A statement that goes well is sent, once. -/
theorem Database.sent_run {sql : Value} {params : List Value} {s t : Session σ} {statement : Statement}
    (ran : Action.on (run db sql params) s = (.ok statement, t)) : sent (run db sql params) s = [(sql, params)] := by
  obtain ⟨new, grown, executed | ⟨-, fault, failed⟩⟩ := run_executions db sql params s
  · rw [sent_eq grown, executed]
  · rw [ran] at failed
    cases failed

end DataLayer
