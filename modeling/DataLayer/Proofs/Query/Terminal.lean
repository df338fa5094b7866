import DataLayer.Proofs.Value
import DataLayer.Query.Compile
import DataLayer.Proofs.Session.Couple
import DataLayer.Query.Terminal

/-! What rows of names and values compile to. Every other value in the place of a row is refused. -/

namespace DataLayer.Query

variable {q : Query}

theorem insertStatement_map (q : Query) (entries : List (Value × Value)) :
    q.insertStatement (.map entries) =
      if entries.isEmpty then refuse (q.malformed "Cannot insert an empty row")
      else (Misuse.lift (Value.joinTexts ", " (entries.map Prod.fst))).map fun columns =>
        { sql := "INSERT INTO " ++ q.table.display ++ " (" ++ columns ++ ") VALUES ("
            ++ Dialect.placeholders entries.length ++ ")", params := entries.map Prod.snd } := by
  cases entries with
  | nil => rfl
  | cons entry rest =>
    change (Misuse.lift (Value.joinTexts ", " ((entry :: rest).map Prod.fst)) >>= _) = _
    cases Value.joinTexts ", " ((entry :: rest).map Prod.fst) <;> rfl

theorem updateStatement_map (q : Query) (entries : List (Value × Value)) :
    q.updateStatement (.map entries) =
      if entries.isEmpty then refuse (q.malformed "Cannot update with an empty row")
      else q.restricted "update" ("UPDATE " ++ q.table.display ++ " SET "
        ++ ", ".intercalate (entries.map fun entry => entry.1.display ++ " = ?")) (entries.map Prod.snd) := by
  have assignments : (entries.map fun entry => entry.1.display ++ " = ?")
      = (entries.map Prod.fst).map fun column => column.display ++ " = ?" := by
    rw [List.map_map]
    rfl
  rw [assignments]
  cases entries <;> rfl

/-- Only a row of names and values can be inserted, and the names have to be texts. -/
theorem insertStatement_eq_ok {row : Value} {prepared : Prepared} (compiled : q.insertStatement row = .ok prepared) :
    ∃ entries columns, row = .map entries ∧ Value.joinTexts ", " (entries.map Prod.fst) = .ok columns ∧
      prepared = { sql := "INSERT INTO " ++ q.table.display ++ " (" ++ columns ++ ") VALUES ("
                     ++ Dialect.placeholders entries.length ++ ")", params := entries.map Prod.snd } := by
  cases row with
  | map entries =>
    rw [insertStatement_map] at compiled
    split at compiled
    · cases compiled
    · cases joined : Value.joinTexts ", " (entries.map Prod.fst) with
      | error misuse => rw [joined] at compiled; cases compiled
      | ok columns =>
        rw [joined] at compiled
        exact ⟨entries, columns, rfl, joined, (Except.ok.inj compiled).symm⟩
  | _ =>
    unfold insertStatement at compiled
    split at compiled <;> cases compiled

/-- Only a row of names and values can be written by an update. -/
theorem updateStatement_eq_ok {row : Value} {prepared : Prepared} (compiled : q.updateStatement row = .ok prepared) :
    ∃ entries, row = .map entries ∧
      q.restricted "update" ("UPDATE " ++ q.table.display ++ " SET "
        ++ ", ".intercalate (entries.map fun entry => entry.1.display ++ " = ?")) (entries.map Prod.snd)
          = .ok prepared := by
  cases row with
  | map entries =>
    rw [updateStatement_map] at compiled
    split at compiled
    · cases compiled
    · exact ⟨entries, rfl, compiled⟩
  | _ =>
    unfold updateStatement at compiled
    split at compiled <;> cases compiled

end DataLayer.Query

/-! The two halves of ending a query: running its statement, and reading the answer. -/

namespace DataLayer.Query

open DataLayer.Action

variable {σ : Type} {q : Query}

/-- What a query ends with, from what came of its statement. -/
def ended (terminal : Terminal) (statement : Statement) : Action σ Ending :=
  match terminal with
  | .get => return .rows statement.rows
  | .first => return .row statement.rows.head?
  | .exists => return .flag (← Action.check (countsSome statement.rows.head?))
  | .insert _ => return .id statement.lastrowid
  | .update _ => return .flag true
  | .delete => return .flag true

theorem finish_eq (db : Database σ) (q : Query) (terminal : Terminal) : q.finish db terminal = (do
    let prepared ← Action.ofExcept (q.prepare terminal)
    let statement ← send db q prepared
    ended terminal statement) := rfl

/-- Reading the answer asks the engine for nothing more. -/
theorem on_ended (terminal : Terminal) (statement : Statement) (s : Session σ) :
    (on (ended terminal statement) s).2 = s := by
  cases terminal with
  | «exists» =>
    unfold ended
    rw [on_bind, on_check]
    cases countsSome statement.rows.head? <;> rfl
  | _ => rfl

/-- Reading the answer ends alike on any two engines. -/
theorem ended_couples {τ κ : Type} {sessions : Session σ → Session τ → Prop} {view : Fault → κ} (terminal : Terminal)
    (statement : Statement) :
    Couples sessions view (ended terminal statement : Action σ Ending) (ended terminal statement) := by
  cases terminal with
  | «exists» => exact couples_bind (couples_check _) fun _ => couples_pure _
  | _ => exact couples_pure _

/-- The announcement of a change of every row is no event. -/
theorem send_eq_run (db : Database σ) (q : Query) (prepared : Prepared) (s : Session σ) :
    ∃ t : Session σ, t.events = s.events ∧ on (send db q prepared) s =
      on (db.run (.text prepared.sql) prepared.params) t := by
  unfold send
  cases prepared.unscoped with
  | none => exact ⟨s, rfl, rfl⟩
  | some operation => exact ⟨s.noted _, rfl, rfl⟩

/-- A query whose statement needs no announcement. -/
theorem on_finish {db : Database σ} {terminal : Terminal} {prepared : Prepared}
    (compiled : q.prepare terminal = .ok prepared) (narrow : prepared.unscoped = none) (s : Session σ) :
    on (q.finish db terminal) s = match on (db.run (.text prepared.sql) prepared.params) s with
      | (.ok statement, after) => on (ended terminal statement) after
      | (.error fault, after) => (.error fault, after) := by
  have sent : send db q prepared = db.run (.text prepared.sql) prepared.params := by
    unfold send
    rw [narrow]
  rw [finish_eq, on_bind, on_ofExcept, compiled]
  dsimp only
  rw [on_bind, sent]
  rcases on (db.run (.text prepared.sql) prepared.params) s with ⟨result, after⟩
  cases result <;> rfl

end DataLayer.Query
