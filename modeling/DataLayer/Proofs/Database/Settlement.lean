import DataLayer.Engine.Scripted
import DataLayer.Proofs.Database.Tracking

/-! Which statements wait for a commit. A call settles its statement by a commit or a rollback when all goes
well or the engine complains; a failure of another sort leaves it on the open handle, and the next commit covers
it too. Main statement: as long as an engine fails with complaints only, nothing waits between two calls and
each commit covers one statement. -/

namespace DataLayer

variable {σ : Type}

namespace Watch

/-- Holds of every request of a statement unless it fails otherwise than with a complaint. -/
def Complaining (driver : Driver σ) (w : Watch σ) (event : EngineEvent) : Prop :=
  match event with
  | .execute _ _ | .fetchAll | .commit =>
    ∀ fault ∈ (driver.serve w.engine event).1, fault.kind.isDriverError = true
  | _ => True

instance (driver : Driver σ) (w : Watch σ) : ∀ event, Decidable (Complaining driver w event)
  | .execute _ _ | .fetchAll | .commit => inferInstanceAs (Decidable (∀ fault ∈ (driver.serve w.engine _).1, _))
  | .connect _ _ | .setup _ | .openCursor _ | .rollback | .closeCursor | .close => .isTrue trivial

/-- Holds of every request but a commit of more than one statement. -/
def CommitsOne (w : Watch σ) : EngineEvent → Prop
  | .commit => w.pending.length ≤ 1
  | _ => True

instance (w : Watch σ) : ∀ event, Decidable (w.CommitsOne event)
  | .commit => inferInstanceAs (Decidable (w.pending.length ≤ 1))
  | .connect _ _ | .setup _ | .openCursor _ | .execute _ _ | .fetchAll | .rollback | .closeCursor | .close => .isTrue trivial

end Watch

namespace Database

open Script.DatabaseStep (passes_first passes_later)
open Watch (Always Complaining CommitsOne)

variable {db : Database σ} {driver : Driver σ} {w : Watch σ} {start after : σ} {s t : Session σ}

/-- Only statements come to wait. -/
theorem see_pending (driver : Driver σ) (w : Watch σ) (event : EngineEvent) :
    (w.see driver event).pending.length ≤ w.pending.length + (executions [event]).length := by
  cases event with
  | execute sql params => simp [Watch.see_execute, executions]
  | openCursor prepared => simp [Watch.see_openCursor]
  | fetchAll => simp [Watch.see_fetchAll]
  | rollback => simp [Watch.see_rollback]
  | closeCursor => simp [Watch.see_closeCursor]
  | close => simp [Watch.see_close]
  | connect kind keywords =>
    rw [Watch.see_connect]
    split <;> simp
  | setup sql =>
    rw [Watch.see_setup]
    split <;> simp
  | commit =>
    rw [Watch.see_commit]
    split <;> simp

theorem seeAll_pending (driver : Driver σ) (w : Watch σ) (events : List EngineEvent) :
    (w.seeAll driver events).pending.length ≤ w.pending.length + (executions events).length := by
  induction events generalizing w with
  | nil => exact Nat.le_add_right _ _
  | cons event rest ih =>
    have first := see_pending driver w event
    have later := ih (w.see driver event)
    have split : executions (event :: rest) = executions [event] ++ executions rest :=
      executions_append [event] rest
    rw [Watch.seeAll_cons, split, List.length_append]
    omega

/-- Where no more than one statement waits or is sent, no commit covers more. -/
theorem always_commitsOne {events : List EngineEvent} (few : w.pending.length + (executions events).length ≤ 1) :
    Always driver CommitsOne w events := by
  induction events generalizing w with
  | nil => trivial
  | cons event rest ih =>
    have first := see_pending driver w event
    have split : executions (event :: rest) = executions [event] ++ executions rest :=
      executions_append [event] rest
    rw [split, List.length_append] at few
    refine ⟨?_, ih (by omega)⟩
    cases event with
    | commit =>
      change w.pending.length ≤ 1
      omega
    | _ => trivial

/-- Where every request fails with complaints only, so does the statement. -/
theorem performs_complaining {sql : Value} {params : List Value} {fault : EngineFault} {events : List EngineEvent}
    (performs : Performs driver sql params w.engine (.error fault) events after)
    (complaining : Always driver (Complaining driver) w events) : fault.kind.isDriverError = true := by
  have execution {answer : Except EngineFault Answer} {engine : σ}
      (execute : driver.execute sql params w.engine = (answer, engine)) :
      (w.see driver (.execute sql params)).engine = engine := by
    rw [Watch.see_execute, execute]
  have fetching {columns : List String} {rows : Except EngineFault (List (List Value))} {events : List EngineEvent}
      {v : Watch σ} {fetched : σ} (fetch : Fetches driver columns v.engine rows events fetched) :
      (v.seeAll driver events).engine = fetched := by
    rw [fetches_watch fetch]
  cases performs with
  | refused execute => exact complaining.1 fault (by simp [Driver.serve, Driver.answered, execute])
  | @unfetched answer fault events executed after execute fetch =>
    cases fetch with
    | rows wide fetched =>
      refine complaining.2.1 fault ?_
      simp [Driver.serve, Driver.answered, execution execute, fetched]
  | @uncommitted answer rows fault events executed fetched after execute fetch commit =>
    rw [← execution execute] at fetch
    have last := ((Watch.always_append _ _).mp complaining.2).2.1
    refine last fault ?_
    simp [Driver.serve, Driver.answered, fetching fetch, commit]

/-- A session on whose handle nothing waits, and whose commits covered one statement each. -/
structure Settled (driver : Driver σ) (start : σ) (s : Session σ) : Prop where
  pending : (s.watch driver start).pending = []
  commits : Always driver CommitsOne { engine := start } s.events

/-- Requests without statements leave a session settled. -/
theorem Settled.idle (settled : Settled driver start s) (idle : Idle s t) : Settled driver start t := by
  obtain ⟨events, grown, silent⟩ := idle
  have waits := settled.pending
  constructor
  · have few := seeAll_pending driver (s.watch driver start) events
    rw [Session.watch_append grown]
    rw [silent, waits] at few
    exact List.eq_nil_of_length_eq_zero (Nat.le_zero.mp few)
  · rw [grown, Watch.always_append]
    refine ⟨settled.commits, always_commitsOne ?_⟩
    change (s.watch driver start).pending.length + (executions events).length ≤ 1
    simp [waits, silent]

/-- A call settles its statement when the engine fails with complaints only. -/
theorem run_settled (sql : Value) (params : List Value) (tracked : Tracked db.driver db.Prepares start s)
    (settled : Settled db.driver start s)
    (complaining : Always db.driver (Complaining db.driver) { engine := start } (Action.on (run db sql params) s).2.events) :
    Settled db.driver start (Action.on (run db sql params) s).2 := by
  constructor
  · have whole := connect_tracked tracked
    rw [← on_ensureHandle] at whole
    have runs := run_runs db sql params s
    generalize Action.on (run db sql params) s = ended at runs complaining ⊢
    cases runs with
    | unopened opening => exact (settled.idle (opening_idle opening)).pending
    | @refused opened fault after opening cursor =>
      have asked : Idle opened (opened.past [.openCursor (db.isPrepared params)] after) := ⟨_, rfl, rfl⟩
      exact (settled.idle (Progress.trans (opening_idle opening) asked)).pending
    | @performed opened ready after result events opening cursor performs =>
      have waits := (settled.idle (opening_idle opening)).pending
      rw [opening] at whole
      rw [statement_watch db whole.engine cursor performs, waits]
      cases result with
      | ok statement => rfl
      | error fault =>
        rw [conclude_events, Watch.always_append] at complaining
        -- The requests so far lead to the very engine that the statement was sent to.
        have onCursor : ((opened.watch db.driver start).see db.driver (.openCursor (db.isPrepared params))).engine = ready := by
          rw [Watch.see_openCursor, whole.engine, cursor]
        rw [← onCursor] at performs
        have complains := performs_complaining performs ((Watch.always_append _ _).mp complaining.2.2).1
        simp [leaves, complains]
  · obtain ⟨new, grown, sent⟩ := run_executions db sql params s
    rw [grown, Watch.always_append]
    refine ⟨settled.commits, always_commitsOne ?_⟩
    change (s.watch db.driver start).pending.length + (executions new).length ≤ 1
    rcases sent with one | ⟨none, -⟩
    · simp [settled.pending, one]
    · simp [settled.pending, none]

/-- A tracked session that is settled in so far as its engine failed with complaints only. -/
structure Accountable (driver : Driver σ) (prepares : String → Prop) (start : σ) (s : Session σ) : Prop where
  tracked : Tracked driver prepares start s
  settled : Always driver (Complaining driver) { engine := start } s.events → Settled driver start s

theorem Accountable.idle {prepares : String → Prop} (accountable : Accountable driver prepares start s)
    (idle : Idle s t) (tracked : Tracked driver prepares start t) : Accountable driver prepares start t := by
  refine ⟨tracked, fun complaining => ?_⟩
  obtain ⟨new, grown, silent⟩ := idle
  have before := complaining
  rw [grown, Watch.always_append] at before
  exact (accountable.settled before.1).idle ⟨new, grown, silent⟩

theorem run_accountable (sql : Value) (params : List Value)
    (accountable : Accountable db.driver db.Prepares start s) :
    Accountable db.driver db.Prepares start (Action.on (run db sql params) s).2 := by
  refine ⟨run_tracked sql params accountable.tracked, fun complaining => ?_⟩
  obtain ⟨new, grown, -⟩ := run_executions db sql params s
  have before := complaining
  rw [grown, Watch.always_append] at before
  exact run_settled sql params accountable.tracked (accountable.settled before.1) complaining

theorem serves_accountable (db : Database σ) (start : σ) :
    Serves db (Keeps (Accountable db.driver db.Prepares start)) where
  connect s accountable :=
    accountable.idle (connect_moves (opens_idle db) s) (connect_tracked accountable.tracked)
  disconnect s accountable :=
    accountable.idle (disconnect_moves (opens_idle db) s) (disconnect_tracked accountable.tracked)
  run sql params _ accountable := run_accountable sql params accountable
  noted s notice accountable := accountable.idle ((opens_idle db).noted s notice) (accountable.tracked.noted notice)

/-- Whatever calls a script makes on an engine that fails with complaints only, nothing waits on the handle
between them, and each commit covers the one statement before it. -/
theorem passes_settled (script : List (Moment × Script.DatabaseStep))
    (passed : s ∈ { engine := start } :: Script.DatabaseStep.passes db script { engine := start })
    (complaining : Always db.driver (Complaining db.driver) { engine := start } s.events) :
    (s.watch db.driver start).pending = [] ∧ Always db.driver CommitsOne { engine := start } s.events := by
  have accountable : Accountable db.driver db.Prepares start { engine := start } :=
    ⟨tracked_start, fun _ => ⟨rfl, trivial⟩⟩
  have serves (now : Moment) : Serves { db with now } (Keeps (Accountable db.driver db.Prepares start)) :=
    serves_accountable { db with now } start
  have settled := (Script.DatabaseStep.passes_keeps serves script accountable passed).settled complaining
  exact ⟨settled.pending, settled.commits⟩

/-- A statement that is refused, one whose commit is, and one that goes well. -/
theorem passes_settled_locked :
    let now : Moment := ⟨⟨2025, 1, 1⟩, ⟨0, 0, 0, 0, none⟩⟩
    let db : Database Scripted.Engine := { kind := .sqlite, config := {}, now, driver := Scripted.driver }
    let start : Scripted.Engine :=
      { script := [{ complaint := some (.execute, ⟨.integrity, "UNIQUE constraint failed"⟩) },
          { complaint := some (.commit, ⟨.operational, "database is locked"⟩) }, { columns := ["a"] }] }
    let insert : Script.DatabaseStep := .call { name := "run", args := [.text "INSERT INTO t (a) VALUES (1)"] }
    let update : Script.DatabaseStep := .call { name := "execute", args := [.text "UPDATE t SET a = 2"] }
    let select : Script.DatabaseStep := .call { name := "query", args := [.text "SELECT a FROM t"] }
    let after (step : Script.DatabaseStep) (s : Session Scripted.Engine) := (Action.on (step.perform db) s).2
    let script := [(now, insert), (now, update), (now, select)]
    let s := after select (after update (after insert { engine := start }))
    s ∈ { engine := start } :: Script.DatabaseStep.passes db script { engine := start } ∧
      Always db.driver (Complaining db.driver) { engine := start } s.events ∧
      (s.watch db.driver start).pending = [] ∧ Always db.driver CommitsOne { engine := start } s.events := by
  intro now db start insert update select after script s
  have passed : s ∈ { engine := start } :: Script.DatabaseStep.passes db script { engine := start } :=
    List.mem_cons_of_mem _ (passes_later db now _ (passes_later db now _ (passes_first db now _ [] _)))
  have settles := passes_settled script passed
  refine ⟨passed, ?complaining, settles ?complaining⟩
  decide +kernel

/-- A statement whose rows cannot be fetched for another reason waits, and the commit of the next covers it. -/
theorem passes_unsettled :
    let now : Moment := ⟨⟨2025, 1, 1⟩, ⟨0, 0, 0, 0, none⟩⟩
    let db : Database Scripted.Engine := { kind := .sqlite, config := {}, now, driver := Scripted.driver }
    let start : Scripted.Engine := { script := [{ columns := ["id"], complaint := some (.fetchAll, ⟨.runtime, "boom"⟩) }] }
    let sql : Value := .text "INSERT INTO t (a) VALUES (1) RETURNING id"
    let insert : Script.DatabaseStep := .call { name := "run", args := [sql] }
    let update : Script.DatabaseStep := .call { name := "run", args := [.text "UPDATE t SET a = 2"] }
    let passed := Script.DatabaseStep.passes db [(now, insert), (now, update)] { engine := start }
    (∃ s ∈ passed, (s.watch db.driver start).pending = [(sql, [])]) ∧
      ∃ s ∈ passed, ¬Always db.driver CommitsOne { engine := start } s.events := by
  intro now db start sql insert update passed
  let s := (Action.on (insert.perform db) { engine := start }).2
  let t := (Action.on (update.perform db) s).2
  have shown : passed = [s, t] := rfl
  rw [shown]
  refine ⟨⟨s, by simp, rfl⟩, ⟨t, by simp, ?_⟩⟩
  decide +kernel

end Database
end DataLayer
