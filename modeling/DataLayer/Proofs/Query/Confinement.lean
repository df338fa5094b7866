import DataLayer.Engine.Scripted
import DataLayer.Proofs.Database.Resemblance
import DataLayer.Proofs.Query.Masking
import DataLayer.Proofs.Query.Terminal
import DataLayer.Script.Query

/-! Bound values stay in the list that travels beside a statement. Two runs over the same steps with
other values end alike as long as the engines answer alike to the same text: nothing but the lists of
values of the statements tells the runs apart. -/

namespace DataLayer

open DataLayer.Action DataLayer.Database

variable {σ τ : Type} {related : σ → τ → Prop} {db : Database σ} {other : Driver τ}

namespace Query

open DataLayer.Session (Alike)

/-- The row that was written does not show in what the query ends with. -/
theorem ended_masked (terminal : Terminal) (statement : Statement) :
    (ended terminal.masked statement : Action σ Ending) = ended terminal statement := by
  cases terminal <;> rfl

theorem send_mirrors (agrees : db.driver.Agrees related other) {q q' : Query} (alike : q.masked = q'.masked)
    {prepared prepared' : Prepared} (same : prepared.masked = prepared'.masked) :
    Couples (Alike related) id (send db q prepared) (send (db.on other) q' prepared') := by
  have table : q.masked.table = q'.masked.table := congrArg Query.table alike
  have sql : prepared.masked.sql = prepared'.masked.sql := congrArg Prepared.sql same
  have values : masks prepared.params = masks prepared'.params := congrArg Prepared.params same
  have unscoped : prepared.masked.unscoped = prepared'.masked.unscoped := congrArg Prepared.unscoped same
  have ran := run_mirrors agrees (.text prepared'.sql) (masks_inj.mp values)
  dsimp only [masked, Prepared.masked] at table sql unscoped
  unfold send
  rw [table, sql, unscoped]
  cases prepared'.unscoped with
  | none => exact ran
  | some operation => exact couples_bind (couples_note fun _ _ alike => alike.noted _) fun _ => ran

/-- Queries that differ in their values only end alike. -/
theorem finish_mirrors (agrees : db.driver.Agrees related other) {q q' : Query} (alike : q.masked = q'.masked)
    {terminal terminal' : Terminal} (same : terminal.masked = terminal'.masked) :
    Couples (Alike related) id (q.finish db terminal) (q'.finish (db.on other) terminal') := by
  have compiled : (q.prepare terminal).map Prepared.masked = (q'.prepare terminal').map Prepared.masked := by
    rw [← prepare_masked, ← prepare_masked, alike, same]
  have reading (statement : Statement) :
      Couples (Alike related) id (ended terminal statement : Action σ Ending) (ended terminal' statement) := by
    rw [← ended_masked terminal, ← ended_masked terminal', same]
    exact ended_couples _ _
  rw [finish_eq, finish_eq]
  cases first : q.prepare terminal with
  | error fault =>
    cases second : q'.prepare terminal' with
    | error fault' =>
      rw [first, second] at compiled
      cases compiled
      exact couples_fail rfl
    | ok prepared' => rw [first, second] at compiled; cases compiled
  | ok prepared =>
    cases second : q'.prepare terminal' with
    | error fault' => rw [first, second] at compiled; cases compiled
    | ok prepared' =>
      rw [first, second] at compiled
      simp only [Action.ofExcept, pure_bind]
      exact couples_bind (send_mirrors agrees alike (Except.ok.inj compiled)) reading

end Query

namespace Script.QueryStep

open DataLayer.Session (Alike)

/-- A step without the values that it binds. -/
def masked : QueryStep → QueryStep
  | .clause change => .clause change.masked
  | .terminal ending => .terminal ending.masked
  | other => other

/-- An answer without the bound values, which only two steps ask for. -/
def shown (step : QueryStep) (answer : Except Fault Reply) : Except Fault Reply :=
  match step, answer with
  | .params, .ok (.value (.list values)) => .ok (.value (.list (masks values)))
  | .toSql, .ok (.value (.list [sql, .list values])) => .ok (.value (.list [sql, .list (masks values)]))
  | _, answer => answer

/-- Takes steps one after the other, whether they fail or not, and gathers their answers. -/
def performAll (db : Database σ) (q : Query) :
    List QueryStep → StateM (Session σ) (List (Except Fault Reply) × Query)
  | [] => return ([], q)
  | step :: rest => do
    let (answer, q) ← perform db q step
    let (answers, q) ← performAll db q rest
    return (answer :: answers, q)

theorem shown_sqlReply (q : Query) : shown .toSql (sqlReply q) = sqlReply q.masked := by
  have compiled : q.masked.toSql = q.toSql.map fun statement => (statement.1, masks statement.2) := by
    rw [Query.toSql, Query.toSql, Query.selectStatement_masked, Query.params_masked]
    cases q.selectStatement <;> rfl
  rw [sqlReply, sqlReply, compiled]
  cases q.toSql <;> rfl

/-- What two runs show of one step, the values apart. -/
structure Matched (related : σ → τ → Prop) (step step' : QueryStep)
    (first : (Except Fault Reply × Query) × Session σ) (second : (Except Fault Reply × Query) × Session τ) : Prop where
  answer : shown step first.1.1 = shown step' second.1.1
  query : first.1.2.masked = second.1.2.masked
  session : Alike related first.2 second.2

theorem perform_matched (agrees : db.driver.Agrees related other) {step step' : QueryStep}
    (same : step.masked = step'.masked) {q q' : Query} (alike : q.masked = q'.masked) {s : Session σ} {t : Session τ}
    (sessions : Alike related s t) :
    Matched related step step' (perform db q step s) (perform (db.on other) q' step' t) := by
  cases step with
  | clause change =>
    cases step' with
    | clause change' =>
      have changes : change.masked = change'.masked := QueryStep.clause.inj same
      have changed : ((q.apply change).1, (q.apply change).2.masked)
          = ((q'.apply change').1, (q'.apply change').2.masked) := by
        rw [← Query.apply_masked, ← Query.apply_masked, alike, changes]
      obtain ⟨result, query⟩ := Prod.mk.inj changed
      exact ⟨congrArg (Except.map fun _ => Reply.builder) result, query, sessions⟩
    | _ => cases same
  | terminal ending =>
    cases step' with
    | terminal ending' =>
      obtain ⟨result, after⟩ := (Query.finish_mirrors agrees alike (QueryStep.terminal.inj same)).same sessions
      exact ⟨congrArg (Except.map _) result, alike, after⟩
    | _ => cases same
  | toSql =>
    cases step' with
    | toSql =>
      refine ⟨?_, alike, sessions⟩
      change shown .toSql (sqlReply q) = shown .toSql (sqlReply q')
      rw [shown_sqlReply, shown_sqlReply, alike]
    | _ => cases same
  | params =>
    cases step' with
    | params =>
      refine ⟨?_, alike, sessions⟩
      change Except.ok (Reply.value (.list (masks q.params))) = .ok (.value (.list (masks q'.params)))
      rw [← Query.params_masked, ← Query.params_masked, alike]
    | _ => cases same
  | table =>
    cases step' with
    | table =>
      have tables : q.masked.table = q'.masked.table := congrArg Query.table alike
      exact ⟨congrArg (fun table => Except.ok (Reply.value table)) tables, alike, sessions⟩
    | _ => cases same
  | summary =>
    cases step' with
    | summary =>
      refine ⟨?_, alike, sessions⟩
      change Except.ok (Reply.text q.summary) = .ok (.text q'.summary)
      rw [← Query.summary_masked, ← Query.summary_masked q', alike]
    | _ => cases same

/-- Two runs over steps that differ in the bound values only show the same: the same answers and
faults, the same log, and the same requests to the engine but for the values of the statements. -/
theorem performAll_confined (agrees : db.driver.Agrees related other) {steps steps' : List QueryStep}
    (same : steps.map masked = steps'.map masked) {q q' : Query} (alike : q.masked = q'.masked) {s : Session σ}
    {t : Session τ} (sessions : Alike related s t) :
    let first := performAll db q steps s
    let second := performAll (db.on other) q' steps' t
    List.zipWith shown steps first.1.1 = List.zipWith shown steps' second.1.1 ∧
      first.1.2.masked = second.1.2.masked ∧ Alike related first.2 second.2 := by
  induction steps generalizing steps' q q' s t with
  | nil =>
    rw [List.map_nil, eq_comm, List.map_eq_nil_iff] at same
    subst same
    exact ⟨rfl, alike, sessions⟩
  | cons step rest ih =>
    cases steps' with
    | nil => cases same
    | cons step' rest' =>
      obtain ⟨one, others⟩ := List.cons.inj same
      obtain ⟨answer, query, after⟩ := perform_matched agrees one alike sessions
      obtain ⟨answers, last, done⟩ := ih others query after
      exact ⟨List.cons_eq_cons.mpr ⟨answer, answers⟩, last, done⟩

theorem useScript_ledger (engine : Scripted.Engine) : (Scripted.useScript engine).2.ledger = engine.ledger := by
  unfold Scripted.useScript
  split <;> rfl

theorem respond_blind (sql : Value) (params others : List Value) {engine : Scripted.Engine}
    (blind : engine.ledger = none) :
    Scripted.respond sql params engine = Scripted.respond sql others engine ∧
      (Scripted.respond sql params engine).2.ledger = none := by
  have scripted := useScript_ledger engine
  rw [blind] at scripted
  unfold Scripted.respond
  cases sql.text? with
  | none => exact ⟨rfl, scripted⟩
  | some word =>
    dsimp only
    cases Scripted.useRule word.toList engine.rules with
    | some used => exact ⟨rfl, blind⟩
    | none =>
      rw [blind]
      exact ⟨rfl, scripted⟩

/-- A scripted engine that keeps no ledger does not look at the values of a statement. -/
theorem scripted_agrees :
    Scripted.driver.Agrees (fun engine other => engine = other ∧ engine.ledger = none) Scripted.driver where
  connect := by
    rintro engine _ ⟨rfl, blind⟩
    refine ⟨rfl, rfl, ?_⟩
    change (Scripted.connect engine).2.ledger = none
    unfold Scripted.connect
    rcases engine.connectFaults with - | ⟨- | fault, rest⟩ <;> exact blind
  setup _ := by
    rintro engine _ ⟨rfl, blind⟩
    refine ⟨rfl, rfl, ?_⟩
    change (Scripted.setup engine).2.ledger = none
    unfold Scripted.setup
    rcases engine.setupFaults with - | ⟨- | fault, rest⟩ <;> exact blind
  openCursor _ := by
    rintro engine _ ⟨rfl, blind⟩
    refine ⟨rfl, rfl, ?_⟩
    change (Scripted.openCursor engine).2.ledger = none
    unfold Scripted.openCursor
    split
    · exact blind
    · split <;> exact blind
  execute sql params others _ := by
    rintro engine _ ⟨rfl, blind⟩
    obtain ⟨same, still⟩ := respond_blind sql params others blind
    change (Scripted.execute sql params engine).1 = (Scripted.execute sql others engine).1 ∧
      (Scripted.execute sql params engine).2 = (Scripted.execute sql others engine).2 ∧
        (Scripted.execute sql params engine).2.ledger = none
    unfold Scripted.execute
    rw [← same]
    refine ⟨rfl, rfl, ?_⟩
    dsimp only
    split <;> exact still
  fetchAll := fun _ _ alike => ⟨by rw [alike.1], by rw [alike.1], alike.2⟩
  commit := by
    rintro engine _ ⟨rfl, blind⟩
    refine ⟨rfl, rfl, ?_⟩
    change (Scripted.commit engine).2.ledger = none
    unfold Scripted.commit
    rcases engine.atCommit with - | fault <;> exact blind
  rollback _ _ alike := alike

/-- A statement that is refused and one that goes through show nothing of what they were given. -/
theorem performAll_confined_refused :
    let db : Database Scripted.Engine :=
      { kind := .sqlite, config := {}, now := ⟨⟨2025, 1, 1⟩, ⟨0, 0, 0, 0, none⟩⟩, driver := Scripted.driver }
    let refusal : Scripted.Response := { complaint := some (.execute, ⟨.integrity, "duplicate"⟩) }
    let s : Session Scripted.Engine := { engine := { script := [refusal] } }
    let steps (name : String) (count : Int) : List QueryStep :=
      [.terminal (.insert (.map [(.text "name", .text name)])), .clause (.compare (.text "a") (.text ">") (.int count)),
        .clause (.raw (.text "b = ? OR b = ?") (.tuple [.text name, .int count])), .terminal .get, .toSql]
    let q : Query := { table := .text "t" }
    let first := performAll db q (steps "first" 1) s
    let second := performAll (db.on Scripted.driver) q (steps "second" 2) s
    (steps "first" 1).map masked = (steps "second" 2).map masked ∧
      List.zipWith shown (steps "first" 1) first.1.1 = List.zipWith shown (steps "second" 2) second.1.1 ∧
      first.1.2.masked = second.1.2.masked ∧
      Alike (fun engine other => engine = other ∧ engine.ledger = none) first.2 second.2 := by
  intro db refusal s steps q first second
  have agrees : db.driver.Agrees (fun engine other => engine = other ∧ engine.ledger = none) Scripted.driver :=
    scripted_agrees
  have same : (steps "first" 1).map masked = (steps "second" 2).map masked := rfl
  have alike : Alike (fun engine other => engine = other ∧ engine.ledger = none) s s :=
    ⟨⟨rfl, rfl⟩, rfl, rfl, rfl, rfl, rfl⟩
  -- What the two runs come to is not needed for the comparison.
  clear_value db s
  exact ⟨same, performAll_confined agrees same (Eq.refl q.masked) alike⟩

end Script.QueryStep
end DataLayer
