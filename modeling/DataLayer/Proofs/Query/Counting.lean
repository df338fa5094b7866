import DataLayer.Proofs.Database.Opening
import DataLayer.Proofs.Database.Protocol
import DataLayer.Proofs.Query.Refusal
import DataLayer.Proofs.Query.Terminal

/-! Whether a query has rows. The engine is asked to count them, and the answer is a single row that tells the number.
Main statement: after any calls the number alone decides, whatever is selected, ordered and limited, as long as no
offset leaves that row out. -/

namespace DataLayer

open DataLayer.Action

variable {σ : Type} {db : Database σ}

namespace Query

/-- What is left of a result when an offset leaves out its first rows and a limit lets only so many through. -/
def window {α : Type} (limit offset : Option Nat) (rows : List α) : List α :=
  let rest := rows.drop (offset.getD 0)
  match limit with
  | some n => rest.take n
  | none => rest

/-- The way of a statement that counts the rows of a query, on an engine that answers it as it should: a connection and
a cursor open, the count is a single row of which the window of the query is shown, and the work is committed. -/
structure Counting (db : Database σ) (q : Query) (sql : String) (count : Nat) (s : Session σ) where
  opened : Session σ
  ready : σ
  answer : Answer
  executed : σ
  fetched : σ
  committed : σ
  opens : Action.on (Database.connect db) s = (.ok (), opened)
  cursor : db.driver.openCursor (db.isPrepared q.params) opened.engine = (.ok (), ready)
  execute : db.driver.execute (.text sql) q.params ready = (.ok answer, executed)
  columns : answer.columns = ["count"]
  fetch : db.driver.fetchAll executed = (.ok (window (some 1) q.offset [[.int count]]), fetched)
  commit : db.driver.commit fetched = (.ok (), committed)

variable {q : Query} {sql : String} {count : Nat} {s : Session σ}

/-- Behind an offset nothing is left of a single row. -/
theorem window_single {α : Type} (offset : Option Nat) (row : α) :
    window (some 1) offset [row] = if offset.getD 0 = 0 then [row] else [] := by
  unfold window
  dsimp only
  cases offset.getD 0 <;> simp

namespace Counting

theorem fetches (counting : Counting db q sql count s) {result : Except EngineFault (List (List Value))}
    {events : List EngineEvent} {after : σ}
    (fetches : Database.Fetches db.driver counting.answer.columns counting.executed result events after) :
    result = .ok (window (some 1) q.offset [[.int count]]) ∧ after = counting.fetched := by
  cases fetches with
  | nothing bare =>
    rw [counting.columns] at bare
    cases bare
  | rows wide fetched =>
    rw [counting.fetch] at fetched
    cases fetched
    exact ⟨rfl, rfl⟩

/-- The answer to a counting statement is what the window of the query shows of the count. -/
theorem performs (counting : Counting db q sql count s) {result : Except EngineFault Statement}
    {events : List EngineEvent} {after : σ}
    (performs : Database.Performs db.driver (.text sql) q.params counting.ready result events after) :
    ∃ statement, result = .ok statement ∧
      statement.rows = if q.offset.getD 0 = 0 then [[("count", .int count)]] else [] := by
  cases performs with
  | refused execute =>
    rw [counting.execute] at execute
    cases execute
  | unfetched execute fetch =>
    rw [counting.execute] at execute
    cases execute
    cases (counting.fetches fetch).1
  | uncommitted execute fetch commit =>
    rw [counting.execute] at execute
    cases execute
    rw [(counting.fetches fetch).2, counting.commit] at commit
    cases commit
  | done execute fetch commit =>
    rw [counting.execute] at execute
    cases execute
    refine ⟨_, rfl, ?_⟩
    cases (counting.fetches fetch).1
    rw [counting.columns, window_single]
    split <;> rfl

theorem run (counting : Counting db q sql count s) :
    ∃ statement t, on (db.run (.text sql) q.params) s = (.ok statement, t) ∧
      statement.rows = if q.offset.getD 0 = 0 then [[("count", .int count)]] else [] := by
  have opening := (Database.on_ensureHandle db s).trans counting.opens
  obtain ⟨result, events, after, performs, ran⟩ := Database.run_performed opening counting.cursor (.text sql)
  obtain ⟨statement, rfl, rows⟩ := counting.performs performs
  exact ⟨statement, _, ran, rows⟩

end Counting

theorem countsSome_count (count : Nat) : countsSome (some [("count", .int count)]) = .ok (decide (0 < count)) := by
  have read : countsSome (some [("count", .int count)]) = .ok (decide ((0 : Int) < count)) := rfl
  rw [read]
  simp

/-- What a query is told of its rows: there are some when the count says so, unless an offset hides the count. -/
theorem finish_exists (compiled : q.selectWith countSelection (some 1) = .ok sql)
    (counting : Counting db q sql count s) :
    ∃ t, on (q.finish db .exists) s = (.ok (.flag (decide (q.offset.getD 0 = 0 ∧ 0 < count))), t) := by
  have prepared : q.prepare .exists = .ok { sql, params := q.params } := by
    rw [prepare, compiled]
    rfl
  obtain ⟨statement, t, ran, rows⟩ := counting.run
  have told : countsSome statement.rows.head? = .ok (decide (q.offset.getD 0 = 0 ∧ 0 < count)) := by
    rw [rows]
    by_cases shown : q.offset.getD 0 = 0
    · simp [shown, countsSome_count]
    · simp [shown, countsSome]
  refine ⟨t, ?_⟩
  rw [on_finish prepared rfl s, ran]
  dsimp only [ended]
  rw [on_bind, on_check, told]
  rfl

/-- A query whose statement cannot be written asks nothing. -/
theorem finish_exists_unwritten {misuse : Misuse} (compiled : q.selectWith countSelection (some 1) = .error misuse)
    (db : Database σ) (s : Session σ) : on (q.finish db .exists) s = (.error (.misuse misuse), s) := by
  have prepared : q.prepare .exists = .error (.misuse misuse) := by
    rw [prepare, compiled]
    rfl
  rw [finish_eq, on_bind, on_ofExcept, prepared]

end Query

namespace Script.QueryStep

open Query

/-- After any calls, whether they went well or not, a query says that it has rows exactly when the engine counts some
and no offset is set that leaves the count out. What is selected and how it is ordered and limited makes no difference,
and the engine is only asked where the conditions can be written down. -/
theorem performAll_exists (db : Database σ) (fresh : Query) (steps : List QueryStep) (s : Session σ) :
    let reached := performAll db fresh steps s
    let answers := (performAll db fresh (steps ++ [.terminal .exists]) s).1.1
    (∀ misuse, reached.1.2.selectWith countSelection (some 1) = .error misuse →
      answers = reached.1.1 ++ [.error (.misuse misuse)]) ∧
      ∀ sql count, reached.1.2.selectWith countSelection (some 1) = .ok sql →
        Counting db reached.1.2 sql count reached.2 →
        answers = reached.1.1 ++ [.ok (.flag (decide (reached.1.2.offset.getD 0 = 0 ∧ 0 < count)))] := by
  intro reached answers
  have split : answers = reached.1.1 ++ [(perform db reached.1.2 (.terminal .exists) reached.2).1.1] := by
    change (performAll db fresh (steps ++ [.terminal .exists]) s).1.1 = _
    rw [performAll_append]
    rfl
  rw [split]
  constructor
  · intro misuse unwritten
    change reached.1.1 ++ [(on (reached.1.2.finish db .exists) reached.2).1.map _] = _
    rw [finish_exists_unwritten unwritten]
    rfl
  · intro sql count compiled counting
    obtain ⟨t, flagged⟩ := finish_exists compiled counting
    change reached.1.1 ++ [(on (reached.1.2.finish db .exists) reached.2).1.map _] = _
    rw [flagged]
    rfl

/-- A database whose engine follows a script. -/
def scriptedDatabase : Database Scripted.Engine :=
  { kind := .sqlite, config := {}, now := ⟨⟨2025, 1, 1⟩, ⟨0, 0, 0, 0, none⟩⟩, driver := Scripted.driver }

/-- A session with an engine that answers with the same rows at any time. -/
def answering (rows : List (List Value)) : Session Scripted.Engine :=
  { engine := { fallback := { columns := ["count"], rows } } }

/-- Such an engine counts the rows of a query when it answers what the window of the query shows of the count. -/
def answeringCounts (q : Query) (sql : String) (count : Nat) :
    Counting scriptedDatabase q sql count (answering (window (some 1) q.offset [[.int count]])) :=
  { opened := _, ready := _, answer := _, executed := _, fetched := _, committed := _
    opens := rfl, cursor := rfl, execute := rfl, columns := rfl, fetch := rfl, commit := rfl }

/-- Three rows match a query that selects, orders and limits them, and has refused to skip less than none. -/
theorem performAll_exists_limited :
    let s := answering [[.int 3]]
    let fresh : Query := { table := .text "t" }
    let steps : List QueryStep :=
      [.clause (.compare (.text "a") (.text ">") (.int 0)), .clause (.select (.text "b")), .clause (.limit (.int 0)),
        .clause (.offset (.int 0)), .clause (.offset (.int (-1)))]
    let reached := performAll scriptedDatabase fresh steps s
    let sql := "SELECT COUNT(*) AS count FROM t WHERE a > ? LIMIT 1 OFFSET 0"
    reached.1.2.selectWith countSelection (some 1) = .ok sql ∧
      Nonempty (Counting scriptedDatabase reached.1.2 sql 3 reached.2) ∧
      (performAll scriptedDatabase fresh (steps ++ [.terminal .exists]) s).1.1 = reached.1.1 ++ [.ok (.flag true)] := by
  intro s fresh steps reached sql
  let built : Query :=
    { table := .text "t", selection := .text "b", predicates := [⟨.text "a > ?", [.int 0]⟩], limit := some 0,
      offset := some 0 }
  have led : reached.1.2 = built := rfl
  have compiled : reached.1.2.selectWith countSelection (some 1) = .ok sql := by
    rw [led]
    rfl
  have counting : Counting scriptedDatabase reached.1.2 sql 3 reached.2 := answeringCounts reached.1.2 sql 3
  exact ⟨compiled, ⟨counting⟩, (performAll_exists scriptedDatabase fresh steps s).2 sql 3 compiled counting⟩

/-- Three rows match, and the offset leaves their count out. -/
theorem performAll_exists_skipped :
    let s := answering []
    let fresh : Query := { table := .text "t" }
    let steps : List QueryStep := [.clause (.offset (.int 1))]
    let reached := performAll scriptedDatabase fresh steps s
    let sql := "SELECT COUNT(*) AS count FROM t LIMIT 1 OFFSET 1"
    Query.start (.text "t") = .ok fresh ∧ reached.1.1 = [.ok .builder] ∧
      reached.1.2.selectWith countSelection (some 1) = .ok sql ∧
      Nonempty (Counting scriptedDatabase reached.1.2 sql 3 reached.2) ∧
      (perform scriptedDatabase reached.1.2 (.terminal .exists) reached.2).1.1 = .ok (.flag false) := by
  intro s fresh steps reached sql
  have compiled : reached.1.2.selectWith countSelection (some 1) = .ok sql := rfl
  have counting : Counting scriptedDatabase reached.1.2 sql 3 reached.2 := answeringCounts reached.1.2 sql 3
  obtain ⟨t, flagged⟩ := finish_exists compiled counting
  refine ⟨rfl, rfl, compiled, ⟨counting⟩, ?_⟩
  change (on (reached.1.2.finish scriptedDatabase .exists) reached.2).1.map _ = _
  rw [flagged]
  rfl

end Script.QueryStep
end DataLayer
