import DataLayer.Proofs.Database.Acceptance
import DataLayer.Proofs.Migration.LedgerWork
import Mathlib.Data.List.Sort

/-! An engine with transactions that keeps the ledger and nothing else. Main statement: a database on
this engine keeps a ledger. -/

namespace DataLayer.Migration

open DataLayer.Action DataLayer.Database LedgerTable

/-- A ledger as an engine keeps it: the rows that the running transaction sees, those that the last one
saved, those that the last statement found, and the complaints that the next statements and commits
meet. -/
structure LedgerEngine where
  rows : List Entry := []
  saved : List Entry := []
  found : List Entry := []
  complaints : List (Option EngineFault) := []

namespace LedgerEngine

/-- The rows in the order of their numbers. -/
def sorted (rows : List Entry) : List Entry := rows.mergeSort fun first second => first.id ≤ second.id

/-- The number of a new row: the one after the largest. -/
def nextId : List Entry → Int
  | [] => 1
  | entry :: rest => max (entry.id + 1) (nextId rest)

/-- Meets the next complaint, which ends the transaction, or does some work. -/
def meet {α : Type} (work : LedgerEngine → α × LedgerEngine) (engine : LedgerEngine) :
    Except EngineFault α × LedgerEngine :=
  match engine.complaints with
  | some fault :: rest => (.error fault, { engine with rows := engine.saved, complaints := rest })
  | none :: rest => (.ok (work { engine with complaints := rest }).1, (work { engine with complaints := rest }).2)
  | [] => (.ok (work engine).1, (work engine).2)

/-- Does what a statement says, if it is about the ledger. -/
def answer (sql : Value) (params : List Value) (engine : LedgerEngine) : Answer × LedgerEngine :=
  match sql, params with
  | .text word, [] =>
    if word = Ledger.selectSql then ({ columns := Entry.columns }, { engine with found := sorted engine.rows })
    else ({}, engine)
  | .text word, [.int id] =>
    if word = Ledger.deleteSql then ({}, { engine with rows := engine.rows.filter fun entry => entry.id ≠ id })
    else ({}, engine)
  | .text word, [migration, createdAt] =>
    if word = Ledger.insertSql then
      ({}, { engine with rows := engine.rows ++ [⟨nextId engine.rows, migration, createdAt⟩] })
    else ({}, engine)
  | _, _ => ({}, engine)

def driver : Driver LedgerEngine where
  connect engine := (.ok (), engine)
  setup _ engine := (.ok (), engine)
  openCursor _ engine := (.ok (), engine)
  execute sql params := meet (answer sql params)
  fetchAll engine := (.ok (engine.found.map Entry.cells), engine)
  commit := meet fun engine => ((), { engine with saved := engine.rows })
  rollback engine := { engine with rows := engine.saved }

def ledger : LedgerTable LedgerEngine where
  rows := rows
  saved := saved

theorem lt_nextId {rows : List Entry} {entry : Entry} (member : entry ∈ rows) : entry.id < nextId rows := by
  induction rows with
  | nil => cases member
  | cons first rest ih =>
    unfold nextId
    rcases List.mem_cons.mp member with rfl | member
    · omega
    · have later := ih member
      omega

theorem sorted_inOrder (rows : List Entry) : (sorted rows).Pairwise fun first second => first.id ≤ second.id := by
  have transitive : IsTrans Entry fun first second => first.id ≤ second.id := ⟨fun _ _ _ => Int.le_trans⟩
  have total : Std.Total fun first second : Entry => first.id ≤ second.id :=
    ⟨fun first second => Int.le_total first.id second.id⟩
  exact List.pairwise_mergeSort' (fun first second : Entry => first.id ≤ second.id) rows

/-- The work is done, or a complaint has ended the transaction. -/
theorem meet_cases {α : Type} (work : LedgerEngine → α × LedgerEngine) (engine : LedgerEngine) :
    (∃ rest, meet work engine =
      (.ok (work { engine with complaints := rest }).1, (work { engine with complaints := rest }).2)) ∨
    ∃ fault rest, meet work engine = (.error fault, { engine with rows := engine.saved, complaints := rest }) := by
  unfold meet
  rcases planned : engine.complaints with - | ⟨- | fault, rest⟩
  · have same : { engine with complaints := [] } = engine := by rw [← planned]
    refine .inl ⟨[], ?_⟩
    rw [same]
  · exact .inl ⟨rest, rfl⟩
  · exact .inr ⟨fault, rest, rfl⟩

theorem meet_calm {α : Type} (work : LedgerEngine → α × LedgerEngine) {engine : LedgerEngine}
    (calm : engine.complaints = []) : meet work engine = (.ok (work engine).1, (work engine).2) := by
  unfold meet
  rw [calm]

theorem driver_execute (sql : Value) (params : List Value) : driver.execute sql params = meet (answer sql params) := rfl

theorem driver_commit : driver.commit = meet fun engine => ((), { engine with saved := engine.rows }) := rfl

/-- What holds of a statement that goes well holds whatever complaints are planned. -/
theorem executes_meet {sql : Value} {params : List Value} {effect : Answer → List Entry → List Entry → Prop}
    (effects : ∀ engine, (answer sql params engine).2.saved = engine.saved ∧
      effect (answer sql params engine).1 engine.rows (answer sql params engine).2.rows) :
    ledger.Executes driver sql params effect := by
  intro engine settled
  rcases meet_cases (answer sql params) engine with ⟨rest, met⟩ | ⟨fault, rest, met⟩
  · rw [driver_execute, met]
    exact effects { engine with complaints := rest }
  · rw [driver_execute, met]
    exact ⟨rfl, fun _ => rfl⟩

/-- A statement without values only reads. -/
theorem answer_reads (word : String) (engine : LedgerEngine) :
    (answer (.text word) [] engine).2.saved = engine.saved ∧ (answer (.text word) [] engine).2.rows = engine.rows := by
  simp only [answer]
  split <;> exact ⟨rfl, rfl⟩

theorem answer_select (engine : LedgerEngine) : answer (.text Ledger.selectSql) [] engine =
    ({ columns := Entry.columns }, { engine with found := sorted engine.rows }) := by
  simp only [answer, ↓reduceIte]

theorem answer_insert (migration createdAt : String) (engine : LedgerEngine) :
    answer (.text Ledger.insertSql) [.text migration, .text createdAt] engine =
      ({}, { engine with rows := engine.rows ++ [⟨nextId engine.rows, .text migration, .text createdAt⟩] }) := by
  simp only [answer, ↓reduceIte]

theorem answer_delete (id : Int) (engine : LedgerEngine) : answer (.text Ledger.deleteSql) [.int id] engine =
    ({}, { engine with rows := engine.rows.filter fun entry => entry.id ≠ id }) := by
  simp only [answer, ↓reduceIte]

/-- What the reading statement finds is what is fetched after it. -/
theorem select_found {engine executed after : LedgerEngine} {reply : Answer} {cells : List (List Value)}
    (execute : driver.execute (.text Ledger.selectSql) [] engine = (.ok reply, executed))
    (fetch : driver.fetchAll executed = (.ok cells, after)) : cells = (sorted engine.rows).map Entry.cells := by
  rw [driver_execute] at execute
  rcases meet_cases (answer (.text Ledger.selectSql) []) engine with ⟨rest, met⟩ | ⟨fault, rest, met⟩
  · rw [met, answer_select] at execute
    cases execute
    cases fetch
    rfl
  · rw [met] at execute
    cases execute

theorem keepsLedger (db : Database LedgerEngine) (same : db.driver = driver) : KeepsLedger db ledger where
  connect := by
    rw [same]
    exact fun _ _ => ⟨rfl, rfl⟩
  setup _ := by
    rw [same]
    exact fun _ _ => ⟨rfl, rfl⟩
  openCursor _ := by
    rw [same]
    exact fun _ _ => ⟨rfl, rfl⟩
  fetchAll := by
    rw [same]
    exact fun _ _ => ⟨rfl, rfl⟩
  create sql _ := by
    rw [same]
    exact executes_meet (answer_reads sql)
  select := by
    rw [same]
    refine executes_meet fun engine => ?_
    rw [answer_select]
    exact ⟨rfl, rfl, rfl⟩
  selected := by
    intro engine reply executed cells after settled execute fetch
    rw [same] at execute fetch
    exact ⟨sorted engine.rows, List.mergeSort_perm _ _, sorted_inOrder engine.rows, select_found execute fetch⟩
  insert migration createdAt := by
    rw [same]
    refine executes_meet fun engine => ?_
    rw [answer_insert]
    exact ⟨rfl, rfl, nextId engine.rows, fun _ => lt_nextId, rfl⟩
  delete id := by
    rw [same]
    refine executes_meet fun engine => ?_
    rw [answer_delete]
    exact ⟨rfl, rfl, rfl⟩
  commit engine := by
    rw [same]
    rcases meet_cases (fun engine => ((), { engine with saved := engine.rows })) engine with
      ⟨rest, met⟩ | ⟨fault, rest, met⟩
    · rw [driver_commit, met]
      exact ⟨rfl, rfl⟩
    · rw [driver_commit, met]
      exact ⟨rfl, fun _ => rfl⟩
  rollback engine := by
    rw [same]
    exact ⟨rfl, rfl⟩

theorem answer_complaints (sql : Value) (params : List Value) (engine : LedgerEngine) :
    (answer sql params engine).2.complaints = engine.complaints := by
  unfold answer
  split
  all_goals
    first
    | rfl
    | split <;> rfl

/-- Without planned complaints everything is accepted. -/
theorem accepts : driver.Accepts fun engine => engine.complaints = [] where
  connect _ calm := ⟨⟨(), rfl⟩, calm⟩
  setup _ _ calm := ⟨⟨(), rfl⟩, calm⟩
  openCursor _ _ calm := ⟨⟨(), rfl⟩, calm⟩
  execute sql params engine calm := by
    rw [driver_execute, meet_calm _ calm]
    exact ⟨⟨_, rfl⟩, (answer_complaints sql params engine).trans calm⟩
  fetchAll _ calm := ⟨⟨_, rfl⟩, calm⟩
  commit engine calm := by
    rw [driver_commit, meet_calm _ calm]
    exact ⟨⟨(), rfl⟩, calm⟩

/-- Without planned complaints the reading statement goes well. -/
theorem performs_calm {engine after : LedgerEngine} {result : Except EngineFault Statement} {events : List EngineEvent}
    (calm : engine.complaints = []) (performs : Performs driver (.text Ledger.selectSql) [] engine result events after) :
    after.complaints = [] ∧ ∃ statement, result = .ok statement ∧
      statement.rows = ((sorted engine.rows).map Entry.cells).map (Row.ofColumns Entry.columns) := by
  have executed : driver.execute (.text Ledger.selectSql) [] engine =
      (.ok { columns := Entry.columns }, { engine with found := sorted engine.rows }) := by
    rw [driver_execute, meet_calm _ calm, answer_select]
  have committed : driver.commit { engine with found := sorted engine.rows } =
      (.ok (), { engine with found := sorted engine.rows, saved := engine.rows }) := by
    rw [driver_commit, meet_calm]
    exact calm
  cases performs with
  | refused execute => rw [executed] at execute; cases execute
  | unfetched execute fetch =>
    rw [executed] at execute
    cases execute
    cases fetch with
    | rows wide fetched => cases fetched
  | uncommitted execute fetch commit =>
    rw [executed] at execute
    cases execute
    cases fetch with
    | nothing bare => cases bare
    | rows wide fetched =>
      cases fetched
      rw [committed] at commit
      cases commit
  | done execute fetch commit =>
    rw [executed] at execute
    cases execute
    cases fetch with
    | nothing bare => cases bare
    | rows wide fetched =>
      cases fetched
      rw [committed] at commit
      cases commit
      exact ⟨calm, _, rfl, rfl⟩

/-- Without planned complaints the ledger can be read on an open connection. -/
theorem records_calm {db : Database LedgerEngine} (same : db.driver = driver) {s : Session LedgerEngine}
    (held : s.held = true) (calm : s.engine.complaints = []) :
    ∃ t, on (records db) s = (.ok ((sorted s.engine.rows).map Entry.record), t) ∧ t.held = true ∧
      t.engine.complaints = [] := by
  have cursor : db.driver.openCursor (db.isPrepared []) s.engine = (.ok (), s.engine) := by rw [same]; rfl
  obtain ⟨result, events, after, performs, ran⟩ :=
    run_performed (ensureHandle_held db held) cursor (.text Ledger.selectSql)
  rw [same] at performs
  obtain ⟨calm', statement, rfl, rows⟩ := performs_calm calm performs
  rw [on_records, ran]
  dsimp only [conclude]
  rw [rows, recordOf_rows]
  exact ⟨_, rfl, held, calm'⟩

end LedgerEngine
end DataLayer.Migration
