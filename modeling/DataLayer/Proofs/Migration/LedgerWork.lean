import DataLayer.Engine.Ledger
import DataLayer.Migration.Ledger
import DataLayer.Proofs.Database.Access
import DataLayer.Proofs.Database.Storage

/-! The ledger as a table of an engine with transactions. The rows that a transaction sees and the rows
that are saved differ only while a change is open; main statement: after every statement, whether it
went well or not, nothing is open, and a statement that failed has changed nothing. -/

namespace DataLayer.Migration

open DataLayer.Action DataLayer.Database

variable {σ α : Type}

/-- A row of the ledger. -/
structure Entry where
  id : Int
  migration : Value
  createdAt : Value

namespace Entry

/-- The values of a row in the order of the columns. -/
def cells (entry : Entry) : List Value := [.int entry.id, entry.migration, entry.createdAt]

/-- A row as it is read. -/
def record (entry : Entry) : Record where
  id := .int entry.id
  migration := entry.migration
  createdAt := entry.createdAt

/-- The columns that the whole ledger is read by. -/
def columns : List String := ["id", "migration", "created_at"]

end Entry

/-- Where an engine keeps the ledger: the rows as they stand in the running transaction, and as they
were saved by the last one. -/
structure LedgerTable (σ : Type) where
  rows : σ → List Entry
  saved : σ → List Entry

namespace LedgerTable

/-- No change of the ledger is open. -/
def Settled (table : LedgerTable σ) (engine : σ) : Prop := table.saved engine = table.rows engine

/-- A request that leaves the ledger alone when no change of it is open. -/
def Leaves (table : LedgerTable σ) (request : σ → α × σ) : Prop :=
  ∀ engine, table.Settled engine →
    table.rows (request engine).2 = table.rows engine ∧ table.saved (request engine).2 = table.saved engine

/-- After a complaint nothing more is saved, and unless the complaint is one that a rollback follows,
nothing is left open. -/
def Spared (table : LedgerTable σ) (engine : σ) (fault : EngineFault) (after : σ) : Prop :=
  table.saved after = table.saved engine ∧
    (fault.kind.isDriverError = false → table.rows after = table.saved engine)

/-- A statement that changes the rows in one way when it goes well, and is spared when it does not. -/
def Executes (table : LedgerTable σ) (driver : Driver σ) (sql : Value) (params : List Value)
    (effect : Answer → List Entry → List Entry → Prop) : Prop :=
  ∀ engine, table.Settled engine → match driver.execute sql params engine with
    | (.ok answer, after) =>
      table.saved after = table.saved engine ∧ effect answer (table.rows engine) (table.rows after)
    | (.error fault, after) => table.Spared engine fault after

/-- What becomes of the ledger with some work: nothing is open at the end, and the rows are changed when
the work goes well, and are what they were otherwise. -/
def Done (table : LedgerTable σ) (change : List Entry → List Entry → Prop) (s : Session σ) :
    Except Fault α × Session σ → Prop
  | (.ok _, t) => table.Settled t.engine ∧ change (table.rows s.engine) (table.rows t.engine)
  | (.error _, t) => table.Settled t.engine ∧ table.rows t.engine = table.rows s.engine

/-- The rows are only read. -/
def Reads (_ : Answer) (before after : List Entry) : Prop := after = before

/-- A row is appended under a number that is larger than all others. -/
def Inserts (migration createdAt : Value) (answer : Answer) (before after : List Entry) : Prop :=
  answer.columns = [] ∧
    ∃ id, (∀ entry ∈ before, entry.id < id) ∧ after = before ++ [⟨id, migration, createdAt⟩]

/-- The rows of a number are taken out. -/
def Deletes (id : Int) (answer : Answer) (before after : List Entry) : Prop :=
  answer.columns = [] ∧ after = before.filter fun entry => entry.id ≠ id

end LedgerTable

open LedgerTable

/-- A database whose engine keeps a ledger: its statements do what they say or change nothing, what is
committed lasts, and what is rolled back is gone. -/
structure KeepsLedger (db : Database σ) (table : LedgerTable σ) : Prop where
  connect : table.Leaves db.driver.connect
  setup : ∀ sql, table.Leaves (db.driver.setup sql)
  openCursor : ∀ prepared, table.Leaves (db.driver.openCursor prepared)
  fetchAll : table.Leaves db.driver.fetchAll
  create : ∀ sql, Schema.compile db.dialect ledgerTable true describeLedger = .ok (some sql) →
    table.Executes db.driver (.text sql) [] Reads
  select : table.Executes db.driver (.text Ledger.selectSql) [] fun answer before after =>
    answer.columns = Entry.columns ∧ after = before
  /-- The whole ledger is read in the order of the numbers. -/
  selected : ∀ {engine answer executed cells after}, table.Settled engine →
    db.driver.execute (.text Ledger.selectSql) [] engine = (.ok answer, executed) →
    db.driver.fetchAll executed = (.ok cells, after) →
    ∃ ordered : List Entry, ordered.Perm (table.rows engine) ∧
      ordered.Pairwise (fun first second => first.id ≤ second.id) ∧ cells = ordered.map Entry.cells
  insert : ∀ migration createdAt, table.Executes db.driver (.text Ledger.insertSql)
    [.text migration, .text createdAt] (Inserts (.text migration) (.text createdAt))
  delete : ∀ id, table.Executes db.driver (.text Ledger.deleteSql) [.int id] (Deletes id)
  commit : ∀ engine, match db.driver.commit engine with
    | (.ok (), after) => table.rows after = table.rows engine ∧ table.saved after = table.rows engine
    | (.error fault, after) => table.Spared engine fault after
  rollback : ∀ engine, table.rows (db.driver.rollback engine) = table.saved engine ∧
    table.saved (db.driver.rollback engine) = table.saved engine

section

variable {db : Database σ} {table : LedgerTable σ}

/-- Work that changes no rows in either case. -/
theorem LedgerTable.Done.same {s : Session σ} {ended : Except Fault α × Session σ}
    (done : table.Done (fun before after => after = before) s ended) :
    table.Settled ended.2.engine ∧ table.rows ended.2.engine = table.rows s.engine := by
  rcases ended with ⟨result, t⟩
  cases result <;> exact done

/-- From a session without an open change to another one with the same rows. -/
def LedgerTable.Rests (table : LedgerTable σ) (s t : Session σ) : Prop :=
  table.Settled s.engine → table.Settled t.engine ∧ table.rows t.engine = table.rows s.engine

instance : Progress table.Rests where
  refl _ settled := ⟨settled, rfl⟩
  trans first second settled := by
    obtain ⟨between, same⟩ := first settled
    obtain ⟨after, same'⟩ := second between
    exact ⟨after, same'.trans same⟩

/-- What an engine stores of the ledger. -/
def LedgerTable.storage (table : LedgerTable σ) : Storage σ (List Entry) where
  current := table.rows
  saved := table.saved

theorem KeepsLedger.storage (keeps : KeepsLedger db table) : KeepsStorage db table.storage :=
  { keeps with }

theorem opens_rests (keeps : KeepsLedger db table) : Opens db table.Rests := opens_storage keeps.storage

theorem cursor_ledger (keeps : KeepsLedger db table) {s opened : Session σ} {result : Except EngineFault Unit}
    {ready : σ} {prepared : Bool} (settled : table.Settled s.engine)
    (opening : on (ensureHandle db) s = (.ok (), opened))
    (cursor : db.driver.openCursor prepared opened.engine = (result, ready)) :
    table.Settled ready ∧ table.rows ready = table.rows s.engine :=
  cursor_stores keeps.storage settled opening cursor

/-- After a statement nothing is open. It has its effect when it goes well, and none otherwise. -/
theorem run_ledger (keeps : KeepsLedger db table) {sql : Value} {params : List Value}
    {effect : Answer → List Entry → List Entry → Prop} (executes : table.Executes db.driver sql params effect)
    (bare : ∀ {answer before after}, effect answer before after → answer.columns = [] ∨ after = before)
    {s : Session σ} (settled : table.Settled s.engine) :
    table.Done (fun before after => ∃ answer, effect answer before after) s (on (run db sql params) s) :=
  run_stores keeps.storage executes bare settled

end

end DataLayer.Migration

/-! What the work on the ledger does to its rows. Reading gives them in the order of their numbers,
recording appends one, taking back takes out those of a number, and making the ledger leaves them. -/

namespace DataLayer.Migration

open DataLayer.Action DataLayer.Database LedgerTable

variable {σ : Type} {db : Database σ} {table : LedgerTable σ}

/-- A reading of the ledger: all rows, in the order of their numbers. -/
structure InOrder (rows ordered : List Entry) : Prop where
  perm : ordered.Perm rows
  sorted : ordered.Pairwise fun first second => first.id ≤ second.id

theorem recordOf_cells (entry : Entry) : recordOf (Row.ofColumns Entry.columns entry.cells) = .ok entry.record := by
  rfl

theorem recordOf_rows (entries : List Entry) :
    ((entries.map Entry.cells).map (Row.ofColumns Entry.columns)).mapM recordOf = .ok (entries.map Entry.record) := by
  induction entries with
  | nil => rfl
  | cons entry rest ih =>
    simp only [List.map_cons, List.mapM_cons, recordOf_cells, ih]
    rfl

theorem ledgerQuery_prepare : ledgerQuery.prepare .get = .ok { sql := Ledger.selectSql, params := [] } := by
  rfl

theorem on_records (db : Database σ) (s : Session σ) :
    on (records db) s = match on (run db (.text Ledger.selectSql) []) s with
      | (.ok statement, t) => ((statement.rows.mapM recordOf).mapError Fault.misuse, t)
      | (.error fault, t) => (.error fault, t) := by
  unfold records
  rw [on_bind, Query.on_finish ledgerQuery_prepare rfl]
  rcases on (run db (.text Ledger.selectSql) []) s with ⟨result, t⟩
  cases result with
  | error fault => rfl
  | ok statement => exact on_check _ t

/-- The reading statement keeps the rows, and its answer has the columns of the ledger. -/
theorem select_bare {answer : Answer} {before after : List Entry}
    (read : answer.columns = Entry.columns ∧ after = before) : answer.columns = [] ∨ after = before :=
  .inr read.2

/-- The rows that are read are those of the ledger in the order of their numbers. -/
theorem run_select_rows (keeps : KeepsLedger db table) {s t : Session σ} {statement : Statement}
    (settled : table.Settled s.engine) (ran : on (run db (.text Ledger.selectSql) []) s = (.ok statement, t)) :
    ∃ ordered, InOrder (table.rows s.engine) ordered ∧
      statement.rows = (ordered.map Entry.cells).map (Row.ofColumns Entry.columns) := by
  obtain ⟨opened, ready, answer, executed, cells, events, fetched, opening, cursor, execute, fetch, rows⟩ := run_ok ran
  obtain ⟨ready', same⟩ := cursor_ledger keeps settled opening cursor
  have columns := keeps.select ready ready'
  rw [execute] at columns
  obtain ⟨-, columns, -⟩ := columns
  rw [columns] at fetch rows
  cases fetch with
  | nothing bare => cases bare
  | rows wide fetch =>
    obtain ⟨ordered, perm, sorted, read⟩ := keeps.selected ready' execute fetch
    rw [same] at perm
    exact ⟨ordered, ⟨perm, sorted⟩, read ▸ rows⟩

/-- Reading the ledger changes nothing, and gives its rows in the order of their numbers. -/
theorem records_ledger (keeps : KeepsLedger db table) {s : Session σ} (settled : table.Settled s.engine) :
    table.Done (fun before after => after = before) s (on (records db) s) ∧
      ∀ {found t}, on (records db) s = (.ok found, t) →
        ∃ ordered, InOrder (table.rows s.engine) ordered ∧ found = ordered.map Entry.record := by
  have ran := run_ledger keeps keeps.select select_bare settled
  rw [on_records]
  rcases reading : on (run db (.text Ledger.selectSql) []) s with ⟨result, t⟩
  rw [reading] at ran
  cases result with
  | error fault =>
    refine ⟨ran, ?_⟩
    intro found t' ended
    cases ended
  | ok statement =>
    obtain ⟨after, answer, -, same⟩ := ran
    obtain ⟨ordered, inOrder, rows⟩ := run_select_rows keeps settled reading
    dsimp only
    rw [rows, recordOf_rows]
    refine ⟨⟨after, same⟩, ?_⟩
    intro found t' ended
    cases ended
    exact ⟨ordered, inOrder, rfl⟩

theorem inserts_bare {migration createdAt : Value} {answer : Answer} {before after : List Entry}
    (inserts : Inserts migration createdAt answer before after) : answer.columns = [] ∨ after = before :=
  .inl inserts.1

theorem deletes_bare {id : Int} {answer : Answer} {before after : List Entry}
    (deletes : Deletes id answer before after) : answer.columns = [] ∨ after = before :=
  .inl deletes.1

/-- A new row with the largest number follows the others. -/
def Appends (migration : Value) (before after : List Entry) : Prop :=
  ∃ entry : Entry, entry.migration = migration ∧ (∀ other ∈ before, other.id < entry.id) ∧ after = before ++ [entry]

theorem on_recordFile (db : Database σ) (file : String) (s : Session σ) :
    on (recordFile db file) s =
      match on (run db (.text Ledger.insertSql) [.text file, .text db.now.ledgerText]) s with
      | (.ok _, t) => (.ok (), t)
      | (.error fault, t) => (.error fault, t) := by
  let row : Value := .map [(.text "migration", .text file), (.text "created_at", .text db.now.ledgerText)]
  have compiled : Query.prepare { table := ledgerTable } (.insert row)
      = .ok { sql := Ledger.insertSql, params := [.text file, .text db.now.ledgerText] } := rfl
  unfold recordFile
  dsimp only
  rw [on_bind, Query.on_finish compiled rfl]
  dsimp only
  rcases on (run db (.text Ledger.insertSql) [.text file, .text db.now.ledgerText]) s with ⟨result, t⟩
  cases result <;> rfl

/-- Recording a file appends one row with its name, or changes nothing. -/
theorem recordFile_ledger (keeps : KeepsLedger db table) (file : String) {s : Session σ}
    (settled : table.Settled s.engine) :
    table.Done (Appends (.text file)) s (on (recordFile db file) s) := by
  have ran := run_ledger keeps (keeps.insert file db.now.ledgerText) inserts_bare settled
  rw [on_recordFile]
  rcases running : on (run db (.text Ledger.insertSql) [.text file, .text db.now.ledgerText]) s with ⟨result, t⟩
  rw [running] at ran
  cases result with
  | error fault => exact ran
  | ok statement =>
    obtain ⟨after, answer, -, id, larger, rows⟩ := ran
    exact ⟨after, _, rfl, larger, rows⟩

theorem on_eraseRecord (db : Database σ) (id : Value) (s : Session σ) :
    on (eraseRecord db id) s = match on (run db (.text Ledger.deleteSql) [id]) s with
      | (.ok _, t) => (.ok (), t)
      | (.error fault, t) => (.error fault, t) := by
  have compiled : (({ table := ledgerTable : Query }).compare (.text "id") (.text "=") id).prepare .delete
      = .ok { sql := Ledger.deleteSql, params := [id] } := rfl
  unfold eraseRecord
  dsimp only
  rw [on_bind, Query.on_finish compiled rfl]
  dsimp only
  rcases on (run db (.text Ledger.deleteSql) [id]) s with ⟨result, t⟩
  cases result <;> rfl

/-- Taking back a record takes out the rows of its number, or changes nothing. -/
theorem eraseRecord_ledger (keeps : KeepsLedger db table) (id : Int) {s : Session σ}
    (settled : table.Settled s.engine) :
    table.Done (fun before after => after = before.filter fun entry => entry.id ≠ id) s
      (on (eraseRecord db (.int id)) s) := by
  have ran := run_ledger keeps (keeps.delete id) deletes_bare settled
  rw [on_eraseRecord]
  rcases running : on (run db (.text Ledger.deleteSql) [.int id]) s with ⟨result, t⟩
  rw [running] at ran
  cases result with
  | error fault => exact ran
  | ok statement =>
    obtain ⟨after, answer, -, rows⟩ := ran
    exact ⟨after, rows⟩

/-- Making a table leaves the ledger, where its statement does. -/
theorem create_ledger (keeps : KeepsLedger db table) {name : Value} {describe : Schema.Describe}
    (executes : ∀ sql, Schema.compile db.dialect name true describe = .ok (some sql) →
      table.Executes db.driver (.text sql) [] Reads) {s : Session σ} (settled : table.Settled s.engine) :
    table.Done (fun before after => after = before) s (on (Schema.create db name describe) s) := by
  unfold Schema.create
  rw [Access.on_applyBlueprint]
  cases compiled : Schema.compile db.dialect name true describe with
  | error fault => exact ⟨settled, rfl⟩
  | ok statement =>
    cases statement with
    | none => exact ⟨settled, rfl⟩
    | some sql =>
      have ran := run_ledger keeps (executes sql compiled) (fun same => .inr same) settled
      dsimp only
      rcases running : on (run db (.text sql) []) s with ⟨result, t⟩
      rw [running] at ran
      cases result with
      | error fault => exact ran
      | ok statement =>
        obtain ⟨after, answer, same⟩ := ran
        exact ⟨after, same⟩

/-- Making the ledger leaves the rows of one that is there. -/
theorem ensureLedger_ledger (keeps : KeepsLedger db table) {s : Session σ} (settled : table.Settled s.engine) :
    table.Done (fun before after => after = before) s (on (ensureLedger db) s) := by
  have made := create_ledger keeps keeps.create settled
  unfold ensureLedger
  rw [on_bind]
  generalize on (Schema.create db ledgerTable describeLedger) s = ended at made ⊢
  rcases ended with ⟨result, t⟩
  cases result <;> exact made

end DataLayer.Migration
