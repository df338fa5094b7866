import DataLayer.Proofs.Migration.FileName
import DataLayer.Proofs.Migration.Foresight

/-! The ledger's engine on an open connection, while no complaint is planned. Main statement: everything that
a run and a rollback do goes well there, and leaves the connection open. -/

namespace DataLayer.Migration.LedgerEngine

open DataLayer.Action DataLayer.Database DataLayer.Script

variable {db : Database LedgerEngine} {s : Session LedgerEngine}

/-- An open connection to an engine without planned complaints. -/
structure Ready (s : Session LedgerEngine) : Prop where
  held : s.held = true
  calm : s.engine.complaints = []

theorem run_ready (same : db.driver = driver) (ready : Ready s) (sql : Value) (params : List Value) :
    ∃ statement t, on (run db sql params) s = (.ok statement, t) ∧ Ready t := by
  have accepts' : db.driver.Accepts fun engine => engine.complaints = [] := same ▸ accepts
  obtain ⟨statement, t, ran, held, calm⟩ := run_willing accepts' (willing_of_held ready.calm ready.held) sql params
  exact ⟨statement, t, ran, held, calm⟩

theorem records_ready (same : db.driver = driver) (ready : Ready s) :
    ∃ found t, on (records db) s = (.ok found, t) ∧ Ready t := by
  obtain ⟨t, read, held, calm⟩ := records_calm same ready.held ready.calm
  exact ⟨_, t, read, held, calm⟩

theorem recordFile_ready (same : db.driver = driver) (ready : Ready s) (file : String) :
    ∃ t, on (recordFile db file) s = (.ok (), t) ∧ Ready t := by
  obtain ⟨statement, t, ran, after⟩ := run_ready same ready (.text Ledger.insertSql)
    [.text file, .text db.now.ledgerText]
  refine ⟨t, ?_, after⟩
  rw [on_recordFile, ran]

theorem eraseRecord_ready (same : db.driver = driver) (ready : Ready s) (id : Value) :
    ∃ t, on (eraseRecord db id) s = (.ok (), t) ∧ Ready t := by
  obtain ⟨statement, t, ran, after⟩ := run_ready same ready (.text Ledger.deleteSql) [id]
  refine ⟨t, ?_, after⟩
  rw [on_eraseRecord, ran]

/-- The step that drops a table. -/
def dropStep (table : String) : SchemaStep := .call { name := "drop", args := [.text table] }

/-- The statement that drops a table. -/
def dropSql (table : String) : Value := .text ("DROP TABLE " ++ Dialect.quotedName table)

theorem on_dropStep {σ : Type} (db : Database σ) (table : String) (s : Session σ) :
    on (SchemaStep.performAll db [dropStep table]) s =
      ((on (run db (dropSql table) []) s).1.map fun _ => (), (on (run db (dropSql table) []) s).2) := by
  have bound : Call.bind { name := "drop", args := [.text table] } ("Schema." ++ "drop") [Signature.required "table"] =
      .ok { values := [("table", .text table)], others := [] } := rfl
  unfold SchemaStep.performAll SchemaStep.performAll SchemaStep.perform dropStep SchemaStep.performCall Schema.drop
  dsimp only
  rw [bound]
  have starts : Access.StartsWithWord ("DROP TABLE " ++ Dialect.quotedName table) :=
    Access.startsWithWord_append ⟨'D', _, rfl, rfl, rfl⟩ _
  have quoted : Dialect.quoteIdentifier (.text table) = .ok (Dialect.quotedName table) := rfl
  have given : Signature.Bound.getD { values := [("table", .text table)], others := [] } "table" .null = .text table := rfl
  simp only [on_bind, on_check_ok, given, quoted]
  rw [Access.on_change starts]
  unfold dropSql
  rcases on (run db (.text ("DROP TABLE " ++ Dialect.quotedName table)) []) s with ⟨fault | statement, t⟩ <;> rfl

/-- A file whose migration drops a table, and drops another one when it is undone. -/
def dropFile (up down : String) : Source.File := Source.singleClass [dropStep up] [dropStep down]

theorem dropStep_ready (same : db.driver = driver) (ready : Ready s) (table : String) :
    ∃ t, on (SchemaStep.performAll db [dropStep table]) s = (.ok (), t) ∧ Ready t := by
  obtain ⟨statement, t, ran, after⟩ := run_ready same ready (dropSql table) []
  refine ⟨t, ?_, after⟩
  rw [on_dropStep, ran]
  rfl

theorem dropStep_rests (same : db.driver = driver) (table : String) :
    Action.Moves ledger.Rests (SchemaStep.performAll db [dropStep table]) := by
  intro s settled
  have reads : ledger.Executes db.driver (dropSql table) [] LedgerTable.Reads := same ▸ executes_meet (answer_reads _)
  have ran := run_ledger (keepsLedger db same) reads (fun same => .inr same) settled
  rw [on_dropStep]
  rcases running : on (run db (dropSql table) []) s with ⟨fault | statement, t⟩
  · rw [running] at ran
    exact ran
  · rw [running] at ran
    obtain ⟨after, answer, rows⟩ := ran
    exact ⟨after, rows⟩

/-- On an open connection without planned complaints the ledger's statements succeed. -/
theorem obliging_ready (same : db.driver = driver) : Obliging db Ready where
  aside _ _ ready := ⟨ready.held, ready.calm⟩
  reads now s ready := @records_ready { db with now } s same ready
  writes now file s ready := @recordFile_ready { db with now } s same ready file

theorem foretold_drop (same : db.driver = driver) (table : String) : Foretold db Ready [dropStep table] (.ok ()) :=
  fun now s ready => @dropStep_ready { db with now } s same ready table

/-- What a file with a single migration comes to is what its steps come to. -/
theorem steadyFile_steps {up down : List SchemaStep} {outcome : Except Fault Unit}
    (foretold : Foretold db Ready up outcome) : SteadyFile db Ready (Source.singleClass up down) := by
  intro path bindings definition bound candidate
  rw [Source.eq_onlyClass bound candidate]
  exact ⟨outcome, foretold⟩

theorem quietFile_drop (same : db.driver = driver) (up down : String) : QuietFile db ledger (dropFile up down) :=
  quietFile_steps (fun now => @dropStep_rests { db with now } same up) fun now => @dropStep_rests { db with now } same down

/-- Undoing the migrations of a file leaves the connection open and the engine calm. -/
def UndoesReady (db : Database LedgerEngine) (file : Source.File) : Prop :=
  ∀ ⦃path : Path⦄ ⦃bindings : Source.Bindings⦄ ⦃definition : Source.ClassValue⦄, file.bindings path = .ok bindings →
    definition ∈ bindings.candidates .migration →
      Action.Moves (Keeps Ready) (SchemaStep.performAll db (definition.down.getD []))

theorem undoesReady_drop (same : db.driver = driver) (up down : String) : UndoesReady db (dropFile up down) := by
  intro path bindings definition bound candidate
  rw [Source.eq_onlyClass bound candidate]
  intro s ready
  obtain ⟨t, dropped, after⟩ := dropStep_ready same ready down
  change Ready (on (SchemaStep.performAll db [dropStep down]) s).2
  rwa [dropped]

/-- Taking back the last migration leaves the connection open and the engine calm where undoing each file does. -/
theorem rollbackLast_ready (same : db.driver = driver) {tree : Tree Source.File}
    (undoes : ∀ ⦃place : Place⦄ ⦃file : Source.File⦄, (place, .file file) ∈ tree.nodes → UndoesReady db file)
    (folder : Path) : Action.Moves (Keeps Ready) (rollbackLast db tree folder) := by
  refine rollbackLast_moves (fun s notice ready => ⟨ready.held, ready.calm⟩) ?_ ?_ ?_ folder
  · intro s ready
    obtain ⟨found, t, read, after⟩ := records_ready same ready
    rwa [read]
  · intro path definition loading
    obtain ⟨place, file, bindings, member, bound, candidate⟩ := Source.instantiate_ok loading
    exact undoes member bound candidate
  · intro id s ready
    obtain ⟨t, erased, after⟩ := eraseRecord_ready same ready id
    rwa [erased]

/-- A file whose migration refuses to be made. -/
def brokenFile : Source.File := Source.singleClass [.raise "RuntimeError" (.text "not yet")] []

theorem quietFile_broken (db : Database LedgerEngine) : QuietFile db ledger brokenFile :=
  quietFile_steps (fun _ _ settled => ⟨settled, rfl⟩) fun _ => moves_pure ()

theorem foretold_broken (db : Database LedgerEngine) : Foretold db Ready [.raise "RuntimeError" (.text "not yet")]
    (.error (.raise "RuntimeError" (.text "not yet"))) :=
  fun _ s ready => ⟨s, rfl, ready⟩

def here : Path := { parts := ["m"] }

def first : String := "2025_01_01_000000_first.py"

def second : String := "2025_01_02_000000_second.py"

def third : String := "2025_01_03_000000_third.py"

/-- A folder with three files. -/
def three (a b c : Source.File) : Tree Source.File :=
  { nodes := [(["m"], .folder), (["m", first], .file a), (["m", second], .file b), (["m", third], .file c)] }

section

variable {a b c : Source.File}

theorem three_all {holds : Source.File → Prop} (first : holds a) (second : holds b) (third : holds c) ⦃place : Place⦄
    ⦃file : Source.File⦄ (member : (place, .file file) ∈ (three a b c).nodes) : holds file := by
  simp only [three, List.mem_cons, Prod.mk.injEq, reduceCtorEq, and_false, false_or, Node.file.injEq, List.not_mem_nil,
    or_false] at member
  rcases member with ⟨-, rfl⟩ | ⟨-, rfl⟩ | ⟨-, rfl⟩
  · exact first
  · exact second
  · exact third

theorem three_distinct : (three a b c).Distinct :=
  show [["m"], ["m", first], ["m", second], ["m", third]].Nodup by decide

theorem named {name : String} (member : name ∈ [first, second, third]) : isFileName name = true := by
  revert name
  decide +kernel

theorem discover_three : discover (three a b c) here = .ok [first, second, third] := by
  have listed : (three a b c).listing here = .ok [first, second, third] := rfl
  have all : [first, second, third].filter isFileName = [first, second, third] :=
    List.filter_eq_self.mpr fun name member => named member
  rw [discover_eq, listed]
  exact congrArg Except.ok (Tree.sortedNames_eq all (by decide))

theorem isFile_three {name : String} (member : name ∈ [first, second, third]) :
    (three a b c).isFile (here.child name) = .ok true := by
  have place : here.child name = { parts := ["m", name] } := Path.child_name (isName_of_isFileName (named member)) here
  have fits : Path.hasNull { parts := ["m", name] } = false ∧
      ¬ Tree.longestPath < (Path.text { parts := ["m", name] }).utf8ByteSize ∧
      ["m", name].any Tree.isLongName = false := by
    clear place
    revert name
    decide +kernel
  obtain ⟨clean, short, usual⟩ := fits
  have found : ∃ content, (three a b c).find? { parts := ["m", name] } = some (.file content) := by
    simp only [List.mem_cons, List.not_mem_nil, or_false] at member
    rcases member with rfl | rfl | rfl
    · exact ⟨a, rfl⟩
    · exact ⟨b, rfl⟩
    · exact ⟨c, rfl⟩
  obtain ⟨content, found⟩ := found
  rw [place]
  simp only [Tree.isFile, Tree.look, clean, short, usual, found]
  rfl

/-- A file with a single migration is loaded from its place in the folder. -/
theorem instantiate_three {name : String} {up down : List SchemaStep} (member : name ∈ [first, second, third])
    (found : (three a b c).find? { parts := ["m", name] } = some (.file (Source.singleClass up down))) :
    ∃ called, instantiate (three a b c) (here.child name) = .ok (Source.onlyClass called "Change" up down) := by
  have isName := isName_of_isFileName (named member)
  have place : here.child name = { parts := ["m", name] } := Path.child_name isName here
  have ending : ".py".toList.isSuffixOf (here.child name).name.toList = true := by
    rw [Path.name_child isName]
    clear found isName place
    revert name
    decide +kernel
  rw [place] at ending ⊢
  exact ⟨_, Source.instantiate_onlyClass found ending (Source.bindings_singleClass _ _ _) (by decide)⟩

end

/-! Three files that drop tables. -/

/-- A folder with three files, each of which drops a table. -/
def threeDrops (a b c d e f : String) : Tree Source.File := three (dropFile a b) (dropFile c d) (dropFile e f)

section

variable {a b c d e f : String}

theorem instantiate_drops {name : String} (member : name ∈ [first, second, third]) : ∃ up down called,
    instantiate (threeDrops a b c d e f) (here.child name) =
      .ok (Source.onlyClass called "Change" [dropStep up] [dropStep down]) := by
  have own := member
  simp only [List.mem_cons, List.not_mem_nil, or_false] at own
  rcases own with rfl | rfl | rfl
  · exact ⟨a, b, instantiate_three member rfl⟩
  · exact ⟨c, d, instantiate_three member rfl⟩
  · exact ⟨e, f, instantiate_three member rfl⟩

variable (same : db.driver = driver)

include same

theorem quietTree_drops : QuietTree db ledger (threeDrops a b c d e f) :=
  three_all (quietFile_drop same a b) (quietFile_drop same c d) (quietFile_drop same e f)

theorem steadyFile_drop (up down : String) : SteadyFile db Ready (dropFile up down) :=
  steadyFile_steps (foretold_drop same up)

theorem steadyTree_drops : SteadyTree db Ready (threeDrops a b c d e f) :=
  three_all (steadyFile_drop same a b) (steadyFile_drop same c d) (steadyFile_drop same e f)

/-- Every attempt at one of the files is known to succeed. -/
theorem decided_drops {outcome : String → Except Fault Unit}
    (decided : ∀ name, Decided db Ready (threeDrops a b c d e f) here name (outcome name)) (ready : Ready s) {name : String}
    (member : name ∈ [first, second, third]) : outcome name = .ok () := by
  obtain ⟨up, down, called, loading⟩ := @instantiate_drops a b c d e f name member
  exact (decided name).eq (decided_of_foretold (obliging_ready same) loading (foretold_drop same up)) rfl ready

theorem rollbackLast_drops : Action.Moves (Keeps Ready) (rollbackLast db (threeDrops a b c d e f) here) :=
  rollbackLast_ready same
    (three_all (undoesReady_drop same a b) (undoesReady_drop same c d) (undoesReady_drop same e f)) here

end

end DataLayer.Migration.LedgerEngine
