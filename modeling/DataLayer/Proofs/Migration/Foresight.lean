import DataLayer.Proofs.Migration.Course
import Mathlib.Data.List.TakeWhile

/-! Runs whose outcome is known beforehand. In sessions in which every statement on the ledger succeeds, and in
which what a migration comes to depends on its file alone, so does every attempt at a file; main statement: a
run applies the announced files up to the first one whose attempt is known to fail. -/

namespace DataLayer.Migration

open DataLayer.Action DataLayer.Database DataLayer.Script LedgerTable

variable {σ : Type} {db : Database σ} {table : LedgerTable σ} {tree : Tree Source.File} {folder : Path}
  {met : Session σ → Prop}

/-- Sessions in which every statement on the ledger succeeds at any time, and leads to such a session. They are
told apart by what the engine and the connection are like, and not by what is logged. -/
structure Obliging (db : Database σ) (met : Session σ → Prop) : Prop where
  aside : ∀ {s : Session σ} log context, met s → met { s with log, context }
  reads : ∀ now {s}, met s → ∃ found t, on (records { db with now }) s = (.ok found, t) ∧ met t
  writes : ∀ now file {s}, met s → ∃ t, on (recordFile { db with now } file) s = (.ok (), t) ∧ met t

/-- The outcome of steps is the same at any time and in whichever of the sessions they are taken. -/
def Foretold (db : Database σ) (met : Session σ → Prop) (steps : List SchemaStep) (outcome : Except Fault Unit) : Prop :=
  ∀ now {s}, met s → ∃ t, on (SchemaStep.performAll { db with now } steps) s = (outcome, t) ∧ met t

/-- What the migrations of a file come to depends on nothing but the file. -/
def SteadyFile (db : Database σ) (met : Session σ → Prop) (file : Source.File) : Prop :=
  ∀ ⦃path : Path⦄ ⦃bindings : Source.Bindings⦄ ⦃definition : Source.ClassValue⦄, file.bindings path = .ok bindings →
    definition ∈ bindings.candidates .migration → ∃ outcome, Foretold db met (definition.up.getD []) outcome

/-- What the migrations of each file of a tree come to depends on nothing but the file. -/
def SteadyTree (db : Database σ) (met : Session σ → Prop) (tree : Tree Source.File) : Prop :=
  ∀ ⦃place : Place⦄ ⦃file : Source.File⦄, (place, .file file) ∈ tree.nodes → SteadyFile db met file

/-- What an attempt at a file comes to in each of the sessions. -/
def Decided (db : Database σ) (met : Session σ → Prop) (tree : Tree Source.File) (folder : Path) (file : String)
    (outcome : Except Fault Unit) : Prop :=
  ∀ now {s}, met s → ∃ t, tryFile { db with now } tree folder file s = (outcome, t) ∧ met t

theorem Obliging.complained (obliging : Obliging db met) (fault : Fault) {s : Session σ} (holds : met s) :
    met (complained fault s) := by
  unfold Migration.complained
  split
  · exact holds
  · exact obliging.aside _ s.context holds

/-- An attempt at a file that can be loaded comes to what its steps come to. -/
theorem decided_of_foretold (obliging : Obliging db met) {file : String} {definition : Source.ClassValue}
    (loading : instantiate tree (folder.child file) = .ok definition) {outcome : Except Fault Unit}
    (foretold : Foretold db met (definition.up.getD []) outcome) : Decided db met tree folder file outcome := by
  intro now s holds
  have inside : met (bound file s) := obliging.aside s.log _ holds
  obtain ⟨t, changing, after⟩ := foretold now inside
  rw [tryFile_eq, on_applyFile, loading]
  dsimp only
  rw [changing]
  cases outcome with
  | error fault => exact ⟨_, rfl, obliging.aside _ _ (obliging.complained fault after)⟩
  | ok nothing =>
    obtain ⟨u, recording, last⟩ := obliging.writes now file after
    dsimp only
    rw [recording]
    exact ⟨_, rfl, @Obliging.aside _ _ _ obliging u _ _ last⟩

/-- Where the same can be loaded, an attempt comes to the same. -/
theorem Decided.eq {other : Tree Source.File} {file : String} {outcome outcome' : Except Fault Unit}
    (decided : Decided db met tree folder file outcome) (decided' : Decided db met other folder file outcome')
    (same : instantiate tree (folder.child file) = instantiate other (folder.child file)) {s : Session σ}
    (holds : met s) : outcome = outcome' := by
  obtain ⟨t, tried, -⟩ := decided db.now holds
  obtain ⟨t', tried', -⟩ := decided' db.now holds
  rw [tryFile_eq, on_applyFile] at tried tried'
  rw [same, tried'] at tried
  exact (congrArg Prod.fst tried).symm

/-- What an attempt at a file comes to depends on its contents alone. -/
theorem SteadyTree.decided (obliging : Obliging db met) (steady : SteadyTree db met tree) (folder : Path) (file : String) :
    ∃ outcome, Decided db met tree folder file outcome := by
  cases loading : instantiate tree (folder.child file) with
  | ok definition =>
    obtain ⟨place, content, bindings, member, bound, candidate⟩ := Source.instantiate_ok loading
    obtain ⟨outcome, foretold⟩ := steady member bound candidate
    exact ⟨outcome, decided_of_foretold obliging loading foretold⟩
  | error fault =>
    refine ⟨.error fault, fun now s holds => ?_⟩
    have inside : met (bound file s) := obliging.aside s.log _ holds
    rw [tryFile_eq, on_applyFile, loading]
    exact ⟨_, rfl, obliging.aside _ _ (obliging.complained fault inside)⟩

/-- What a run over files comes to: the names that it applies, or the fault that no handler sees. -/
def foreseen (outcome : String → Except Fault Unit) : List String → Except Fault (List String)
  | [] => .ok []
  | file :: rest =>
    match outcome file with
    | .ok () => (foreseen outcome rest).map (file :: ·)
    | .error fault => if fault.escapes then .error fault else .ok []

/-- The files before the first one whose attempt fails. -/
def reached (outcome : String → Except Fault Unit) (files : List String) : List String :=
  files.takeWhile fun file => (outcome file).isOk

section

variable {outcome : String → Except Fault Unit}

theorem foreseen_append {files : List String} (good : ∀ file ∈ files, outcome file = .ok ()) (rest : List String) :
    foreseen outcome (files ++ rest) = (foreseen outcome rest).map (files ++ ·) := by
  induction files with
  | nil =>
    change foreseen outcome rest = (foreseen outcome rest).map id
    cases foreseen outcome rest <;> rfl
  | cons file later ih =>
    have first := good file List.mem_cons_self
    have step : foreseen outcome (file :: (later ++ rest)) = (foreseen outcome (later ++ rest)).map (file :: ·) := by
      simp only [foreseen, first]
    rw [List.cons_append, step, ih fun other member => good other (List.mem_cons_of_mem file member)]
    cases foreseen outcome rest <;> rfl

theorem reached_append {files : List String} (good : ∀ file ∈ files, outcome file = .ok ()) (rest : List String) :
    reached outcome (files ++ rest) = files ++ reached outcome rest := by
  refine List.takeWhile_append_of_pos fun file member => ?_
  rw [good file member]
  rfl

theorem good_of_reached {files : List String} {file : String} (member : file ∈ reached outcome files) :
    outcome file = .ok () := by
  have passed : (outcome file).isOk = true := List.mem_takeWhile_imp (p := fun file => (outcome file).isOk) member
  cases comes : outcome file with
  | ok nothing => rfl
  | error fault =>
    rw [comes] at passed
    cases passed

theorem reached_stops {file : String} {fault : Fault} (bad : outcome file = .error fault) (rest : List String) :
    reached outcome (file :: rest) = [] := by
  refine List.takeWhile_cons_of_neg ?_
  rw [bad]
  exact Bool.false_ne_true

variable (decided : ∀ file, Decided db met tree folder file (outcome file)) {now : Moment}

include decided

/-- Files that are applied are files whose attempts are known to succeed. -/
theorem Applies.foretold {s t : Session σ} {files : List String} (holds : met s)
    (applies : Applies { db with now } tree folder s files t) : (∀ file ∈ files, outcome file = .ok ()) ∧ met t := by
  induction applies with
  | nil s => exact ⟨nofun, holds⟩
  | @cons s t u file rest first later ih =>
    obtain ⟨v, tried, after⟩ := decided file now holds
    rw [first.eq_tryFile] at tried
    obtain ⟨good, rfl⟩ := Prod.mk.inj tried
    obtain ⟨others, last⟩ := ih after
    refine ⟨fun other member => ?_, last⟩
    rcases List.mem_cons.mp member with rfl | member
    · exact good.symm
    · exact others other member

/-- A run over announced files applies those before the first one whose attempt is known to fail, and comes to
what is foreseen. -/
theorem RunEnds.foretold {recorded : String → Bool} {files names applied : List String} {s : Session σ}
    {ended : Except Fault RunResult × Session σ} (holds : met s)
    (ends : RunEnds { db with now } tree folder recorded files s names applied ended) :
    applied = reached outcome names ∧ ended.1.map RunResult.applied = foreseen outcome names ∧ met ended.2 := by
  have fails {file : String} {fault : Fault} {t u : Session σ} (holds : met t)
      (attempt : Attempt { db with now } tree folder file t (.error fault) u) : outcome file = .error fault ∧ met u := by
    obtain ⟨v, tried, after⟩ := decided file now holds
    rw [attempt.eq_tryFile] at tried
    obtain ⟨bad, rfl⟩ := Prod.mk.inj tried
    exact ⟨bad.symm, after⟩
  cases ends with
  | finished applies =>
    obtain ⟨good, last⟩ := applies.foretold decided holds
    have whole := foreseen_append good []
    have reaches := reached_append good []
    rw [List.append_nil] at whole reaches
    refine ⟨reaches.symm ▸ (List.append_nil _).symm, ?_, last⟩
    rw [whole]
    exact congrArg Except.ok (List.append_nil _).symm
  | @stopped applied others file fault t u applies attempt seen =>
    obtain ⟨good, between⟩ := applies.foretold decided holds
    obtain ⟨bad, last⟩ := fails between attempt
    refine ⟨?_, ?_, last⟩
    · rw [reached_append good, reached_stops bad, List.append_nil]
    · rw [foreseen_append good]
      simp only [foreseen, bad, seen, Bool.false_eq_true, ↓reduceIte]
      exact congrArg Except.ok (List.append_nil applied).symm
  | @escaped applied others file fault t u applies attempt unseen =>
    obtain ⟨good, between⟩ := applies.foretold decided holds
    obtain ⟨bad, last⟩ := fails between attempt
    refine ⟨?_, ?_, last⟩
    · rw [reached_append good, reached_stops bad, List.append_nil]
    · rw [foreseen_append good]
      simp only [foreseen, bad, unseen, ↓reduceIte]
      rfl

/-- A run at any time comes to what is foreseen for the announced files, and adds a row for each of them that is
reached. -/
theorem applyPending_foretold (keeps : KeepsLedger db table) (obliging : Obliging db met)
    (quiet : QuietTree db table tree) {s : Session σ} {files : List String} (settled : table.Settled s.engine)
    (holds : met s) (plain : ∀ entry ∈ table.rows s.engine, memberComplaint? entry.migration = none)
    (discovered : discover tree folder = .ok files) (now : Moment) :
    let names := files.filter fun file => !isRecorded (table.rows s.engine) file
    let ended := on (applyPending { db with now } tree folder) s
    RunEnds { db with now } tree folder (isRecorded (table.rows s.engine)) files (on (records { db with now }) s).2 names
        (reached outcome names) ended ∧
      ended.1.map RunResult.applied = foreseen outcome names ∧ met ended.2 ∧ table.Settled ended.2.engine ∧
      ∃ added, table.rows ended.2.engine = table.rows s.engine ++ added ∧
        added.map Entry.migration = (reached outcome names).map .text := by
  intro names ended
  obtain ⟨found, t, readable, after⟩ := obliging.reads now holds
  obtain ⟨applied, ends, settled', appends⟩ := applyPending_over (keeps.at now)
    (fun file => quiet.harmless now folder file) settled readable plain discovered
  obtain ⟨rfl, comes, last⟩ := ends.foretold decided after
  rw [readable]
  exact ⟨ends, comes, last, settled', appends.added⟩

end

end DataLayer.Migration
