import DataLayer.Proofs.Database.Resemblance
import DataLayer.Proofs.Script.Couple

/-! What an engine says about a statement stays with those who look for it. Unless errors are exposed, its words
are kept in a field of the report of their own, beside the cause of the report, and in one field of the log. Main
statement: two engines that differ in their words only cannot be told apart by anything else, whatever is done with
them and however many failures come up on the way. -/

namespace DataLayer

open DataLayer.Action

variable {σ τ : Type} {related : σ → τ → Prop}

/-- A complaint of a driver without its words. -/
def EngineFault.unworded (complaint : EngineFault) : EngineFault :=
  if complaint.kind.isDriverError then { complaint with message := "" } else complaint

/-- A report without what the engine said: neither its words nor the cause. -/
def Report.veiled (r : Report) : Report :=
  if r.kind.carriesEngineMessage then { r with engineMessage := .null, cause := none } else r

/-- A fault without what the engine said about a statement. -/
def Fault.veiled : Fault → Fault
  | .report r => .report r.veiled
  | fault => fault

/-- A notice without what the engine said about a statement. -/
def Notice.veiled : Notice → Notice
  | .failed sql kind _ => .failed sql kind ""
  | notice => notice

/-- A line of the log without what the engine said about a statement. -/
def Logged.veiled (line : Logged) : Logged := { line with notice := line.notice.veiled }

/-- Requests to two engines are answered alike but for the words of complaints, and leave them related. -/
def AgreeButWords {α : Type} (related : σ → τ → Prop) (request : σ → Except EngineFault α × σ)
    (other : τ → Except EngineFault α × τ) : Prop :=
  ∀ ⦃s t⦄, related s t →
    (request s).1.mapError EngineFault.unworded = (other t).1.mapError EngineFault.unworded ∧
    related (request s).2 (other t).2

/-- Two engines that behave alike except for what they say when they complain about a statement, about fetching
its rows or about a commit. -/
structure Driver.Rewords (related : σ → τ → Prop) (driver : Driver σ) (other : Driver τ) : Prop where
  connect : ∀ ⦃s t⦄, related s t → (driver.connect s).1 = (other.connect t).1 ∧
    related (driver.connect s).2 (other.connect t).2
  setup : ∀ sql ⦃s t⦄, related s t → (driver.setup sql s).1 = (other.setup sql t).1 ∧
    related (driver.setup sql s).2 (other.setup sql t).2
  openCursor : ∀ prepared ⦃s t⦄, related s t → (driver.openCursor prepared s).1 = (other.openCursor prepared t).1 ∧
    related (driver.openCursor prepared s).2 (other.openCursor prepared t).2
  execute : ∀ sql params, AgreeButWords related (driver.execute sql params) (other.execute sql params)
  fetchAll : AgreeButWords related driver.fetchAll other.fetchAll
  commit : AgreeButWords related driver.commit other.commit
  rollback : ∀ ⦃s t⦄, related s t → related (driver.rollback s) (other.rollback t)

theorem EngineFault.unworded_kind (complaint : EngineFault) : complaint.unworded.kind = complaint.kind := by
  unfold unworded
  split <;> rfl

theorem EngineFault.kind_eq_of_unworded {complaint complaint' : EngineFault}
    (same : complaint.unworded = complaint'.unworded) : complaint.kind = complaint'.kind := by
  rw [← complaint.unworded_kind, same, complaint'.unworded_kind]

theorem Driver.Rewords.concurs {driver : Driver σ} {other : Driver τ} (rewords : driver.Rewords related other) :
    driver.Concurs related id EngineFault.unworded Eq other where
  connect _ _ start := ⟨congrArg (Except.mapError id) (rewords.connect start).1, (rewords.connect start).2⟩
  setup sql _ _ start := ⟨congrArg (Except.mapError id) (rewords.setup sql start).1, (rewords.setup sql start).2⟩
  openCursor prepared _ _ start :=
    ⟨congrArg (Except.mapError id) (rewords.openCursor prepared start).1, (rewords.openCursor prepared start).2⟩
  execute sql := by
    rintro params _ rfl
    exact rewords.execute sql params
  fetchAll := rewords.fetchAll
  commit := rewords.commit
  rollback := rewords.rollback

namespace Report

theorem veiled_message (r : Report) : r.veiled.message = r.message := by
  unfold veiled
  split <;> rfl

end Report

namespace Fault

theorem veiled_text (fault : Fault) : fault.veiled.text = fault.text := by
  cases fault with
  | report r => exact congrArg Value.display r.veiled_message
  | _ => rfl

theorem veiled_escapes (fault : Fault) : fault.veiled.escapes = fault.escapes := by
  cases fault <;> rfl

end Fault

namespace Session

/-- Two sessions that cannot be told apart but for what the engine said about statements. -/
structure Veiled (related : σ → τ → Prop) (s : Session σ) (t : Session τ) : Prop where
  engine : related s.engine t.engine
  held : s.held = t.held
  connected : s.connected = t.connected
  events : s.events = t.events
  log : s.log.map Logged.veiled = t.log.map Logged.veiled
  context : s.context = t.context

variable {s : Session σ} {t : Session τ}

theorem veiled_iff_resembles : Veiled related s t ↔ Resembles related id Notice.veiled s t := by
  constructor
  · intro alike
    exact ⟨alike.engine, alike.held, alike.connected, congrArg _ alike.events, alike.log, alike.context⟩
  · intro same
    have events := same.events
    rw [List.map_id, List.map_id] at events
    exact ⟨same.engine, same.held, same.connected, events, same.log, same.context⟩

end Session

namespace Database

open Session (Resembles Veiled veiled_iff_resembles)

variable {db : Database σ} {other : Driver τ}

theorem runsAlike_veiled (rewords : db.driver.Rewords related other) :
    RunsAlike db (db.on other) (Resembles related id Notice.veiled) id EngineFault.unworded Eq := by
  have opens : OpensAlike db (db.on other) (Resembles related id Notice.veiled) id :=
    opensAlike_resembles rewords.concurs rfl rfl fun _ _ same => congrArg EngineFault.kind same
  exact runsAlike_resembles_eq rewords.concurs opens (fun _ _ same => EngineFault.kind_eq_of_unworded same)
    fun _ _ _ _ _ => rfl

/-- Where errors are not exposed, the report on a statement shows nothing of what the engine said. -/
theorem statementReport_veiled (hidden : db.exposeErrors.isTruthy = false) (sql : Value)
    {complaint complaint' : EngineFault} (kinds : complaint.kind = complaint'.kind) :
    (statementReport db sql complaint).veiled = (statementReport db sql complaint').veiled := by
  unfold statementReport Report.veiled
  simp only [hidden, Bool.false_eq_true, ↓reduceIte, kinds]
  split <;> rfl

theorem shows_veiled (hidden : db.exposeErrors.isTruthy = false) :
    Shows db (db.on other) id EngineFault.unworded Fault.veiled where
  opened _ _ same := congrArg (fun complaint => (openingFault db.kind complaint).veiled) same
  refused _ _ same := congrArg (fun complaint => (Fault.engine complaint).veiled) same
  reported sql _ _ same _ :=
    congrArg Fault.report (statementReport_veiled hidden sql (EngineFault.kind_eq_of_unworded same))
  passed complaint complaint' same quiet := by
    have silent : complaint'.kind.isDriverError = false := by rw [← EngineFault.kind_eq_of_unworded same, quiet]
    unfold EngineFault.unworded at same
    rw [quiet, silent] at same
    exact congrArg (fun complaint => (Fault.engine complaint).veiled) same

theorem servesAlike_veiled (rewords : db.driver.Rewords related other) (hidden : db.exposeErrors.isTruthy = false) :
    ServesAlike db (db.on other) (Veiled related) Fault.veiled := by
  have sessions : Veiled related = Resembles related id Notice.veiled :=
    funext fun _ => funext fun _ => propext veiled_iff_resembles
  rw [sessions]
  refine (runsAlike_veiled rewords).actsAlike (shows_veiled hidden) (fun change _ _ same => same.bound change) rfl rfl
    (fun fault fault' same => ?_) (fun fault fault' same => ?_) fun notice _ _ _ same _ _ resembles => ?_
  · rw [← fault.veiled_escapes, same, fault'.veiled_escapes]
  · have words : fault.text = fault'.text := by rw [← fault.veiled_text, same, fault'.veiled_text]
    exact words
  · exact resembles.noted (congrArg (fun text => (notice text).veiled) same)

end Database

namespace Script

open DataLayer.Source
open DataLayer.Session (Veiled)

/-- Anything that can be done with a database. -/
inductive Job where
  | database (step : DatabaseStep)
  | finish (q : Query) (terminal : Query.Terminal)
  | schema (step : SchemaStep)
  | ensureLedger
  | pending (tree : Tree File) (folder : Path)
  | applyPending (tree : Tree File) (folder : Path)
  | rollbackLast (tree : Tree File) (folder : Path)
  | seed (tree : Tree File) (folder : Path) (shown : String) (target : Option String)

namespace Job

/-- What a job comes to. -/
inductive Outcome where
  | reply (reply : Reply)
  | ending (ending : Query.Ending)
  | nothing
  | files (files : List String)
  | applied (result : Migration.RunResult)
  | rolledBack (migration : Option Value)
  | seeded (result : Seed.RunResult)

/-- Does a job. -/
def perform (db : Database σ) : Job → Action σ Outcome
  | .database step => do return .reply (← step.perform db)
  | .finish q terminal => do return .ending (← q.finish db terminal)
  | .schema step => do return .reply (← step.perform db)
  | .ensureLedger => do
    Migration.ensureLedger db
    return .nothing
  | .pending tree folder => do return .files (← Migration.pending db tree folder)
  | .applyPending tree folder => do return .applied (← Migration.applyPending db tree folder)
  | .rollbackLast tree folder => do return .rolledBack (← Migration.rollbackLast db tree folder)
  | .seed tree folder shown target => do return .seeded (← Seed.run db tree folder shown target)

/-- Does jobs one after the other, each at a time of its own and whether those before it failed or not. -/
def performAll (db : Database σ) : List (Moment × Job) → StateM (Session σ) (List (Except Fault Outcome))
  | [] => return []
  | (now, job) :: rest => do
    let outcome ← (job.perform { db with now }).run
    return outcome :: (← performAll db rest)

/-- What a job comes to, with what is heard of the failures in it. -/
def Outcome.heardAs (heard : String → String) : Outcome → Outcome
  | .applied result => .applied (result.heardAs heard)
  | .seeded result => .seeded (result.heardAs heard)
  | outcome => outcome

theorem Outcome.heardAs_id (outcome : Outcome) : outcome.heardAs id = outcome := by
  have whole (errors : List (String × String)) : (errors.map fun entry => (entry.1, id entry.2)) = errors :=
    List.map_id errors
  cases outcome with
  | applied result => exact congrArg (fun errors => applied { result with errors }) (whole result.errors)
  | seeded result => exact congrArg (fun errors => seeded { result with errors }) (whole result.errors)
  | _ => rfl

section

variable {κ : Type} {sessions : Session σ → Session τ → Prop} {db : Database σ} {other : Database τ}

theorem perform_accords {view : Fault → κ} {heard : String → String} (acts : db.ActsAlike other sessions view heard)
    (job : Job) : Accords sessions view (Outcome.heardAs heard) (job.perform db) (job.perform other) := by
  have answers := acts.toAnswersAlike
  cases job with
  | database step => exact (step.perform_couples acts).then fun _ => accords_pure rfl
  | finish q terminal => exact (q.finish_couples answers terminal).then fun _ => accords_pure rfl
  | schema step => exact (step.perform_couples acts).then fun _ => accords_pure rfl
  | ensureLedger => exact (Migration.ensureLedger_couples acts).then fun _ => accords_pure rfl
  | pending tree folder => exact (Migration.pending_couples acts tree folder).then fun _ => accords_pure rfl
  | applyPending tree folder =>
    exact accords_bind (Migration.applyPending_accords acts tree folder) fun _ _ same =>
      accords_pure (congrArg Outcome.applied same)
  | rollbackLast tree folder => exact (Migration.rollbackLast_couples acts tree folder).then fun _ => accords_pure rfl
  | seed tree folder shown target =>
    exact accords_bind (Seed.run_accords acts tree folder shown target) fun _ _ same =>
      accords_pure (congrArg Outcome.seeded same)

theorem perform_couples {view : Fault → κ} (serves : db.ServesAlike other sessions view) (job : Job) :
    Couples sessions view (job.perform db) (job.perform other) := by
  have whole : Outcome.heardAs id = id := funext Outcome.heardAs_id
  have accords := perform_accords serves job
  rw [whole] at accords
  exact accords.couples

end

/-- Unless errors are exposed, two engines that only put their complaints about statements in other words show the
same in every run: the same requests with the same values, the same results, and faults of the same kind with the
same message, category and context. What the engine said is in no place but the one that is kept for it, and in the
cause. -/
theorem performAll_veiled {db : Database σ} {other : Driver τ} (hidden : db.exposeErrors.isTruthy = false)
    (rewords : db.driver.Rewords related other) (jobs : List (Moment × Job)) {s : Session σ} {t : Session τ}
    (alike : Veiled related s t) :
    let first := performAll db jobs s
    let second := performAll (db.on other) jobs t
    first.1.map (Except.mapError Fault.veiled) = second.1.map (Except.mapError Fault.veiled) ∧
      Veiled related first.2 second.2 := by
  induction jobs generalizing s t with
  | nil => exact ⟨rfl, alike⟩
  | cons timed rest ih =>
    obtain ⟨now, job⟩ := timed
    have serves : ({ db with now } : Database σ).ServesAlike ({ db with now }.on other) (Veiled related) Fault.veiled :=
      Database.servesAlike_veiled rewords hidden
    obtain ⟨outcome, after⟩ := perform_couples serves job alike
    obtain ⟨outcomes, done⟩ := ih after
    exact ⟨List.cons_eq_cons.mpr ⟨outcome, outcomes⟩, done⟩

/-- An engine that finds no rows, and refuses every change in words of its own. -/
def grumbling (words : String) : Driver Unit where
  connect engine := (.ok (), engine)
  setup _ engine := (.ok (), engine)
  openCursor _ engine := (.ok (), engine)
  execute sql _ engine :=
    (if "SELECT".isPrefixOf sql.display then .ok { columns := ["id", "migration", "created_at"] }
      else .error ⟨.integrity, words⟩, engine)
  fetchAll engine := (.ok [], engine)
  commit engine := (.ok (), engine)
  rollback engine := engine

theorem grumbling_rewords (words others : String) :
    (grumbling words).Rewords (fun _ _ => True) (grumbling others) where
  connect _ _ _ := ⟨rfl, trivial⟩
  setup _ _ _ _ := ⟨rfl, trivial⟩
  openCursor _ _ _ _ := ⟨rfl, trivial⟩
  execute sql params _ _ _ := by
    refine ⟨?_, trivial⟩
    unfold grumbling
    dsimp only
    split <;> rfl
  fetchAll _ _ _ := ⟨rfl, trivial⟩
  commit _ _ _ := ⟨rfl, trivial⟩
  rollback _ _ _ := trivial

/-- A row that is there already, a migration that cannot make its table, and a query in between. -/
theorem performAll_veiled_grumbling :
    let now : Moment := ⟨⟨2025, 1, 1⟩, ⟨0, 0, 0, 0, none⟩⟩
    let db : Database Unit :=
      { kind := .sqlite, config := {}, now, driver := grumbling "UNIQUE constraint failed: users.email" }
    let other : Driver Unit := grumbling "users.email holds somebody@example.org twice"
    let tree : Tree File :=
      { nodes := [(["m"], .folder), (["m", "2025_01_01_000000_CreateThings.py"], .file (.template "CreateThings"))] }
    let users : Query := { table := .text "users" }
    let jobs : List (Moment × Job) :=
      [(now, .finish users (.insert (.map [(.text "email", .text "somebody@example.org")]))), (now, .finish users .get),
        (now, .applyPending tree { parts := ["m"] })]
    let s : Session Unit := { engine := () }
    let first := performAll db jobs s
    let second := performAll (db.on other) jobs s
    db.exposeErrors.isTruthy = false ∧ db.driver.Rewords (fun _ _ => True) other ∧
      Veiled (fun _ _ => True) s s ∧
      first.1.map (Except.mapError Fault.veiled) = second.1.map (Except.mapError Fault.veiled) ∧
      Veiled (fun _ _ => True) first.2 second.2 := by
  intro now db other tree users jobs s
  have hidden : db.exposeErrors.isTruthy = false := rfl
  have rewords : db.driver.Rewords (fun _ _ => True) other := grumbling_rewords _ _
  have alike : Veiled (fun _ _ : Unit => True) s s := ⟨trivial, rfl, rfl, rfl, rfl, rfl⟩
  -- What the two runs come to is not needed for the comparison.
  clear_value db other jobs s
  exact ⟨hidden, rewords, alike, performAll_veiled hidden rewords jobs alike⟩

end Job
end Script
end DataLayer
