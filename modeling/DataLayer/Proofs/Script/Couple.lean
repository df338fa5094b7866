import DataLayer.Migration.Runner
import DataLayer.Proofs.Database.Couple
import DataLayer.Proofs.Query.Terminal
import DataLayer.Seed.Runner

/-! Whole programs on two engines. All that queries, changes of tables, scripts, migrations and seeders do to a
session is opening and closing its connection, running statements, and logging; and all that they do with a fault
is to read its words and to see whether it is theirs to handle. Main statement: where these are coupled, every such
work is. -/

namespace DataLayer

open DataLayer.Action

variable {σ τ α γ κ : Type} {sessions : Session σ → Session τ → Prop} {db : Database σ} {other : Database τ}
  {view : Fault → κ} {heard : String → String}

/-- Holds of the notices in which somebody else's words stand. -/
inductive Notice.Quotes : (String → Notice) → Prop where
  | migrationFailed : Quotes .migrationFailed
  | rollbackFailed (migration : Value) : Quotes (.rollbackFailed migration)
  | seedFailed (seeder : String) : Quotes (.seedFailed seeder)

namespace Database

/-- A relation between sessions that logging and running a statement keep. -/
structure AnswersAlike (db : Database σ) (other : Database τ) (sessions : Session σ → Session τ → Prop)
    (view : Fault → κ) : Prop where
  noted : ∀ notice ⦃s t⦄, sessions s t → sessions (s.noted notice) (t.noted notice)
  run : ∀ sql params, Couples sessions view (run db sql params) (run other sql params)

/-- A relation between sessions that everything keeps which a work can do to them, on two databases that tell the
same about themselves. The same handlers see faults that look the same, and `heard` is what counts of their words. -/
structure ActsAlike (db : Database σ) (other : Database τ) (sessions : Session σ → Session τ → Prop)
    (view : Fault → κ) (heard : String → String) : Prop extends AnswersAlike db other sessions view where
  held : ∀ ⦃s t⦄, sessions s t → s.held = t.held
  connected : ∀ ⦃s t⦄, sessions s t → s.connected = t.connected
  bound : ∀ (change : LogContext → LogContext) ⦃s t⦄, sessions s t →
    sessions { s with context := change s.context } { t with context := change t.context }
  connect : Couples sessions view (connect db) (connect other)
  disconnect : Couples sessions view (disconnect db) (disconnect other)
  kind : db.kind = other.kind
  exposeErrors : db.exposeErrors = other.exposeErrors
  target : db.target = other.target
  now : db.now = other.now
  escapes : ∀ ⦃fault fault'⦄, view fault = view fault' → fault.escapes = fault'.escapes
  text : ∀ ⦃fault fault'⦄, view fault = view fault' → heard fault.text = heard fault'.text
  quoted : ∀ ⦃notice⦄, Notice.Quotes notice → ∀ ⦃text text'⦄, heard text = heard text' → ∀ ⦃s t⦄, sessions s t →
    sessions (s.noted (notice text)) (t.noted (notice text'))

/-- On databases that open and run alike, with a view that keeps to what counts of a complaint, everything else is put
together from statements and notices. -/
theorem RunsAlike.actsAlike {told words : EngineFault → EngineFault} (runs : RunsAlike db other sessions told words Eq)
    (shows : Shows db other told words view)
    (bound : ∀ (change : LogContext → LogContext) ⦃s t⦄, sessions s t →
      sessions { s with context := change s.context } { t with context := change t.context })
    (exposeErrors : db.exposeErrors = other.exposeErrors) (now : db.now = other.now)
    (escapes : ∀ ⦃fault fault'⦄, view fault = view fault' → fault.escapes = fault'.escapes)
    (text : ∀ ⦃fault fault'⦄, view fault = view fault' → heard fault.text = heard fault'.text)
    (quoted : ∀ ⦃notice⦄, Notice.Quotes notice → ∀ ⦃text text'⦄, heard text = heard text' → ∀ ⦃s t⦄, sessions s t →
      sessions (s.noted (notice text)) (t.noted (notice text'))) : ActsAlike db other sessions view heard where
  noted := runs.noted
  run sql _ := run_couples runs shows sql rfl
  held := runs.held
  connected := runs.connected
  bound := bound
  connect := connect_couples runs.toOpensAlike shows.opened
  disconnect := disconnect_couples runs.toOpensAlike
  kind := runs.kind
  exposeErrors := exposeErrors
  target := runs.target
  now := now
  escapes := escapes
  text := text
  quoted := quoted

/-- The same where faults that look the same have the same words. -/
def ServesAlike (db : Database σ) (other : Database τ) (sessions : Session σ → Session τ → Prop)
    (view : Fault → κ) : Prop := ActsAlike db other sessions view id

namespace ActsAlike

theorem dialect (acts : ActsAlike db other sessions view heard) : db.dialect = other.dialect := acts.kind

theorem ensureHandle (acts : ActsAlike db other sessions view heard) :
    Couples sessions view (ensureHandle db) (ensureHandle other) :=
  ensureHandle_couples_of acts.held acts.connect

theorem query (acts : ActsAlike db other sessions view heard) (sql : Value) (params : List Value) :
    Couples sessions view (query db sql params) (query other sql params) :=
  couples_bind (acts.run sql params) fun _ => couples_pure _

theorem queryOne (acts : ActsAlike db other sessions view heard) (sql : Value) (params : List Value) :
    Couples sessions view (queryOne db sql params) (queryOne other sql params) :=
  couples_bind (acts.query sql params) fun _ => couples_pure _

theorem execute (acts : ActsAlike db other sessions view heard) (sql : Value) (params : List Value) :
    Couples sessions view (execute db sql params) (execute other sql params) :=
  couples_bind (acts.run sql params) fun _ => couples_bind (couples_check _) fun _ => couples_pure _

theorem note (acts : ActsAlike db other sessions view heard) (notice : Notice) :
    Couples sessions view (Action.note notice : Action σ Unit) (Action.note notice) :=
  couples_note (acts.noted notice)

/-- A block shows what the work inside shows, whatever becomes of closing its connection. -/
theorem within_accords (acts : ActsAlike db other sessions view heard) {seen : α → γ} {work : Action σ α}
    {work' : Action τ α} (accords : Accords sessions view seen work work') :
    Accords sessions view seen (within db work) (within other work') := by
  unfold Database.within
  refine acts.connect.then fun nothing => ?_
  refine Session.couples_bind accords fun result result' same => ?_
  refine Session.couples_bind acts.disconnect ?_
  rintro (fault | nothing) (fault' | nothing') closed
  · have faults : view fault = view fault' := Except.error.inj closed
    exact Session.couples_pure (congrArg Except.error faults)
  · cases closed
  · cases closed
  · exact Session.couples_pure same

theorem within_couples (acts : ActsAlike db other sessions view heard) {work : Action σ α} {work' : Action τ α}
    (couples : Couples sessions view work work') : Couples sessions view (within db work) (within other work') :=
  (acts.within_accords (couples.accords id)).couples

end ActsAlike

end Database

open Database (ActsAlike AnswersAlike)

theorem Query.finish_couples (answers : AnswersAlike db other sessions view) (q : Query) (terminal : Query.Terminal) :
    Couples sessions view (q.finish db terminal) (q.finish other terminal) := by
  have sent (prepared : Prepared) : Couples sessions view (send db q prepared) (send other q prepared) := by
    have ran := answers.run (.text prepared.sql) prepared.params
    unfold send
    cases prepared.unscoped with
    | none => exact ran
    | some operation => exact couples_bind (couples_note (answers.noted _)) fun _ => ran
  rw [finish_eq, finish_eq]
  exact couples_bind (couples_ofExcept _) fun prepared => couples_bind (sent prepared) (ended_couples terminal)

namespace Schema

theorem change_couples (acts : ActsAlike db other sessions view heard) (sql : String) :
    Couples sessions view (change db sql) (change other sql) :=
  couples_bind (acts.execute _ _) fun _ => couples_pure _

theorem applyBlueprint_couples (acts : ActsAlike db other sessions view heard) (table : Value) (isCreate : Bool)
    (describe : Describe) :
    Couples sessions view (applyBlueprint db table isCreate describe) (applyBlueprint other table isCreate describe) := by
  unfold applyBlueprint
  rw [acts.dialect]
  refine couples_bind (couples_ofExcept _) fun sql? => ?_
  cases sql? with
  | none => exact couples_bind (acts.note _) fun _ => couples_pure _
  | some sql => exact couples_bind (change_couples acts sql) fun _ => couples_pure _

theorem rename_couples (acts : ActsAlike db other sessions view heard) (source target : Value) :
    Couples sessions view (rename db source target) (rename other source target) := by
  unfold rename
  rw [acts.dialect]
  exact couples_bind (couples_check _) fun sql => change_couples acts sql

theorem drop_couples (acts : ActsAlike db other sessions view heard) (table : Value) :
    Couples sessions view (drop db table) (drop other table) :=
  couples_bind (couples_check _) fun _ => change_couples acts _

theorem dropIfExists_couples (acts : ActsAlike db other sessions view heard) (table : Value) :
    Couples sessions view (dropIfExists db table) (dropIfExists other table) :=
  couples_bind (couples_check _) fun _ => change_couples acts _

theorem hasTable_couples (acts : ActsAlike db other sessions view heard) (table : Value) :
    Couples sessions view (hasTable db table) (hasTable other table) := by
  unfold hasTable
  rw [acts.dialect]
  exact couples_bind (acts.queryOne _ _) fun _ => couples_pure _

end Schema

namespace Script

namespace QueryStep

/-- What is seen of a step on a query: its answer or what is seen of its fault, and the query. -/
def seen (view : Fault → κ) (shown : Except Fault Reply × Query) : Except κ Reply × Query :=
  (shown.1.mapError view, shown.2)

theorem perform_couples (answers : AnswersAlike db other sessions view) (q : Query) (step : QueryStep) :
    Session.Couples sessions (seen view) (perform db q step) (perform other q step) := by
  cases step with
  | terminal ending =>
    refine Session.couples_bind (Query.finish_couples answers q ending) ?_
    rintro (fault | ended) (fault' | ended') same
    · have faults : view fault = view fault' := Except.error.inj same
      exact Session.couples_pure (congrArg (fun fault => (Except.error fault, q)) faults)
    · cases same
    · cases same
    · cases same
      exact Session.couples_pure rfl
  | _ => exact Session.couples_pure rfl

theorem performCall_couples (answers : AnswersAlike db other sessions view) (q : Query) (call : Call) :
    Session.Couples sessions (seen view) (performCall db q call) (performCall other q call) := by
  unfold performCall
  cases ofCall call with
  | error misuse => exact Session.couples_pure rfl
  | ok step => exact perform_couples answers q step

theorem performChain_couples (answers : AnswersAlike db other sessions view) (q : Query) (reply : Reply)
    (calls : List Call) :
    Couples sessions view (performChain db q reply calls) (performChain other q reply calls) := by
  induction calls generalizing q reply with
  | nil => exact couples_pure _
  | cons call rest ih =>
    refine couples_through (performCall_couples answers q call) ?_
    rintro ⟨result, next⟩ ⟨result', next'⟩ same
    obtain ⟨results, rfl⟩ : result.mapError view = result'.mapError view ∧ next = next' := Prod.mk.inj same
    rcases result with fault | reply
    · rcases result' with fault' | reply'
      · exact couples_fail (Except.error.inj results)
      · cases results
    · rcases result' with fault' | reply'
      · cases results
      · obtain rfl : reply = reply' := Except.ok.inj results
        exact ih next reply

end QueryStep

namespace DatabaseStep

theorem runWith_couples (acts : ActsAlike db other sessions view heard) {call : Call}
    {use : Value → List Value → Action σ α} {use' : Value → List Value → Action τ α}
    (uses : ∀ sql params, Couples sessions view (use sql params) (use' sql params)) :
    Couples sessions view (runWith db call use) (runWith other call use') := by
  refine couples_bind (couples_check _) fun bound => ?_
  refine couples_bind acts.ensureHandle fun _ => ?_
  exact couples_bind (couples_check _) fun params => uses _ params

theorem performCall_couples (acts : ActsAlike db other sessions view heard) (call : Call) :
    Couples sessions view (performCall db call) (performCall other call) := by
  unfold performCall
  rw [acts.kind, acts.exposeErrors, acts.target, acts.dialect]
  dsimp only
  split
  · exact couples_bind (couples_check _) fun _ => couples_bind acts.connect fun _ => couples_pure _
  · exact couples_bind (couples_check _) fun _ => couples_bind acts.disconnect fun _ => couples_pure _
  · exact couples_bind (couples_check _) fun _ => couples_bind acts.ensureHandle fun _ => couples_pure _
  · exact couples_bind (couples_check _) fun _ => couples_bind (couples_ofExcept _) fun _ => couples_pure _
  · exact couples_fail rfl
  · exact couples_bind (runWith_couples acts acts.run) fun _ => couples_pure _
  · exact couples_bind (runWith_couples acts acts.query) fun _ => couples_pure _
  · exact couples_bind (runWith_couples acts acts.queryOne) fun _ => couples_pure _
  · exact couples_bind (runWith_couples acts acts.execute) fun _ => couples_pure _
  · refine couples_get fun s t related => ?_
    rw [acts.connected related]
    exact couples_pure _
  · exact couples_pure _
  · exact couples_pure _
  · exact couples_pure _
  · exact couples_pure _
  · refine couples_bind acts.ensureHandle fun _ => couples_get fun s t related => ?_
    rw [acts.held related]
    exact couples_pure _
  · exact couples_fail rfl

mutual

/-- A step on a database is coupled with itself. -/
theorem perform_couples (acts : ActsAlike db other sessions view heard) (step : DatabaseStep) :
    Couples sessions view (perform db step) (perform other step) := by
  match step with
  | .call request => exact performCall_couples acts request
  | .chain table calls =>
    exact couples_bind (couples_ofExcept _) fun q => QueryStep.performChain_couples acts.toAnswersAlike q _ calls
  | .within steps =>
    exact acts.within_couples (couples_bind (performAll_couples acts steps) fun _ => couples_pure _)
  | .raise name message => exact couples_fail rfl

theorem performAll_couples (acts : ActsAlike db other sessions view heard) (steps : List DatabaseStep) :
    Couples sessions view (performAll db steps) (performAll other steps) := by
  match steps with
  | [] => exact couples_pure _
  | step :: rest =>
    refine couples_bind (perform_couples acts step) fun reply => ?_
    exact couples_bind (performAll_couples acts rest) fun replies => couples_pure _

end

end DatabaseStep

namespace SchemaStep

theorem performCall_couples (acts : ActsAlike db other sessions view heard) (call : Call) :
    Couples sessions view (performCall db call) (performCall other call) := by
  unfold performCall
  dsimp only
  split
  · exact couples_bind (couples_check _) fun _ =>
      couples_bind (Schema.rename_couples acts _ _) fun _ => couples_pure _
  · exact couples_bind (couples_check _) fun _ => couples_bind (Schema.drop_couples acts _) fun _ => couples_pure _
  · exact couples_bind (couples_check _) fun _ =>
      couples_bind (Schema.dropIfExists_couples acts _) fun _ => couples_pure _
  · exact couples_bind (couples_check _) fun _ => couples_bind (Schema.hasTable_couples acts _) fun _ => couples_pure _
  · exact couples_fail rfl

theorem perform_couples (acts : ActsAlike db other sessions view heard) (step : SchemaStep) :
    Couples sessions view (perform db step) (perform other step) := by
  cases step with
  | create table columns =>
    exact couples_bind (Schema.applyBlueprint_couples acts _ _ _) fun _ => couples_pure _
  | alter table columns =>
    exact couples_bind (Schema.applyBlueprint_couples acts _ _ _) fun _ => couples_pure _
  | compile table isCreate columns =>
    unfold perform
    rw [acts.dialect]
    exact couples_bind (couples_ofExcept _) fun _ => couples_pure _
  | call request => exact performCall_couples acts request
  | database step => exact DatabaseStep.perform_couples acts step
  | raise name message => exact couples_fail rfl

theorem performAll_couples (acts : ActsAlike db other sessions view heard) (steps : List SchemaStep) :
    Couples sessions view (performAll db steps) (performAll other steps) := by
  induction steps with
  | nil => exact couples_pure _
  | cons step rest ih => exact couples_bind (perform_couples acts step) fun _ => ih

end SchemaStep
end Script

namespace Migration

open DataLayer.Script DataLayer.Source

theorem ensureLedger_couples (acts : ActsAlike db other sessions view heard) :
    Couples sessions view (ensureLedger db) (ensureLedger other) :=
  couples_bind (Schema.applyBlueprint_couples acts _ _ _) fun _ => couples_pure _

theorem records_couples (acts : ActsAlike db other sessions view heard) :
    Couples sessions view (records db) (records other) := by
  refine couples_bind (Query.finish_couples acts.toAnswersAlike _ _) fun ending => ?_
  cases ending with
  | rows rows => exact couples_check _
  | _ => exact couples_pure _

theorem recordFile_couples (acts : ActsAlike db other sessions view heard) (file : String) :
    Couples sessions view (recordFile db file) (recordFile other file) := by
  unfold recordFile
  rw [acts.now]
  exact couples_bind (Query.finish_couples acts.toAnswersAlike _ _) fun _ => couples_pure _

theorem eraseRecord_couples (acts : ActsAlike db other sessions view heard) (id : Value) :
    Couples sessions view (eraseRecord db id) (eraseRecord other id) :=
  couples_bind (Query.finish_couples acts.toAnswersAlike _ _) fun _ => couples_pure _

theorem pending_couples (acts : ActsAlike db other sessions view heard) (tree : Tree File) (folder : Path) :
    Couples sessions view (pending db tree folder) (pending other tree folder) := by
  refine couples_bind (records_couples acts) fun recorded => ?_
  exact couples_bind (couples_check _) fun names => couples_bind (couples_check _) fun files => couples_pure _

theorem applyFile_couples (acts : ActsAlike db other sessions view heard) (tree : Tree File) (folder : Path)
    (file : String) : Couples sessions view (applyFile db tree folder file) (applyFile other tree folder file) := by
  refine couples_bind (couples_ofExcept _) fun migration => ?_
  refine couples_bind (SchemaStep.performAll_couples acts _) fun _ => ?_
  exact couples_bind (recordFile_couples acts file) fun _ => acts.note _

theorem withLogField_couples (acts : ActsAlike db other sessions view heard) (name : String) (value : Value) {γ : Type}
    {seen : α → γ} {work : StateM (Session σ) α} {work' : StateM (Session τ) α}
    (couples : Session.Couples sessions seen work work') :
    Session.Couples sessions seen (withLogField name value work) (withLogField name value work') := by
  refine Session.couples_bind (Session.couples_modify (acts.bound _)) fun _ _ _ => ?_
  refine Session.couples_bind couples fun result result' same => ?_
  exact Session.couples_bind (Session.couples_modify (acts.bound _)) fun _ _ _ => Session.couples_pure same

/-- Both runs note a failure, or neither does. -/
theorem tryFile_couples (acts : ActsAlike db other sessions view heard) (tree : Tree File) (folder : Path)
    (file : String) :
    Session.Couples sessions (Except.mapError view) (tryFile db tree folder file) (tryFile other tree folder file) := by
  refine withLogField_couples acts _ _ ?_
  refine Session.couples_bind (applyFile_couples acts tree folder file) ?_
  rintro (fault | nothing) (fault' | nothing') same
  · have faults : view fault = view fault' := Except.error.inj same
    have noted : Session.Couples sessions id (Session.note (.migrationFailed fault.text) : StateM (Session σ) Unit)
        (Session.note (.migrationFailed fault'.text)) :=
      fun s t related => ⟨rfl, acts.quoted .migrationFailed (acts.text faults) related⟩
    dsimp only
    rw [acts.escapes faults]
    split
    · exact Session.couples_bind noted fun _ _ _ => Session.couples_pure same
    · exact Session.couples_pure same
  · cases same
  · cases same
  · exact Session.couples_pure same

/-- The result of a run, with what is heard of its failures. -/
def RunResult.heardAs (heard : String → String) (result : RunResult) : RunResult :=
  { result with errors := result.errors.map fun entry => (entry.1, heard entry.2) }

theorem applyFiles_accords (acts : ActsAlike db other sessions view heard) (tree : Tree File) (folder : Path)
    (recorded : List Value) (result : RunResult) (files : List String) :
    Accords sessions view (RunResult.heardAs heard) (applyFiles db tree folder recorded result files)
      (applyFiles other tree folder recorded result files) := by
  induction files generalizing result with
  | nil => exact accords_pure rfl
  | cons file rest ih =>
    rw [applyFiles, applyFiles]
    refine accords_ite (fun _ => ih _) fun _ => ?_
    have tried : Couples sessions view (ExceptT.mk (tryFile db tree folder file))
        (ExceptT.mk (tryFile other tree folder file)) := couples_mk (tryFile_couples acts tree folder file)
    refine accords_attempt tried (fun _ => ih _) fun fault fault' same => ?_
    dsimp only
    rw [acts.escapes same]
    refine accords_ite (fun _ => accords_fail same) fun _ => accords_pure ?_
    simp only [RunResult.heardAs, List.map_append, List.map_cons, List.map_nil, acts.text same]

theorem applyPending_accords (acts : ActsAlike db other sessions view heard) (tree : Tree File) (folder : Path) :
    Accords sessions view (RunResult.heardAs heard) (applyPending db tree folder) (applyPending other tree folder) := by
  refine (records_couples acts).then fun recorded => ?_
  refine (couples_check _).then fun names => ?_
  exact (couples_check _).then fun files => applyFiles_accords acts tree folder names {} files

theorem reverseFile_couples (acts : ActsAlike db other sessions view heard) (tree : Tree File) (path : Path)
    (migration : Value) :
    Couples sessions view (reverseFile db tree path migration) (reverseFile other tree path migration) := by
  have undone : Couples sessions view
      (do SchemaStep.performAll db ((← Action.ofExcept (instantiate tree path)).down.getD []) : Action σ Unit)
      (do SchemaStep.performAll other ((← Action.ofExcept (instantiate tree path)).down.getD [])) :=
    couples_bind (couples_ofExcept _) fun definition => SchemaStep.performAll_couples acts _
  refine couples_attempt undone (fun _ => couples_pure _) fun fault fault' same => ?_
  dsimp only
  rw [acts.escapes same]
  split
  · exact couples_bind (couples_note (acts.quoted (.rollbackFailed migration) (acts.text same))) fun _ =>
      couples_fail same
  · exact couples_fail same

theorem rollbackLast_couples (acts : ActsAlike db other sessions view heard) (tree : Tree File) (folder : Path) :
    Couples sessions view (rollbackLast db tree folder) (rollbackLast other tree folder) := by
  refine couples_bind (records_couples acts) fun recorded => ?_
  cases recorded.getLast? with
  | none => exact couples_pure _
  | some last =>
    refine couples_bind (couples_check _) fun path => couples_bind (couples_check _) fun present => ?_
    refine couples_ite (fun _ => ?_) fun _ => couples_refuse _
    refine couples_bind (reverseFile_couples acts tree path last.migration) fun _ => ?_
    refine couples_bind (eraseRecord_couples acts last.id) fun _ => ?_
    exact couples_bind (acts.note _) fun _ => couples_pure _

end Migration

namespace Seed

open DataLayer.Source

theorem insertMissing_couples (acts : ActsAlike db other sessions view heard) (baseline : Baseline)
    (row : List (String × Value)) :
    Couples sessions view (insertMissing db baseline row) (insertMissing other baseline row) := by
  refine couples_bind (Query.finish_couples acts.toAnswersAlike _ _) fun ending => ?_
  split
  · exact couples_pure _
  · exact couples_bind (Query.finish_couples acts.toAnswersAlike _ _) fun _ => couples_pure _

theorem runClass_couples (acts : ActsAlike db other sessions view heard) (definition : ClassValue) :
    Couples sessions view (runClass db definition) (runClass other definition) := by
  unfold runClass
  cases definition.instanceFault? with
  | some fault => exact couples_fail rfl
  | none =>
    cases definition.run.getD (.steps []) with
    | steps steps =>
      exact couples_bind (Script.DatabaseStep.performAll_couples acts steps) fun _ => couples_pure _
    | baseline baseline => exact couples_forM (insertMissing_couples acts baseline) _

/-- The result of a run, with what is heard of its failures. -/
def RunResult.heardAs (heard : String → String) (result : RunResult) : RunResult :=
  { result with errors := result.errors.map fun entry => (entry.1, heard entry.2) }

theorem map_put_heard (heard : String → String) (name text : String) (errors : List (String × String)) :
    (Entries.put name text errors).map (fun entry => (entry.1, heard entry.2)) =
      Entries.put name (heard text) (errors.map fun entry => (entry.1, heard entry.2)) := by
  induction errors with
  | nil => rfl
  | cons entry rest ih =>
    simp only [Entries.put, List.map_cons]
    split
    · rfl
    · simp only [List.map_cons, ih]

theorem runFile_accords (acts : ActsAlike db other sessions view heard) (tree : Tree File)
    ⦃result result' : RunResult⦄ (before : result.heardAs heard = result'.heardAs heard) (path : Path) :
    Accords sessions view (RunResult.heardAs heard) (runFile db tree result path) (runFile other tree result' path) := by
  obtain ⟨ran, skipped, errors⟩ := result
  obtain ⟨ran', skipped', errors'⟩ := result'
  obtain ⟨rfl, rfl, words⟩ := RunResult.mk.inj before
  have failed ⦃fault fault' : Fault⦄ (same : view fault = view fault') : Accords sessions view (RunResult.heardAs heard)
      (do
        if fault.escapes then Action.fail fault
        Action.note (.seedFailed path.stem fault.text)
        return { ran, skipped, errors := Entries.put path.stem fault.text errors } : Action σ RunResult)
      (do
        if fault'.escapes then Action.fail fault'
        Action.note (.seedFailed path.stem fault'.text)
        return { ran, skipped, errors := Entries.put path.stem fault'.text errors' }) := by
    have noted : Accords sessions view (RunResult.heardAs heard)
        (do
          Action.note (.seedFailed path.stem fault.text)
          return { ran, skipped, errors := Entries.put path.stem fault.text errors } : Action σ RunResult)
        (do
          Action.note (.seedFailed path.stem fault'.text)
          return { ran, skipped, errors := Entries.put path.stem fault'.text errors' }) := by
      refine (couples_note (acts.quoted (.seedFailed path.stem) (acts.text same))).then fun _ => accords_pure ?_
      simp only [RunResult.heardAs, map_put_heard, acts.text same, words]
    rw [acts.escapes same]
    split
    · exact (couples_fail same).then fun _ => noted
    · exact noted
  unfold runFile
  cases load tree path with
  | error fault => exact failed rfl
  | ok bindings =>
    dsimp only
    cases seederOf? bindings path.stem with
    | none =>
      refine (acts.note _).then fun _ => accords_pure ?_
      simp only [RunResult.heardAs, words]
    | some definition =>
      refine accords_attempt (runClass_couples acts definition) (fun _ => ?_) failed
      refine (acts.note _).then fun _ => accords_pure ?_
      simp only [RunResult.heardAs, words]

theorem run_accords (acts : ActsAlike db other sessions view heard) (tree : Tree File) (folder : Path) (shown : String)
    (target : Option String) :
    Accords sessions view (RunResult.heardAs heard) (run db tree folder shown target)
      (run other tree folder shown target) := by
  refine (couples_check _).then fun files => ?_
  cases target with
  | none => exact accords_foldlM (runFile_accords acts tree) _ rfl
  | some name =>
    dsimp only
    split
    · exact accords_fail rfl
    · exact accords_foldlM (runFile_accords acts tree) _ rfl

end Seed
end DataLayer
