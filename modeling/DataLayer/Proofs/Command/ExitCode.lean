import DataLayer.Proofs.Command.Course
import DataLayer.Proofs.Command.Screen
import DataLayer.Proofs.Migration.Unwinding
import DataLayer.Proofs.Script.Visibility

/-! What an exit code tells of the ledger. Main statement: where the ledger can be made and read, applying
ends with the code for success exactly when every file in the folder is recorded in the end, and taking back
exactly when there was nothing to take back or the newest row is gone, unless a migration ends the program
itself. -/

namespace DataLayer.Command

open DataLayer.Action DataLayer.Database DataLayer.Migration DataLayer.Script LedgerTable

variable {σ : Type} {db : Database σ} {table : LedgerTable σ} {tree : Tree Source.File} {folder : Path}

/-- Holds of endings that tell a shell that all went well: the code is zero, or a truth value that stands
for it. -/
def Ending.isSuccess (ending : Ending) : Bool := !ending.exitCode.isTruthy

/-- Holds of faults that do not end a command line as if all had gone well. -/
def Stays (fault : Fault) : Prop := (farewell fault).1.isSuccess = false

/-- Only a wish to end that no handler sees can end a command line well. -/
theorem stays_of_seen {fault : Fault} (seen : fault.escapes = false) : Stays fault := by
  unfold Stays farewell
  split
  next => cases seen
  next => cases seen
  next => cases seen
  next => rfl
  next => rfl
  next => rfl
  next => rfl

theorem recordFile_seen {file : String} {s t : Session σ} {fault : Fault}
    (failed : Action.on (recordFile db file) s = (.error fault, t)) : fault.escapes = false := by
  rw [on_recordFile] at failed
  rcases ran : Action.on (run db (.text Ledger.insertSql) [.text file, .text db.now.ledgerText]) s with ⟨other | done, u⟩
  · rw [ran] at failed
    cases failed
    exact run_visible db _ _ ran
  · rw [ran] at failed
    cases failed

theorem eraseRecord_seen {id : Value} {s t : Session σ} {fault : Fault}
    (failed : Action.on (eraseRecord db id) s = (.error fault, t)) : fault.escapes = false := by
  rw [on_eraseRecord] at failed
  rcases ran : Action.on (run db (.text Ledger.deleteSql) [id]) s with ⟨other | done, u⟩
  · rw [ran] at failed
    cases failed
    exact run_visible db _ _ ran
  · rw [ran] at failed
    cases failed

/-- The code in a file does not end the program as if all had gone well, whether the file is loaded, its
migration is made, or it is applied or taken back. -/
structure StayingFile (db : Database σ) (file : Source.File) : Prop where
  loads : ∀ {path fault}, file.bindings path = .error fault → Stays fault
  makes : ∀ {path bindings definition fault}, file.bindings path = .ok bindings →
    definition ∈ bindings.candidates .migration → definition.instanceFault? = some fault → Stays fault
  works : ∀ {path bindings definition steps fault} {s t : Session σ}, file.bindings path = .ok bindings →
    definition ∈ bindings.candidates .migration → steps = definition.up ∨ steps = definition.down →
    Action.on (SchemaStep.performAll db (steps.getD [])) s = (.error fault, t) → Stays fault

/-- No file of a tree ends the program as if all had gone well. -/
def StayingTree (db : Database σ) (tree : Tree Source.File) : Prop :=
  ∀ ⦃place : Place⦄ ⦃file : Source.File⦄, (place, .file file) ∈ tree.nodes → StayingFile db file

theorem StayingTree.load (staying : StayingTree db tree) {path : Path} {fault : Fault}
    (failed : Source.load tree path = .error fault) : Stays fault := by
  unfold Source.load at failed
  split at failed
  · cases failed
    exact stays_of_seen rfl
  · cases found : tree.find? path with
    | none =>
      rw [found] at failed
      cases failed
      exact stays_of_seen rfl
    | some node =>
      rw [found] at failed
      cases node with
      | folder =>
        cases failed
        exact stays_of_seen rfl
      | file file =>
        obtain ⟨place, member⟩ := Tree.mem_of_find? found
        cases bound : file.bindings path with
        | ok bindings => simp only [bound] at failed; cases failed
        | error other =>
          simp only [bound] at failed
          split at failed
          · cases failed
            exact (staying member).loads bound
          · cases failed
            exact stays_of_seen rfl

theorem StayingTree.instantiate (staying : StayingTree db tree) {path : Path} {fault : Fault}
    (failed : Migration.instantiate tree path = .error fault) : Stays fault := by
  unfold Migration.instantiate at failed
  cases chosen : Source.loadClass tree path .migration with
  | error other =>
    rw [chosen] at failed
    cases failed
    unfold Source.loadClass at chosen
    cases loaded : Source.load tree path with
    | error fault =>
      rw [loaded] at chosen
      cases chosen
      exact staying.load loaded
    | ok bindings =>
      rw [loaded] at chosen
      dsimp only [bind, Except.bind] at chosen
      split at chosen
      · cases chosen
      · cases chosen
        exact stays_of_seen rfl
  | ok own =>
    obtain ⟨bindings, loaded, single⟩ := Source.loadClass_ok chosen
    obtain ⟨file, found, bound⟩ := Source.load_ok loaded
    obtain ⟨place, member⟩ := Tree.mem_of_find? found
    rw [chosen] at failed
    dsimp only [bind, Except.bind] at failed
    split at failed
    next fault refused =>
      cases failed
      exact (staying member).makes bound (single ▸ List.mem_cons_self) refused
    next => cases failed

/-- What a loaded migration does does not end the program as if all had gone well. -/
theorem StayingTree.works (staying : StayingTree db tree) {path : Path} {definition : Source.ClassValue}
    (loading : Migration.instantiate tree path = .ok definition) {steps : Option (List SchemaStep)}
    (own : steps = definition.up ∨ steps = definition.down) {s t : Session σ} {fault : Fault}
    (failed : Action.on (SchemaStep.performAll db (steps.getD [])) s = (.error fault, t)) : Stays fault := by
  obtain ⟨place, file, bindings, member, bound, candidate⟩ := Source.instantiate_ok loading
  exact (staying member).works bound candidate own failed

theorem StayingTree.attempt (staying : StayingTree db tree) {file : String} {s t : Session σ} {fault : Fault}
    (attempt : Attempt db tree folder file s (.error fault) t) : Stays fault := by
  cases attempt with
  | unloaded loading => exact staying.instantiate loading
  | undone loading changing => exact staying.works loading (.inl rfl) changing
  | unrecorded loading changing recording => exact stays_of_seen (recordFile_seen recording)

theorem StayingTree.reverseFile (staying : StayingTree db tree) {path : Path} {migration : Value} {s t : Session σ}
    {fault : Fault} (failed : Action.on (reverseFile db tree path migration) s = (.error fault, t)) : Stays fault := by
  let work : Action σ Unit := do
    let definition ← Action.ofExcept (Migration.instantiate tree path)
    SchemaStep.performAll db (definition.down.getD [])
  have undoing {other : Fault} {u : Session σ} (worked : Action.on work s = (.error other, u)) : Stays other := by
    rw [on_bind, on_ofExcept] at worked
    cases loading : Migration.instantiate tree path with
    | error refused =>
      rw [loading] at worked
      cases worked
      exact staying.instantiate loading
    | ok definition =>
      rw [loading] at worked
      exact staying.works loading (.inr rfl) worked
  unfold Migration.reverseFile at failed
  dsimp only at failed
  rw [on_bind, on_ofState] at failed
  rcases worked : ExceptT.run work s with ⟨other | nothing, u⟩
  · have stays := undoing worked
    rw [worked] at failed
    dsimp only at failed
    split at failed
    · rw [on_bind, on_note] at failed
      cases failed
      exact stays
    · cases failed
      exact stays
  · rw [worked] at failed
    cases failed

theorem StayingTree.takeBack (staying : StayingTree db tree) {last : Record} {s t : Session σ} {fault : Fault}
    (failed : Action.on (takeBack db tree folder last) s = (.error fault, t)) : Stays fault := by
  have goes := takeBack_goes db tree folder last s
  rw [failed] at goes
  cases goes with
  | unplaced misuse => exact stays_of_seen rfl
  | missing => exact stays_of_seen rfl
  | unreversed undoing => exact staying.reverseFile undoing
  | unerased undoing erasing => exact stays_of_seen (eraseRecord_seen erasing)

/-! What is told of work that went well. -/

section

variable {verdict : Verdict} (session : Session σ) (log : LogSettings)

theorem leaves_failure (code : verdict.exitCode = 1) :
    (Desk.leaves (.ok verdict) tree session log).ending.isSuccess = false := by
  unfold Desk.leaves
  dsimp only
  split
  · rw [code]
    rfl
  · rfl

theorem leaves_success (code : verdict.exitCode = 0) {texts : List String} (lines : verdict.shown = texts.map .line)
    (shows : ∀ text ∈ texts, ∃ lines, Screen.linesOf text = .ok lines) :
    (Desk.leaves (.ok verdict) tree session log).ending.isSuccess = true := by
  unfold Desk.leaves
  dsimp only
  rw [lines, Screen.addAll_lines shows, code]
  rfl

theorem ofMigrations_success {result : Migration.RunResult} (flawless : result.errors = [])
    (named : ∀ name ∈ result.applied, isFileName name = true) :
    (Desk.leaves (.ok (.ofMigrations result)) tree session log).ending.isSuccess = true := by
  unfold Verdict.ofMigrations Migration.RunResult.success
  rw [flawless, List.isEmpty_nil, if_pos rfl]
  split
  · have nothing := Screen.linesOf_mild (by decide) (show "Nothing to migrate." ≠ "" by decide)
    exact leaves_success session log rfl rfl (List.forall_mem_singleton.mpr nothing)
  · let told (name : String) : String := "Migrating: " ++ name ++ "... [green]DONE[/green]"
    have lines : (result.applied.map fun name => Shown.line (told name)) ++ [.line "All done."] =
        (result.applied.map told ++ ["All done."]).map .line := by
      rw [List.map_append, List.map_map]
      rfl
    refine leaves_success session log rfl lines (List.forall_mem_append.mpr ⟨?_, ?_⟩)
    · intro text member
      obtain ⟨name, applied, rfl⟩ := List.mem_map.mp member
      exact Screen.linesOf_migrating (named name applied)
    · exact List.forall_mem_singleton.mpr (Screen.linesOf_mild (by decide) (by decide))

theorem ofRollback_success {name : String} (named : isFileName name = true) :
    (Desk.leaves (.ok (.ofRollback (some (.text name)))) tree session log).ending.isSuccess = true := by
  have word : "Rolled back: " = "Rolled back" ++ ": " := by decide
  have told : ∃ lines, Screen.linesOf ("Rolled back: " ++ name ++ "... [green]DONE[/green]") = .ok lines := by
    rw [word]
    exact Screen.linesOf_done (List.all_eq_true.mp (by decide)) (Screen.isMild_of_isFileName named)
  exact leaves_success session log rfl rfl (List.forall_mem_singleton.mpr told)

theorem ofRollback_nothing : (Desk.leaves (.ok (.ofRollback none)) tree session log).ending.isSuccess = true :=
  leaves_success session log rfl rfl
    (List.forall_mem_singleton.mpr (Screen.linesOf_mild (by decide) (show "Nothing to rollback." ≠ "" by decide)))

/-- Work that no handler has to answer for ends as a failure, where it fails. -/
theorem leaves_judged {α : Type} {fault : Fault} (stays : Stays fault) (verdict : α → Verdict) :
    (Desk.leaves (judged verdict (.error fault)) tree session log).ending.isSuccess = false := by
  cases fault with
  | report report => exact leaves_failure session log rfl
  | _ => exact stays

end

/-! Applying. -/

/-- A run with an error ends as a failure. -/
theorem ofMigrations_failure {result : Migration.RunResult} (failed : result.errors ≠ []) (session : Session σ)
    (log : LogSettings) : (Desk.leaves (.ok (.ofMigrations result)) tree session log).ending.isSuccess = false := by
  refine leaves_failure session log ?_
  unfold Verdict.ofMigrations Migration.RunResult.success
  rw [List.isEmpty_eq_false_iff.mpr failed]
  rfl

/-- The file at which a run stopped is not among those that are recorded then. -/
theorem isRecorded_stopped {rows added : List Entry} {files applied others : List String} {file : String}
    (once : files.Nodup) (announced : (files.filter fun file => !isRecorded rows file) = applied ++ file :: others)
    (grown : added.map Entry.migration = applied.map .text) : file ∈ files ∧ isRecorded (rows ++ added) file = false := by
  have member : file ∈ files.filter fun file => !isRecorded rows file := by
    rw [announced]
    exact List.mem_append_right applied List.mem_cons_self
  obtain ⟨there, fresh⟩ := List.mem_filter.mp member
  have apart := once.filter fun file => !isRecorded rows file
  rw [announced] at apart
  have absent : file ∉ applied := fun earlier => (List.nodup_append.mp apart).2.2 file earlier file List.mem_cons_self rfl
  refine ⟨there, ?_⟩
  rw [isRecorded_append, isRecorded_named grown]
  simpa [absent] using fresh

/-- Where a run has applied all that it announced, every file is recorded. -/
theorem isRecorded_finished {rows added : List Entry} {files : List String}
    (grown : added.map Entry.migration = (files.filter fun file => !isRecorded rows file).map .text) :
    ∀ file ∈ files, isRecorded (rows ++ added) file = true := by
  intro file member
  rw [isRecorded_append, isRecorded_named grown]
  cases known : isRecorded rows file with
  | true => rfl
  | false => simp [member, known]

/-- A run over the files ends well exactly when every one of them is recorded in the end. -/
theorem applyPending_success (keeps : KeepsLedger db table) (harmless : ∀ file, Harmless db table tree folder file)
    (staying : StayingTree db tree) (distinct : tree.Distinct) {s t : Session σ} {found : List Record}
    (settled : table.Settled s.engine) (readable : Action.on (records db) s = (.ok found, t))
    (plain : ∀ entry ∈ table.rows s.engine, memberComplaint? entry.migration = none) (session : Session σ)
    (log : LogSettings) :
    let ended := Action.on (applyPending db tree folder) s
    (Desk.leaves (judged .ofMigrations ended.1) tree session log).ending.isSuccess = true ↔
      ∃ files, discover tree folder = .ok files ∧ ∀ file ∈ files, isRecorded (table.rows ended.2.engine) file = true := by
  intro ended
  cases discovered : discover tree folder with
  | error misuse =>
    obtain ⟨known, reading⟩ := knownNames_ok keeps settled readable plain
    have stopped : ended = (.error (.misuse misuse), t) := by
      have unfolded := on_applyPending db tree folder s
      rwa [reading, discovered] at unfolded
    rw [stopped, leaves_judged session log (stays_of_seen rfl)]
    simp
  | ok files =>
    obtain ⟨applied, ends, -, appends⟩ := applyPending_over keeps harmless settled readable plain discovered
    obtain ⟨added, rows, grown⟩ := appends.added
    have once := discover_nodup distinct discovered
    simp only [Except.ok.injEq, exists_eq_left']
    change RunEnds db tree folder _ files t _ applied ended at ends
    change table.rows ended.2.engine = _ at rows
    rw [rows]
    generalize announced : (files.filter fun file => !isRecorded (table.rows s.engine) file) = names at ends
    clear_value ended
    have unfinished {others : List String} {file : String} (split : names = applied ++ file :: others)
        (failure : (Desk.leaves (judged .ofMigrations ended.1) tree session log).ending.isSuccess = false) :
        (Desk.leaves (judged .ofMigrations ended.1) tree session log).ending.isSuccess = true ↔
          ∀ file ∈ files, isRecorded (table.rows s.engine ++ added) file = true := by
      obtain ⟨there, missing⟩ := isRecorded_stopped once (announced.trans split) grown
      refine ⟨fun success => ?_, fun every => ?_⟩
      · rw [failure] at success
        cases success
      · rw [every file there] at missing
        cases missing
    cases ends with
    | finished applies =>
      subst announced
      refine ⟨fun _ => isRecorded_finished grown, fun _ => ofMigrations_success session log rfl fun name member => ?_⟩
      exact isFileName_of_discovered discovered (List.mem_filter.mp member).1
    | stopped applies attempt seen => exact unfinished rfl (ofMigrations_failure (List.cons_ne_nil _ _) session log)
    | escaped applies attempt unseen => exact unfinished rfl (leaves_judged session log (staying.attempt attempt) _)

/-! Taking back. -/

/-- Taking back ends with nothing only where nothing is recorded. -/
theorem rollbackLast_nothing (keeps : KeepsLedger db table) {s t : Session σ} (settled : table.Settled s.engine)
    (ended : Action.on (rollbackLast db tree folder) s = (.ok none, t)) : table.rows s.engine = [] := by
  rw [on_rollbackLast] at ended
  rcases reading : Action.on (records db) s with ⟨fault | found, u⟩
  · rw [reading] at ended
    cases ended
  · rw [reading] at ended
    obtain ⟨ordered, inOrder, rfl⟩ := (records_ledger keeps settled).2 reading
    dsimp only at ended
    rw [List.getLast?_map] at ended
    cases newest : ordered.getLast? with
    | none =>
      rw [List.getLast?_eq_none_iff.mp newest] at inOrder
      exact inOrder.perm.symm.eq_nil
    | some last =>
      rw [newest] at ended
      dsimp only [Option.map_some] at ended
      have goes := takeBack_goes db tree folder last.record u
      rw [ended] at goes
      cases goes

/-- Taking back fails only where something is recorded, and not as if all had gone well. -/
theorem rollbackLast_stays (keeps : KeepsLedger db table) (staying : StayingTree db tree) {s t u : Session σ}
    {found : List Record} {fault : Fault} (settled : table.Settled s.engine)
    (readable : Action.on (records db) s = (.ok found, t))
    (failed : Action.on (rollbackLast db tree folder) s = (.error fault, u)) :
    Stays fault ∧ table.rows s.engine ≠ [] := by
  rw [on_rollbackLast, readable] at failed
  obtain ⟨ordered, inOrder, rfl⟩ := (records_ledger keeps settled).2 readable
  dsimp only at failed
  rw [List.getLast?_map] at failed
  cases newest : ordered.getLast? with
  | none =>
    rw [newest] at failed
    cases failed
  | some last =>
    rw [newest] at failed
    refine ⟨staying.takeBack failed, fun empty => ?_⟩
    rw [empty] at inOrder
    rw [inOrder.perm.eq_nil] at newest
    cases newest

/-- Taking back ends well exactly when nothing was recorded or the newest row is gone, and leaves the rows as
they were when it does not. -/
theorem rollbackLast_success (keeps : KeepsLedger db table) (harmless : HarmlessDown db table tree)
    (staying : StayingTree db tree) {s t : Session σ} {found : List Record} (settled : table.Settled s.engine)
    (growing : Growing (table.rows s.engine)) (readable : Action.on (records db) s = (.ok found, t))
    (named : ∀ entry ∈ table.rows s.engine, ∃ name, entry.migration = .text name ∧ isFileName name = true)
    (session : Session σ) (log : LogSettings) :
    let ended := Action.on (rollbackLast db tree folder) s
    let before := table.rows s.engine
    let after := table.rows ended.2.engine
    let success := (Desk.leaves (judged .ofRollback ended.1) tree session log).ending.isSuccess
    (success = true ↔ before = [] ∧ after = [] ∨ ∃ newest, before = after ++ [newest]) ∧
      (success = false → after = before) := by
  have takes : TakesBack table (table.rows s.engine) (Action.on (rollbackLast db tree folder) s) :=
    rollbackLast_ledger keeps harmless settled growing
  dsimp only
  rcases rolled : Action.on (rollbackLast db tree folder) s with ⟨fault | (- | name), u⟩ <;> rw [rolled] at takes
  · obtain ⟨stays, filled⟩ := rollbackLast_stays keeps staying settled readable rolled
    obtain ⟨-, same⟩ := takes
    rw [leaves_judged session log stays, same]
    simp [filled]
  · obtain ⟨-, same⟩ := takes
    have empty := rollbackLast_nothing keeps settled rolled
    rw [empty] at same
    have success := @ofRollback_nothing σ tree session log
    exact ⟨iff_of_true success (.inl ⟨empty, same⟩), fun failure => nomatch success.symm.trans failure⟩
  · obtain ⟨-, newest, split, own, -⟩ := takes
    obtain ⟨word, text, conforming⟩ := named newest (by rw [split]; exact List.mem_append_right _ List.mem_cons_self)
    have success := @ofRollback_success σ tree session log word conforming
    rw [← own, text]
    exact ⟨iff_of_true success (.inr ⟨newest, split⟩), fun failure => nomatch success.symm.trans failure⟩

/-! Whole command lines. -/

theorem disconnect_engine (db : Database σ) (s : Session σ) : (Action.on (disconnect db) s).2.engine = s.engine := by
  rw [on_disconnect]
  split
  · rfl
  · split <;> rfl

/-- Where the exit code is zero, everything went well: applying has every file of the folder recorded in the end,
and taking back has found nothing or taken out the newest row. Otherwise a file is not recorded, and taking back has
left the ledger as it was. -/
theorem run_isSuccess {desk : Desk σ} {arguments : List String} {log : LogSettings} {request : Request} {engine : σ}
    {s t u : Session σ} {found : List Record} {names : List String} (asks : desk.Asks arguments log request)
    (placed : desk.folder request = .ok folder) (chosen : desk.database request = .ok db)
    (keeps : KeepsLedger db table) (quiet : QuietTree db table tree) (staying : StayingTree db tree)
    (distinct : tree.Distinct) (settled : table.Settled engine) (growing : Growing (table.rows engine))
    (recorded : (table.rows engine).map Entry.migration = names.map .text)
    (conforming : ∀ name ∈ names, isFileName name = true) (opens : Action.on (connect db) { engine } = (.ok (), s))
    (makes : Action.on (ensureLedger db) s = (.ok (), t)) (reads : Action.on (records db) t = (.ok found, u)) :
    let outcome := desk.run tree engine arguments
    let before := table.rows engine
    let after := table.rows outcome.session.engine
    (request.task = .migrate → (outcome.ending.isSuccess = true ↔
      ∃ files, discover tree folder = .ok files ∧ ∀ file ∈ files, isRecorded after file = true)) ∧
    (request.task = .rollback →
      (outcome.ending.isSuccess = true ↔ before = [] ∧ after = [] ∨ ∃ newest, before = after ++ [newest]) ∧
      (outcome.ending.isSuccess = false → after = before)) := by
  have opened := connect_moves (opens_rests keeps) { engine } settled
  rw [opens] at opened
  have made := ensureLedger_ledger keeps opened.1
  rw [makes] at made
  have rests : table.Settled t.engine := made.1
  have same : table.rows t.engine = table.rows engine := made.2.trans opened.2
  have named (entry : Entry) (member : entry ∈ table.rows t.engine) :
      ∃ name, entry.migration = .text name ∧ isFileName name = true := by
    have text := List.mem_map_of_mem (f := Entry.migration) (same ▸ member)
    rw [recorded, List.mem_map] at text
    obtain ⟨name, among, text⟩ := text
    exact ⟨name, text.symm, conforming name among⟩
  intro outcome before after
  refine ⟨fun task => ?_, fun task => ?_⟩
  · have work := desk.performOnDatabase_migrate tree folder task
    have ran : outcome = _ := Desk.run_withLedger asks placed chosen (by simp [task]) work opens makes
    have plain (entry : Entry) (member : entry ∈ table.rows t.engine) : memberComplaint? entry.migration = none := by
      obtain ⟨name, text, -⟩ := named entry member
      rw [text]
      rfl
    have left : after = table.rows (Action.on (applyPending db tree folder) t).2.engine := by
      change table.rows outcome.session.engine = _
      rw [ran, Desk.leaves_session, disconnect_engine]
    rw [left, ran]
    exact applyPending_success keeps (quiet.harmless db.now folder) staying distinct rests reads plain _ log
  · have work := desk.performOnDatabase_rollback tree folder task
    have ran : outcome = _ := Desk.run_withLedger asks placed chosen (by simp [task]) work opens makes
    have left : after = table.rows (Action.on (rollbackLast db tree folder) t).2.engine := by
      change table.rows outcome.session.engine = _
      rw [ran, Desk.leaves_session, disconnect_engine]
    rw [left, ran, show before = table.rows t.engine from same.symm]
    exact rollbackLast_success keeps (quiet.harmlessDown db.now) staying rests (same ▸ growing) reads named _ log

/-! A command line on the ledger's engine. -/

section

open LedgerEngine

/-- What a file with a single migration does, to be applied or taken back, is what its steps do. -/
theorem stayingFile_steps {db : Database LedgerEngine} {up down : List SchemaStep}
    (works : ∀ {steps fault} {s t : Session LedgerEngine}, steps = up ∨ steps = down →
      Action.on (SchemaStep.performAll db steps) s = (.error fault, t) → Stays fault) :
    StayingFile db (Source.singleClass up down) where
  loads {path fault} failed := by
    rw [Source.bindings_singleClass] at failed
    cases failed
  makes {path bindings definition fault} bound candidate refused := by
    rw [Source.eq_onlyClass bound candidate] at refused
    cases refused
  works {path bindings definition steps fault s t} bound candidate own failed := by
    rw [Source.eq_onlyClass bound candidate] at own
    rcases own with rfl | rfl
    · exact works (.inl rfl) failed
    · exact works (.inr rfl) failed

theorem stayingFile_drop (db : Database LedgerEngine) (up down : String) : StayingFile db (dropFile up down) := by
  have dropping {table : String} {fault : Fault} {s t : Session LedgerEngine}
      (failed : Action.on (SchemaStep.performAll db [dropStep table]) s = (.error fault, t)) : Stays fault := by
    rw [on_dropStep] at failed
    rcases ran : Action.on (run db (dropSql table) []) s with ⟨other | done, u⟩ <;> rw [ran] at failed <;> cases failed
    exact stays_of_seen (run_visible db _ _ ran)
  refine stayingFile_steps fun own failed => ?_
  rcases own with rfl | rfl
  · exact dropping failed
  · exact dropping failed

/-- The last of two migrations is taken back. -/
theorem run_isSuccess_dropping :
    let tree := three (dropFile "a" "b") (dropFile "c" "d") (dropFile "e" "f")
    let before : List Entry := [⟨1, .text first, .null⟩, ⟨2, .text second, .null⟩]
    let outcome := calmDesk.run tree { rows := before, saved := before } rollbackArguments
    let after := ledger.rows outcome.session.engine
    (outcome.ending.isSuccess = true ↔ before = [] ∧ after = [] ∨ ∃ newest, before = after ++ [newest]) ∧
      (outcome.ending.isSuccess = false → after = before) := by
  intro tree before
  obtain ⟨log, asks⟩ := calmDesk_asks
  obtain ⟨db, chosen, same, ready⟩ := calmDesk_opens
  obtain ⟨s, t, opens, makes, after⟩ := ready { rows := before, saved := before } rfl
  obtain ⟨found, u, reads, -⟩ := records_ready same after
  have quiet : QuietTree db ledger tree := @quietTree_drops db "a" "b" "c" "d" "e" "f" same
  have staying : StayingTree db tree :=
    three_all (stayingFile_drop db "a" "b") (stayingFile_drop db "c" "d") (stayingFile_drop db "e" "f")
  have conforming : ∀ name ∈ [first, second], isFileName name = true := by
    intro name member
    refine LedgerEngine.named ?_
    revert name
    decide
  have settled : ledger.Settled { rows := before, saved := before } := rfl
  have growing : Growing before := by simp [before, Growing]
  exact (run_isSuccess asks calmDesk_folder chosen (keepsLedger db same) quiet staying three_distinct settled growing
    (show _ = [first, second].map Value.text from rfl) conforming opens makes reads).2 rfl

/-- A file whose migration ends the program when it is taken back, as if all had gone well. -/
def quittingFile : Source.File := Source.singleClass [] [.raise "SystemExit" .null]

theorem reverseFile_quits {db : Database LedgerEngine} {tree : Tree Source.File} {path : Path} {called : String}
    (loading : instantiate tree path = .ok (Source.onlyClass called "Change" [] [.raise "SystemExit" .null]))
    (migration : Value) (s : Session LedgerEngine) :
    Action.on (reverseFile db tree path migration) s = (.error (.raised "SystemExit" .null), s) := by
  unfold reverseFile
  rw [loading]
  rfl

/-- Where a migration ends the program itself, the exit code may be zero although nothing was taken back. -/
theorem run_isSuccess_quits :
    let tree := three (dropFile "a" "b") (dropFile "c" "d") quittingFile
    let before : List Entry := [⟨1, .text third, .null⟩]
    let engine : LedgerEngine := { rows := before, saved := before }
    let outcome := calmDesk.run tree engine rollbackArguments
    let after := ledger.rows outcome.session.engine
    (∃ log db s t found, calmDesk.Asks rollbackArguments log rollbackRequest ∧
      calmDesk.folder rollbackRequest = .ok here ∧ calmDesk.database rollbackRequest = .ok db ∧
      KeepsLedger db ledger ∧ QuietTree db ledger tree ∧ tree.Distinct ∧
      Action.on (connect db) { engine } = (.ok (), s) ∧ Action.on (ensureLedger db) s = (.ok (), t) ∧
      (Action.on (records db) t).1 = .ok found) ∧
    (∀ entry ∈ before, ∃ name, entry.migration = .text name ∧ isFileName name = true) ∧
    outcome.ending.isSuccess = true ∧ ¬ (before = [] ∧ after = [] ∨ ∃ newest, before = after ++ [newest]) := by
  intro tree before engine outcome after
  obtain ⟨log, asks⟩ := calmDesk_asks
  have growing : Growing before := by simp [before, Growing]
  obtain ⟨db, chosen, same, s, t, u, opens, makes, settled, rows, reads⟩ := calmDesk_reads growing
  have keeps := keepsLedger db same
  have quits (now : Moment) :
      Action.Moves ledger.Rests (SchemaStep.performAll { db with now } [.raise "SystemExit" .null]) :=
    fun s settled => ⟨settled, rfl⟩
  have quiet : QuietTree db ledger tree :=
    three_all (quietFile_drop same "a" "b") (quietFile_drop same "c" "d") (quietFile_steps (fun _ => moves_pure ()) quits)
  have third_mem : third ∈ [first, second, third] := by decide
  -- Its only row is that of the file whose migration ends the program.
  obtain ⟨called, loading⟩ : ∃ called, instantiate tree (here.child third) =
      .ok (Source.onlyClass called "Change" [] [.raise "SystemExit" .null]) := instantiate_three third_mem rfl
  have rolled : ∃ v, Action.on (rollbackLast db tree here) t = (.error (.raised "SystemExit" .null), v) := by
    rw [on_rollbackLast, reads]
    refine ⟨u, ?_⟩
    change Action.on (takeBack db tree here (Entry.record ⟨1, .text third, .null⟩)) u = _
    rw [takeBack_stays rfl (isFile_three third_mem), on_bind, reverseFile_quits loading]
  obtain ⟨v, rolled⟩ := rolled
  have left : TakesBack ledger (ledger.rows t.engine) (Action.on (rollbackLast db tree here) t) :=
    rollbackLast_ledger keeps (quiet.harmlessDown db.now) settled (rows ▸ growing)
  rw [rolled, rows] at left
  have work := @Desk.performOnDatabase_rollback _ calmDesk rollbackRequest tree here rfl
  have ran : outcome = _ := Desk.run_withLedger asks calmDesk_folder chosen nofun work opens makes
  rw [rolled] at ran
  have unchanged : after = before := by
    change ledger.rows outcome.session.engine = _
    rw [ran, Desk.leaves_session, disconnect_engine]
    exact left.2
  refine ⟨⟨log, db, s, t, _, asks, calmDesk_folder, chosen, keeps, quiet, three_distinct, opens, makes, by rw [reads]⟩,
    ?_, by rw [ran]; rfl, ?_⟩
  · intro entry member
    rw [List.mem_singleton] at member
    exact ⟨third, by rw [member], LedgerEngine.named third_mem⟩
  · rw [unchanged]
    simp [before]

end

end DataLayer.Command
