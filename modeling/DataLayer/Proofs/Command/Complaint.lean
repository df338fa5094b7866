import DataLayer.Proofs.Command.Course
import DataLayer.Proofs.Command.Screen
import DataLayer.Proofs.Seed.Run
import DataLayer.Proofs.Settings

/-! What a command line tells of the reports that come up on its way. Main statement: the only report that is not
told is the one on the zone of a server; every other one is told in a line beside the output and ends the command
line with the code for failure, unless it cannot be read as markup. -/

namespace DataLayer.Command

open DataLayer.Action DataLayer.Database DataLayer.Migration Fault

variable {σ α : Type} {desk : Desk σ} {request : Request} {tree : Tree Source.File}

/-! Reports that nothing tells of. -/

/-- The settings of a request lead to a server whose zone is unknown, as a report says. -/
def Desk.Unzoned (desk : Desk σ) (request : Request) (report : Report) : Prop :=
  (∀ name, request.task ≠ .makeMigration name) ∧ ∃ folder db, desk.folder request = .ok folder ∧
    desk.database request = .ok db ∧ db.kind = .mysql ∧
    zoneOffset db.config.timezone db.now.seconds = .error (.report report)

theorem Desk.database_unreported (desk : Desk σ) (request : Request) : Unreported (desk.database request) :=
  unreported_map (desk.surroundings.chooseAt_unreported _) _

theorem Desk.folder_unreported (desk : Desk σ) (request : Request) : Unreported (desk.folder request) := by
  unfold Desk.folder
  cases request.folder with
  | none => exact unreported_bind (AppSettings.load_unreported _) fun _ => unreported_ok _
  | some folder =>
    dsimp only
    split
    · exact unreported_misuse _
    · exact unreported_ok _

theorem judged_unreported (verdict : α → Verdict) (result : Except Fault α) : Unreported (judged verdict result) := by
  cases result with
  | ok value => exact unreported_ok _
  | error fault =>
    cases fault with
    | report report => exact unreported_ok _
    | _ => rintro report ⟨⟩

theorem unopened_report {fault : Fault} {report : Report} :
    unopened fault = .error (.report report) ↔ fault = .report report ∧ report.kind ≠ .connection := by
  cases fault with
  | report other =>
    unfold unopened
    dsimp only
    split
    next same =>
      refine iff_of_false (by rintro ⟨⟩) ?_
      rintro ⟨⟨⟩, apart⟩
      exact apart same
    next apart =>
      rw [Except.error.injEq, Fault.report.injEq]
      exact ⟨fun same => ⟨same, same ▸ apart⟩, And.left⟩
  | _ => simp [unopened]

namespace Desk

/-- Work on a database is all that a command line does, but for the making of a file. -/
theorem exists_work (desk : Desk σ) {request : Request} (other : ∀ name, request.task ≠ .makeMigration name)
    (tree : Tree Source.File) (folder : Path) : ∃ (α : Type) (work : Database σ → Action σ α) (verdict : α → Verdict),
      desk.performOnDatabase tree folder request = desk.withDatabase request work verdict := by
  unfold performOnDatabase withLedger
  cases task : request.task with
  | makeMigration name => exact absurd task (other name)
  | _ => exact ⟨_, _, _, rfl⟩

/-- The fault of a command line is the one that its task ended with. -/
theorem leaves_died {result : Except Fault Verdict} {session : Session σ} {log : LogSettings} {report : Report} :
    (leaves result tree session log).ending = .died (.report report) ↔ result = .error (.report report) := by
  cases result with
  | ok verdict =>
    unfold leaves
    dsimp only
    split <;> simp
  | error fault =>
    unfold leaves farewell
    dsimp only
    split <;> simp_all

/-- Where the settings lead to a database, the report is one on its zone. -/
theorem unzoned_iff {folder : Path} {db : Database σ} {report : Report} (placed : desk.folder request = .ok folder)
    (chosen : desk.database request = .ok db) :
    desk.Unzoned request report ↔ (∀ name, request.task ≠ .makeMigration name) ∧ db.kind = .mysql ∧
      zoneOffset db.config.timezone db.now.seconds = .error (.report report) := by
  constructor
  · rintro ⟨other, folder', db', -, chosen', server, unzoned⟩
    obtain rfl : db = db' := Except.ok.inj (chosen.symm.trans chosen')
    exact ⟨other, server, unzoned⟩
  · rintro ⟨other, server, unzoned⟩
    exact ⟨other, folder, db, placed, chosen, server, unzoned⟩

section

variable {arguments : List String} {log : LogSettings} (asks : desk.Asks arguments log request) (engine : σ)
  {report : Report}

include asks

/-- A command line whose task ends without a report ends without one. -/
theorem run_died_unreported (unreported : Unreported (desk.perform tree request { engine }).1.1) :
    (desk.run tree engine arguments).ending ≠ .died (.report report) := by
  rw [run_asks asks, answer_eq]
  exact fun died => unreported report (leaves_died.mp died)

/-- On a database it is the report on the zone of its server that nothing tells of. -/
theorem run_died_onDatabase {folder : Path} {db : Database σ} (placed : desk.folder request = .ok folder)
    (chosen : desk.database request = .ok db) (other : ∀ name, request.task ≠ .makeMigration name) :
    (desk.run tree engine arguments).ending = .died (.report report) ↔ desk.Unzoned request report := by
  obtain ⟨α, work, verdict, task⟩ := desk.exists_work other tree folder
  have ran : desk.run tree engine arguments = _ := run_onDatabase asks placed chosen other task
  rw [unzoned_iff placed chosen]
  rcases opening : on (connect db) { engine } with ⟨fault | nothing, s⟩
  · rw [opening] at ran
    rw [ran, leaves_died, unopened_report]
    constructor
    · rintro ⟨rfl, kind⟩
      exact ⟨other, (connect_report opening).resolve_left kind⟩
    · rintro ⟨-, server, unzoned⟩
      rw [connect_unzoned rfl server unzoned] at opening
      cases opening
      exact ⟨rfl, by rw [zoneOffset_report unzoned]; nofun⟩
  · rw [opening] at ran
    rw [ran, leaves_died]
    refine iff_of_false (judged_unreported _ _ report) ?_
    rintro ⟨-, server, unzoned⟩
    rw [connect_unzoned rfl server unzoned] at opening
    cases opening

/-- The report on the zone of a server is the only one that nothing tells of. -/
theorem run_died :
    (desk.run tree engine arguments).ending = .died (.report report) ↔ desk.Unzoned request report := by
  cases placed : desk.folder request with
  | error fault =>
    have unplaced : desk.perform tree request { engine } = ((.error fault, tree), { engine }) := by
      unfold perform
      rw [placed]
      rfl
    refine iff_of_false (run_died_unreported asks engine ?_) fun ⟨_, _, _, placed', _⟩ => nomatch placed.symm.trans placed'
    rw [unplaced]
    exact unreported_error (desk.folder_unreported request) placed
  | ok folder =>
    by_cases making : ∃ name, request.task = .makeMigration name
    · obtain ⟨name, task⟩ := making
      refine iff_of_false (run_died_unreported asks engine ?_) fun unzoned => unzoned.1 name task
      unfold perform
      rw [placed]
      dsimp only
      rw [task]
      exact judged_unreported _ _
    · have other : ∀ name, request.task ≠ .makeMigration name := fun name task => making ⟨name, task⟩
      cases chosen : desk.database request with
      | ok db => exact run_died_onDatabase asks engine placed chosen other
      | error fault =>
        obtain ⟨α, work, verdict, task⟩ := desk.exists_work other tree folder
        refine iff_of_false (run_died_unreported asks engine ?_)
          fun ⟨_, _, _, _, chosen', _⟩ => nomatch chosen.symm.trans chosen'
        rw [perform_eq placed other, task, on_withDatabase_unchosen chosen]
        exact unreported_error (desk.database_unreported request) chosen

end

end Desk

/-! Reports that are told. -/

/-- The texts that tell of a report. -/
inductive Tells (report : Report) : String → Prop where
  | error : Tells report ("[bold red]Error[/bold red]: " ++ report.message.display)
  | unopened : Tells report ("[bold red]Error[/bold red]: " ++ ("DB Connection Failed: " ++ report.message.display))
  | failed {file : String} (named : isFileName file = true) :
      Tells report ("[red]FAILED[/red] " ++ file ++ ": " ++ report.message.display)

/-- A command line ends with the code for failure, and a text stands beside its output. -/
structure Outcome.Complains (outcome : Outcome σ) (text : String) : Prop where
  ends : outcome.ending = .exited (.int 1)
  shows : ∃ lines, Screen.linesOf text = .ok lines ∧ lines ≠ [] ∧ lines <:+: outcome.screen.complaints

/-- A command line ends at a text that cannot be shown. -/
def Outcome.Stumbles (outcome : Outcome σ) (text : String) : Prop :=
  ∃ misuse, Screen.linesOf text = .error misuse ∧ outcome.ending = .died (.misuse misuse)

/-- A command line tells of a report as an error, unless its message is marked up in a way that cannot be shown. -/
def Outcome.Reports (outcome : Outcome σ) (report : Report) : Prop :=
  ∃ text, Tells report text ∧
    (outcome.Complains text ∨ ¬ Screen.Plain report.message.display ∧ outcome.Stumbles text)

/-- A plain message can be shown in each of the texts. -/
theorem Tells.shows {report : Report} {text : String} (tells : Tells report text)
    (plain : Screen.Plain report.message.display) : ∃ lines, Screen.linesOf text = .ok lines := by
  cases tells with
  | error => exact Screen.linesOf_error plain
  | unopened =>
    have word : "DB Connection Failed: " = "DB Connection Failed" ++ ": " := by decide
    rw [word]
    exact Screen.linesOf_error (plain.announced (List.all_eq_true.mp (by decide)))
  | failed named => exact Screen.linesOf_failed (Screen.isMild_of_isFileName named) plain

theorem Tells.reports {outcome : Outcome σ} {report : Report} {text : String} (tells : Tells report text)
    (ended : outcome.Complains text ∨ outcome.Stumbles text) : outcome.Reports report := by
  refine ⟨text, tells, ended.imp_right fun stumbles => ⟨fun plain => ?_, stumbles⟩⟩
  obtain ⟨lines, read⟩ := tells.shows plain
  obtain ⟨misuse, unread, -⟩ := stumbles
  rw [read] at unread
  cases unread

namespace Desk

section

variable {session : Session σ} {log : LogSettings} {text : String}

/-- A verdict of failure ends a command line with the code for it and each of its complaints, unless one of its
texts cannot be shown. -/
theorem leaves_complains {verdict : Verdict} (code : verdict.exitCode = 1) (told : .complaint text ∈ verdict.shown)
    (plain : ∀ table, .table table ∉ verdict.shown) :
    (leaves (.ok verdict) tree session log).Complains text ∨
      ∃ other, (.line other ∈ verdict.shown ∨ .complaint other ∈ verdict.shown) ∧
        (leaves (.ok verdict) tree session log).Stumbles other := by
  rcases shown : ({} : Screen).addAll verdict.shown with ⟨screen, - | misuse⟩
  · left
    obtain ⟨lines, read, there⟩ := Screen.addAll_shows shown told
    unfold leaves
    dsimp only
    rw [shown]
    exact ⟨by rw [code]; rfl, lines, read, Screen.linesOf_ne_nil read, there⟩
  · right
    have died : (leaves (.ok verdict) tree session log).ending = .died (.misuse misuse) := by
      unfold leaves
      dsimp only
      rw [shown]
    obtain ⟨item, member, before, fails⟩ := Screen.addAll_stops shown
    cases item with
    | line other => exact ⟨other, .inl member, misuse, Fault.map_eq_error.mp fails, died⟩
    | complaint other => exact ⟨other, .inr member, misuse, Fault.map_eq_error.mp fails, died⟩
    | table table => exact absurd member (plain table)

/-- So does a single complaint. -/
theorem leaves_failure {message : String} (own : text = "[bold red]Error[/bold red]: " ++ message) :
    (leaves (.ok (.failure message)) tree session log).Complains text ∨
      (leaves (.ok (.failure message)) tree session log).Stumbles text := by
  subst own
  have told : Shown.complaint ("[bold red]Error[/bold red]: " ++ message) ∈ (Verdict.failure message).shown :=
    List.mem_cons_self
  refine (leaves_complains rfl told nofun).imp_right ?_
  rintro ⟨other, line | complaint, stumbles⟩
  · cases line with
    | tail _ later => cases later
  · cases complaint with
    | head => exact stumbles
    | tail _ later => cases later

/-- So does the complaint about the file at which a run has stopped: what is told of the files before it can be shown. -/
theorem leaves_stopped {result : Migration.RunResult} {file message : String} (failed : result.errors = [(file, message)])
    (named : ∀ name ∈ result.applied, isFileName name = true)
    (own : text = "[red]FAILED[/red] " ++ file ++ ": " ++ message) :
    (leaves (.ok (.ofMigrations result)) tree session log).Complains text ∨
      (leaves (.ok (.ofMigrations result)) tree session log).Stumbles text := by
  subst own
  let done (name : String) : Shown := .line ("Migrating: " ++ name ++ "... [green]DONE[/green]")
  have verdict : Verdict.ofMigrations result =
      { shown := result.applied.map done ++ [.complaint ("[red]FAILED[/red] " ++ file ++ ": " ++ message)],
        exitCode := 1 } := by
    unfold Verdict.ofMigrations Migration.RunResult.success
    rw [failed]
    rfl
  rw [verdict]
  have plain (table : Terminal.Table) :
      .table table ∉ result.applied.map done ++ [.complaint ("[red]FAILED[/red] " ++ file ++ ": " ++ message)] := by
    simp [done]
  refine (leaves_complains rfl (List.mem_append_right _ List.mem_cons_self) plain).imp_right ?_
  rintro ⟨other, line | complaint, stumbles⟩
  · -- What is told of a file that was applied can be shown.
    obtain ⟨name, applied, same⟩ : ∃ name ∈ result.applied, done name = .line other := by simpa using line
    obtain ⟨lines, read⟩ := Screen.linesOf_migrating (named name applied)
    obtain ⟨misuse, unread, -⟩ := stumbles
    rw [← Shown.line.inj same, read] at unread
    cases unread
  · have own : other = "[red]FAILED[/red] " ++ file ++ ": " ++ message := by simpa [done] using complaint
    rwa [own] at stumbles

end

end Desk

/-- Holds of the tasks that work with the ledger. -/
def Task.isLedgered : Task → Bool
  | .migrate | .rollback | .status => true
  | _ => false

/-- The stages of a task at which work on an open database comes upon a report. -/
inductive Meets (db : Database σ) (tree : Tree Source.File) (folder : Path) (task : Task) (s : Session σ)
    (report : Report) : Prop where
  | making {t : Session σ} (ledgered : task.isLedgered = true)
      (making : on (ensureLedger db) s = (.error (.report report), t))
  | reading {t u : Session σ} (ledgered : task.isLedgered = true) (made : on (ensureLedger db) s = (.ok (), t))
      (reading : on (records db) t = (.error (.report report), u))
  /-- A file is not loaded, or what it does fails, or it is not recorded, after those that are announced before. -/
  | applying {t u v w : Session σ} {known : List Value} {files done later : List String} {file : String}
      (own : task = .migrate) (made : on (ensureLedger db) s = (.ok (), t))
      (read : on (knownNames db) t = (.ok known, u)) (discovered : discover tree folder = .ok files)
      (announced : (files.filter fun file => !known.contains (.text file)) = done ++ file :: later)
      (applies : Applies db tree folder u done v) (attempt : Attempt db tree folder file v (.error (.report report)) w)
  /-- The file of the last record is missing or not loaded, or what it does fails, or its record is not erased. -/
  | reversing {t u v : Session σ} {found : List Record} {last : Record} (own : task = .rollback)
      (made : on (ensureLedger db) s = (.ok (), t)) (read : on (records db) t = (.ok found, u))
      (newest : found.getLast? = some last) (reversing : on (takeBack db tree folder last) u = (.error (.report report), v))
  | comparing {t u v : Session σ} {found : List Record} (own : task = .status)
      (made : on (ensureLedger db) s = (.ok (), t)) (read : on (records db) t = (.ok found, u))
      (comparing : on (pending db tree folder) u = (.error (.report report), v))
  | seeking {name : String} {files : List Path} (own : task = .seed (some name))
      (discovered : Seed.discover tree folder = .ok files) (empty : Seed.chosen (some name) files = [])
      (unfound : report = Seed.unfound name folder.text)

/-- The stages of a command line at which it comes upon a report, but for those of its seeders. -/
inductive Desk.Raises (desk : Desk σ) (tree : Tree Source.File) (engine : σ) (request : Request) (report : Report) :
    Prop where
  | placing (misplaced : desk.folder request = .error (.report report))
  | writing {name : String} {folder : Path} (task : request.task = .makeMigration name)
      (placed : desk.folder request = .ok folder)
      (writing : (Migration.create tree (.text name) (.text folder.text) desk.now).1 = .error (.report report))
  | choosing (unchosen : desk.database request = .error (.report report))
  | opening {folder : Path} {db : Database σ} {s : Session σ} (other : ∀ name, request.task ≠ .makeMigration name)
      (placed : desk.folder request = .ok folder) (chosen : desk.database request = .ok db)
      (opening : on (connect db) { engine } = (.error (.report report), s))
  | working {folder : Path} {db : Database σ} {s : Session σ} (placed : desk.folder request = .ok folder)
      (chosen : desk.database request = .ok db) (opened : on (connect db) { engine } = (.ok (), s))
      (meets : Meets db tree folder request.task s report)

namespace Desk

variable {arguments : List String} {log : LogSettings} {engine : σ} {folder : Path} {db : Database σ}

/-- What a command line comes to on a database that is open. -/
theorem run_opened {work : Database σ → Action σ α} {verdict : α → Verdict} {s : Session σ}
    (asks : desk.Asks arguments log request) (placed : desk.folder request = .ok folder)
    (chosen : desk.database request = .ok db) (other : ∀ name, request.task ≠ .makeMigration name)
    (task : desk.performOnDatabase tree folder request = desk.withDatabase request work verdict)
    (opened : on (connect db) { engine } = (.ok (), s)) {result : Except Fault α} (worked : (on (work db) s).1 = result) :
    ∃ last, desk.run tree engine arguments = leaves (judged verdict result) tree last log := by
  have ran : desk.run tree engine arguments = _ := run_onDatabase asks placed chosen other task
  rw [opened] at ran
  dsimp only at ran
  rw [worked] at ran
  exact ⟨_, ran⟩

theorem run_worked {work : Database σ → Action σ α} {verdict : α → Verdict} {s : Session σ} {report : Report}
    (asks : desk.Asks arguments log request) (placed : desk.folder request = .ok folder)
    (chosen : desk.database request = .ok db) (other : ∀ name, request.task ≠ .makeMigration name)
    (task : desk.performOnDatabase tree folder request = desk.withDatabase request work verdict)
    (opened : on (connect db) { engine } = (.ok (), s)) (failed : (on (work db) s).1 = .error (.report report)) :
    (desk.run tree engine arguments).Reports report := by
  obtain ⟨last, ran⟩ := run_opened asks placed chosen other task opened failed
  rw [ran]
  exact Tells.error.reports (leaves_failure rfl)

/-- The tasks that work with the ledger read it first. -/
theorem exists_ledgerWork (desk : Desk σ) {request : Request} (ledgered : request.task.isLedgered = true)
    (tree : Tree Source.File) (folder : Path) : ∃ (α : Type) (work : Database σ → Action σ α) (verdict : α → Verdict),
      desk.performOnDatabase tree folder request = desk.withLedger request work verdict ∧
        ∀ {db : Database σ} {s t : Session σ} {fault : Fault}, on (records db) s = (.error fault, t) →
          on (work db) s = (.error fault, t) := by
  unfold performOnDatabase
  cases task : request.task with
  | migrate =>
    refine ⟨_, _, _, rfl, fun {db s t fault} reading => ?_⟩
    have unread : on (knownNames db) s = (.error fault, t) := by
      unfold knownNames
      rw [on_bind, reading]
    rw [on_applyPending, unread]
  | rollback =>
    refine ⟨_, _, _, rfl, fun reading => ?_⟩
    rw [on_rollbackLast, reading]
  | status =>
    refine ⟨_, _, _, rfl, fun reading => ?_⟩
    rw [on_bind, reading]
  | makeMigration name => rw [task] at ledgered; cases ledgered
  | seed target => rw [task] at ledgered; cases ledgered

/-- Every report that work on an open database comes upon is told. -/
theorem run_meets {s : Session σ} {report : Report} (asks : desk.Asks arguments log request)
    (placed : desk.folder request = .ok folder) (chosen : desk.database request = .ok db)
    (opened : on (connect db) { engine } = (.ok (), s)) (meets : Meets db tree folder request.task s report) :
    (desk.run tree engine arguments).Reports report := by
  have apart (ledgered : request.task.isLedgered = true) (name : String) : request.task ≠ .makeMigration name := by
    intro task
    rw [task] at ledgered
    cases ledgered
  cases meets with
  | making ledgered making =>
    obtain ⟨α, work, verdict, task, -⟩ := desk.exists_ledgerWork ledgered tree folder
    refine run_worked asks placed chosen (apart ledgered) task opened ?_
    rw [on_bind, making]
  | reading ledgered made reading =>
    obtain ⟨α, work, verdict, task, first⟩ := desk.exists_ledgerWork ledgered tree folder
    refine run_worked asks placed chosen (apart ledgered) task opened ?_
    rw [on_bind, made]
    exact congrArg Prod.fst (first reading)
  | @applying t u v w known files done later file own made read discovered announced applies attempt =>
    obtain ⟨result, stops, rfl, failed⟩ := applyPending_stops read discovered announced applies attempt rfl
    have worked : (on (do
        ensureLedger db
        applyPending db tree folder) s).1 = .ok result := by
      rw [on_bind, made]
      exact congrArg Prod.fst stops
    obtain ⟨last, ran⟩ := run_opened asks placed chosen (by rw [own]; nofun)
      (desk.performOnDatabase_migrate tree folder own) opened worked
    have named : ∀ name ∈ result.applied ++ file :: later, isFileName name = true := by
      intro name member
      rw [← announced] at member
      exact isFileName_of_discovered discovered (List.mem_filter.mp member).1
    rw [ran]
    exact (Tells.failed (named file (List.mem_append_right _ List.mem_cons_self))).reports
      (leaves_stopped failed (fun name member => named name (List.mem_append_left _ member)) rfl)
  | reversing own made read newest reversing =>
    refine run_worked asks placed chosen (by rw [own]; nofun) (desk.performOnDatabase_rollback tree folder own) opened ?_
    rw [on_bind, made]
    dsimp only
    rw [on_rollbackLast, read]
    dsimp only
    rw [newest]
    exact congrArg Prod.fst reversing
  | comparing own made read comparing =>
    refine run_worked asks placed chosen (by rw [own]; nofun) (desk.performOnDatabase_status tree folder own) opened ?_
    rw [on_bind, made]
    dsimp only
    rw [on_bind, read]
    dsimp only
    rw [on_bind, comparing]
  | @seeking name files own discovered empty unfound =>
    refine run_worked asks placed chosen (by rw [own]; nofun) (desk.performOnDatabase_seed tree folder own) opened ?_
    rw [Seed.on_run_unfound discovered empty, unfound]

/-- Every report that a command line comes upon is told, but for the one on the zone of a server. -/
theorem run_raises {report : Report} (asks : desk.Asks arguments log request)
    (raises : desk.Raises tree engine request report) :
    desk.Unzoned request report ∨ (desk.run tree engine arguments).Reports report := by
  cases raises with
  | placing misplaced => exact absurd misplaced (desk.folder_unreported request report)
  | choosing unchosen => exact absurd unchosen (desk.database_unreported request report)
  | @writing name folder task placed writing =>
    right
    have answered := run_asks asks tree engine
    rw [answer_eq] at answered
    unfold perform at answered
    rw [placed] at answered
    dsimp only at answered
    rw [task] at answered
    obtain ⟨session, ran⟩ : ∃ session, desk.run tree engine arguments =
        leaves (.ok (.failure report.message.display))
          (Migration.create tree (.text name) (.text folder.text) desk.now).2 session log := ⟨_, by
      rw [answered]
      change leaves (judged Verdict.ofNewMigration (Migration.create tree _ _ desk.now).1) _ _ _ = _
      rw [writing]
      rfl⟩
    rw [ran]
    exact Tells.error.reports (leaves_failure rfl)
  | @opening folder db s other placed chosen opening =>
    obtain connection | ⟨server, unzoned⟩ := connect_report opening
    · right
      obtain ⟨α, work, verdict, task⟩ := desk.exists_work other tree folder
      have ran : desk.run tree engine arguments = _ := run_onDatabase asks placed chosen other task
      rw [opening] at ran
      dsimp only [unopened] at ran
      rw [if_pos connection] at ran
      rw [ran]
      exact Tells.unopened.reports (leaves_failure rfl)
    · exact .inl ⟨other, folder, db, placed, chosen, server, unzoned⟩
  | working placed chosen opened meets => exact .inr (run_meets asks placed chosen opened meets)

end Desk

/-! Seeders. A run goes on after a seeder has failed, and tells of the failures at its end. -/

/-- A seeder comes upon a report, with others to come after it. -/
inductive Desk.Falters (desk : Desk σ) (tree : Tree Source.File) (engine : σ) (request : Request) (path : Path)
    (later : List Path) (report : Report) : Prop where
  | intro {folder : Path} {db : Database σ} {target : Option String} {files done : List Path} {result : Seed.RunResult}
      {s t u : Session σ} (task : request.task = .seed target) (placed : desk.folder request = .ok folder)
      (chosen : desk.database request = .ok db) (opened : on (connect db) { engine } = (.ok (), s))
      (discovered : Seed.discover tree folder = .ok files) (split : Seed.chosen target files = done ++ path :: later)
      (reached : on (done.foldlM (Seed.runFile db tree) {}) s = (.ok result, t))
      (attempt : Seed.Attempt db tree path t (.failed (.report report)) u)

namespace Desk

variable {arguments : List String} {log : LogSettings} {engine : σ}

theorem leaves_seeded {result : Seed.RunResult} {name message : String} {session : Session σ}
    (told : Entries.get? name result.errors = some message) :
    let outcome := leaves (.ok (.ofSeeders result)) tree session log
    outcome.Complains ("[red]FAILED[/red] " ++ name ++ ": " ++ message) ∨ ∃ text, outcome.Stumbles text := by
  obtain ⟨⟨key, value⟩, found, rfl⟩ := Option.map_eq_some_iff.mp told
  have same := List.find?_some found
  obtain rfl : key = name := beq_iff_eq.mp same
  have member := List.mem_of_find?_eq_some found
  obtain ⟨texts, verdict⟩ : ∃ texts : List String, Verdict.ofSeeders result =
      { shown := texts.map .line ++ Verdict.complaints result.errors, exitCode := 1 } := by
    refine ⟨result.ran.map (fun name => "Seeding: " ++ name ++ "... [green]DONE[/green]") ++
      result.skipped.map (fun name => "Seeding: " ++ name ++ "... [yellow]SKIPPED[/yellow] (class not found)"), ?_⟩
    unfold Verdict.ofSeeders Seed.RunResult.success
    rw [List.isEmpty_eq_false_iff.mpr (List.ne_nil_of_mem member), List.map_append, List.map_map, List.map_map]
    rfl
  have plain (table : Terminal.Table) : .table table ∉ texts.map Shown.line ++ Verdict.complaints result.errors := by
    simp [Verdict.complaints]
  rw [verdict]
  refine (leaves_complains rfl (List.mem_append_right _ (List.mem_map_of_mem member)) plain).imp_right ?_
  rintro ⟨text, -, stumbles⟩
  exact ⟨text, stumbles⟩

/-- A report that a seeder comes upon is told at the end under the name of the seeder, unless a later seeder of the
same name fails or ends the command line. -/
theorem run_falters {path : Path} {later : List Path} {report : Report} (asks : desk.Asks arguments log request)
    (falters : desk.Falters tree engine request path later report) :
    let outcome := desk.run tree engine arguments
    (∃ message, (message = report.message.display ∨ ∃ other ∈ later, other.stem = path.stem) ∧
      outcome.Complains ("[red]FAILED[/red] " ++ path.stem ++ ": " ++ message)) ∨
    (∃ text, outcome.Stumbles text) ∨ ∃ fault : Fault, fault.escapes = true ∧ outcome.ending = (farewell fault).1 := by
  obtain @⟨folder, db, target, files, done, result, s, t, u, own, placed, chosen, opened, discovered, split, reached,
    attempt⟩ := falters
  have task := desk.performOnDatabase_seed tree folder own
  have filled : Seed.chosen target files ≠ [] := by
    rw [split]
    exact List.append_ne_nil_of_right_ne_nil done (List.cons_ne_nil path later)
  have worked : on (Seed.run db tree folder folder.text target) s = _ := Seed.on_run discovered filled folder.text s
  rw [split] at worked
  obtain ⟨last, ran⟩ := run_opened asks placed chosen (by rw [own]; nofun) task opened (congrArg Prod.fst worked)
  rcases ended : on ((done ++ path :: later).foldlM (Seed.runFile db tree) {}) s with ⟨fault | final, v⟩
  · rw [ended] at ran
    have escapes := Seed.foldlM_escapes ended
    refine .inr (.inr ⟨fault, escapes, ?_⟩)
    rw [ran]
    cases fault with
    | raised name message => rfl
    | _ => cases escapes
  · rw [ended] at ran
    obtain ⟨message, told, own⟩ := Seed.foldlM_failed reached attempt rfl ended
    rw [ran]
    rcases leaves_seeded told with complains | stumbles
    · exact .inl ⟨message, own, complains⟩
    · exact .inr (.inl stumbles)

end Desk

/-- The report on the zone of a server is the only one that ends a command line untold. Every other report is told in
a line beside the output, and the command line ends with the code for failure, unless the line cannot be shown; so is
every report that a seeder comes upon, unless a later seeder fails under its name or ends the command line itself. -/
theorem run_reports {arguments : List String} {log : LogSettings} (asks : desk.Asks arguments log request)
    (tree : Tree Source.File) (engine : σ) :
    let outcome := desk.run tree engine arguments
    (∀ report, outcome.ending = .died (.report report) ↔ desk.Unzoned request report) ∧
    (∀ report, desk.Raises tree engine request report → ¬ desk.Unzoned request report → outcome.Reports report) ∧
    (∀ path later report, desk.Falters tree engine request path later report →
      (∃ message, (message = report.message.display ∨ ∃ other ∈ later, other.stem = path.stem) ∧
        outcome.Complains ("[red]FAILED[/red] " ++ path.stem ++ ": " ++ message)) ∨
      (∃ text, outcome.Stumbles text) ∨
      ∃ fault : Fault, fault.escapes = true ∧ outcome.ending = (farewell fault).1) :=
  ⟨fun _ => Desk.run_died asks engine, fun _ raises zoned => (Desk.run_raises asks raises).resolve_left zoned,
    fun _ _ _ falters => Desk.run_falters asks falters⟩

section

open LedgerEngine

/-- The file of the migration that was applied last is gone, which is told. -/
theorem run_reports_missing :
    let tree : Tree Source.File := {}
    let engine : LedgerEngine := { rows := [⟨1, .text third, .null⟩], saved := [⟨1, .text third, .null⟩] }
    let outcome := calmDesk.run tree engine rollbackArguments
    ∃ text, Tells (fileMissing (.text third)) text ∧ outcome.Complains text := by
  intro tree engine
  obtain ⟨log, asks⟩ := calmDesk_asks
  have growing : Growing [⟨1, .text third, .null⟩] := by simp [Growing]
  obtain ⟨db, chosen, same, s, t, u, opens, makes, settled, rows, reads⟩ := calmDesk_reads growing
  have missing : tree.isFile (here.child third) = .ok false := rfl
  have taking : on (takeBack db tree here (Entry.record ⟨1, .text third, .null⟩)) u =
      (.error (.report (fileMissing (.text third))), u) := by
    rw [takeBack_missing rfl missing]
    rfl
  have raises : calmDesk.Raises tree engine rollbackRequest (fileMissing (.text third)) :=
    .working calmDesk_folder chosen opens (.reversing rfl makes reads rfl taking)
  have embedded : ¬ calmDesk.Unzoned rollbackRequest (fileMissing (.text third)) := by
    rintro ⟨-, folder, other, -, chosen', server, -⟩
    obtain ⟨known, named, kind⟩ : ∃ known, calmDesk.database rollbackRequest = .ok known ∧ known.kind = .sqlite :=
      ⟨_, rfl, rfl⟩
    obtain rfl : known = other := Except.ok.inj (named.symm.trans chosen')
    rw [kind] at server
    cases server
  have plain : Screen.Plain (fileMissing (.text third)).message.display :=
    Screen.plain_of_mild (List.all_eq_true.mp (by decide +kernel))
  obtain ⟨text, tells, told⟩ := (run_reports asks tree engine).2.1 _ raises embedded
  exact ⟨text, tells, told.resolve_right fun marked => marked.1 plain⟩

/-- Settings of a server, with a stray character in the name of its zone. -/
def strayDesk : Desk LedgerEngine :=
  { calmDesk with surroundings := { environment := [("DB_TIMEZONE", "/Europe/Berlin")] } }

/-- The report on a zone that has no such name. -/
def strayReport : Report :=
  { kind := .config, message := .text "Unknown timezone: '/Europe/Berlin'", cause := some .unreadableZone }

theorem zoneOffset_stray (moment : Int) : zoneOffset (.text "/Europe/Berlin") moment = .error (.report strayReport) := by
  have quoted : "Unknown timezone: " ++ (Value.text "/Europe/Berlin").quoted = "Unknown timezone: '/Europe/Berlin'" := by
    decide +kernel
  have unreadable : Zone.find "/Europe/Berlin" = .unreadable := if_pos (by decide)
  have word : (Value.text "/Europe/Berlin").text? = some "/Europe/Berlin" := rfl
  unfold zoneOffset
  rw [quoted, word]
  dsimp only
  rw [unreadable]
  rfl

/-- The report on the zone ends the command line, and nothing tells of it. -/
theorem run_reports_stray :
    let outcome := strayDesk.run {} {} ["migrate"]
    (∃ log, strayDesk.Asks ["migrate"] log { task := .migrate }) ∧ strayReport.kind = .config ∧
      outcome.ending = .died (.report strayReport) ∧ outcome.screen.complaints = [] := by
  intro outcome
  obtain ⟨log, asks⟩ : ∃ log, strayDesk.Asks ["migrate"] log { task := .migrate } := ⟨_, ⟨.migrate, [], rfl, rfl⟩, rfl⟩
  obtain ⟨folder, placed⟩ : ∃ folder, strayDesk.folder { task := .migrate } = .ok folder := ⟨_, rfl⟩
  obtain ⟨db, chosen, server, zone⟩ : ∃ db, strayDesk.database { task := .migrate } = .ok db ∧ db.kind = .mysql ∧
      db.config.timezone = .text "/Europe/Berlin" := ⟨_, rfl, rfl, rfl⟩
  have unzoned : zoneOffset db.config.timezone db.now.seconds = .error (.report strayReport) := by
    rw [zone]
    exact zoneOffset_stray _
  obtain ⟨α, work, verdict, task⟩ := @Desk.exists_work _ strayDesk { task := .migrate } nofun {} folder
  have ran : outcome = _ := Desk.run_onDatabase asks placed chosen nofun task
  rw [connect_unzoned rfl server unzoned] at ran
  rw [ran]
  exact ⟨⟨log, asks⟩, rfl, rfl, rfl⟩

end

end DataLayer.Command
