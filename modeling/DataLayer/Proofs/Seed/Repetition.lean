import DataLayer.Proofs.Seed.Roles
import DataLayer.Proofs.Source.Loading

/-! Runs of the seeder of the roles, one after the other. Main statement: whatever the table is like at first, and
whichever statements fail in whichever runs, no run inserts a name that it finds, and after a run without a failure all
roles are there and no later run inserts anything. -/

namespace DataLayer.Seed

open DataLayer.Action DataLayer.Database DataLayer.Script DataLayer.Source

variable {σ : Type}

/-! The seeder as it is loaded. -/

/-- The seeder of the roles. -/
def roleSeeder (path : Path) : ClassValue where
  serial := 3
  name := "RoleSeeder"
  home := some (.value (.text (moduleName path)))
  role := some .seeder
  run := some (.baseline Bundled.baselineRoles)

/-- The names that the file with it binds. -/
def roleNames (path : Path) : Bindings :=
  Entries.put "RoleSeeder" (.class (roleSeeder path)) (Bindings.initial (moduleName path))

theorem bindings_roleSeeder (path : Path) :
    (File.module Bundled.roleSeeder).bindings path = .ok (roleNames path) := by
  have word : Text.normalForm "Seeder" = "Seeder" := by decide +kernel
  have plain : Text.normalForm "RoleSeeder" = "RoleSeeder" := by decide +kernel
  have base : Bindings.classOf (Bindings.initial (moduleName path)) (Text.normalForm "Seeder") = .ok (.root .seeder) := by
    rw [word]
    rfl
  have own : Bindings.called (Bindings.initial (moduleName path)) = .value (.text (moduleName path)) := rfl
  have extended : (ClassValue.root .seeder).extend 3 (.value (.text (moduleName path)))
      { name := "RoleSeeder", base := "Seeder", run := some (.baseline Bundled.baselineRoles) } = roleSeeder path := by
    unfold ClassValue.extend
    rw [plain]
    rfl
  have named : (roleSeeder path).name = "RoleSeeder" := rfl
  simp only [File.bindings, Bundled.roleSeeder, Bindings.ofModule, Bindings.addClasses, base, own, bind, Except.bind,
    extended, named]
  rfl

/-- The file of the seeder. -/
def roleFile (folder : Path) : Path := folder.child "RoleSeeder.py"

theorem roleFile_named : Path.IsName "RoleSeeder.py" := by
  constructor <;> decide

theorem stem_roleFile (folder : Path) : (roleFile folder).stem = "RoleSeeder" := by
  unfold Path.stem roleFile
  rw [Path.name_child roleFile_named]
  decide +kernel

/-- A run of seeders: what it is given, and the session that it starts from. -/
structure Launch (σ : Type) where
  db : Database σ
  tree : Tree File
  folder : Path
  shown : String
  target : Option String
  start : Session σ

namespace Launch

/-- What a run does. -/
def work (launch : Launch σ) : Action σ RunResult := run launch.db launch.tree launch.folder launch.shown launch.target

/-- What a run ends with. -/
def ended (launch : Launch σ) : Except Fault RunResult × Session σ := on launch.work launch.start

/-- The statements that a run sends. -/
def sending (launch : Launch σ) : List (Value × List Value) := sent launch.work launch.start

variable {launch : Launch σ} {table : Storage σ (List RoleRow)}

/-- The roles as they are before a run. -/
def before (launch : Launch σ) (table : Storage σ (List RoleRow)) : List RoleRow := table.current launch.start.engine

/-- The roles as they are after a run. -/
def after (launch : Launch σ) (table : Storage σ (List RoleRow)) : List RoleRow := table.current launch.ended.2.engine

/-- A run that takes from its folder the seeder of the roles alone, on an engine that stores them. -/
structure OfRoles (launch : Launch σ) (table : Storage σ (List RoleRow)) : Prop where
  keeps : KeepsRoles launch.db table
  settled : table.Settled launch.start.engine
  only : ∃ files, discover launch.tree launch.folder = .ok files ∧ chosen launch.target files = [roleFile launch.folder]
  bundled : launch.tree.find? (roleFile launch.folder) = some (.file (.module Bundled.roleSeeder))

/-- What its seeder does in a run. -/
def routine (launch : Launch σ) : Action σ Unit :=
  (roles.map Role.entries).forM (insertMissing launch.db Bundled.baselineRoles)

theorem OfRoles.ended_eq (ofRoles : launch.OfRoles table) : launch.ended =
    match on launch.routine launch.start with
    | (.ok (), t) => (.ok { ran := ["RoleSeeder"] }, t.noted (.seedCompleted "RoleSeeder"))
    | (.error fault, t) => (.ok { errors := [("RoleSeeder", fault.text)] }, t.noted (.seedFailed "RoleSeeder" fault.text)) := by
  obtain ⟨files, discovered, only⟩ := ofRoles.only
  have loading : load launch.tree (roleFile launch.folder) = .ok (roleNames (roleFile launch.folder)) := by
    refine (load_plain ?_ ofRoles.bundled _).mpr (bindings_roleSeeder _)
    unfold roleFile
    rw [Path.name_child roleFile_named]
    decide +kernel
  have own : seederOf? (roleNames (roleFile launch.folder)) (roleFile launch.folder).stem =
      some (roleSeeder (roleFile launch.folder)) := by
    rw [stem_roleFile]
    unfold seederOf? roleNames
    rw [Entries.get?_put, if_pos (beq_self_eq_true _)]
    rfl
  have running : runClass launch.db (roleSeeder (roleFile launch.folder)) =
      perform launch.db (.baseline Bundled.baselineRoles) := rfl
  have performing : perform launch.db (.baseline Bundled.baselineRoles) = launch.routine :=
    congrArg (fun rows => rows.forM (insertMissing launch.db Bundled.baselineRoles)) rows_baselineRoles
  unfold ended work
  rw [on_run discovered (by rw [only]; exact List.cons_ne_nil _ _), only]
  rcases seeded : on launch.routine launch.start with ⟨fault | nothing, t⟩
  · have seen : fault.escapes = false := by
      rw [← performing] at seeded
      exact perform_visible rfl seeded
    have survived : (Ending.failed fault).fatal? = none := by simp [Ending.fatal?, seen]
    rw [on_foldlM_cons (.broken loading own (by rw [running, performing, seeded])), survived, stem_roleFile]
    rfl
  · rw [on_foldlM_cons (.ran loading own (by rw [running, performing, seeded])), stem_roleFile]
    rfl

/-- What a run comes to. The rows that were there stay, those of missing roles follow in their order, and what is sent
begins what is planned. Either all of it was done, or a statement failed, and its fault is told. -/
structure Resumes (launch : Launch σ) (table : Storage σ (List RoleRow)) (added : List RoleRow) : Prop where
  settled : table.Settled launch.ended.2.engine
  grown : launch.after table = launch.before table ++ added
  ordered : added.map RoleRow.toRole <+: missing (launch.before table) roles
  planned : launch.sending <+: plan (launch.before table) roles
  told : (launch.ended.1 = .ok { ran := ["RoleSeeder"] } ∧ added.map RoleRow.toRole = missing (launch.before table) roles ∧
      launch.sending = plan (launch.before table) roles) ∨
    ∃ statement ∈ plan (launch.before table) roles, ∃ fault u t, on (launch.db.run statement.1 statement.2) u = (.error fault, t) ∧
      launch.ended = (.ok { errors := [("RoleSeeder", fault.text)] }, t.noted (.seedFailed "RoleSeeder" fault.text))

theorem OfRoles.resumes (ofRoles : launch.OfRoles table) : ∃ added, launch.Resumes table added := by
  obtain ⟨added, sending, seeds⟩ : ∃ added sending,
      Seeds launch.db table roles launch.start (on launch.routine launch.start) added sending :=
    forM_seeds ofRoles.keeps roles_distinct ofRoles.settled
  have ended := ofRoles.ended_eq
  generalize on launch.routine launch.start = last at seeds ended
  obtain ⟨outcome, t⟩ := last
  have reached : ∃ result notice, launch.ended = (.ok result, t.noted notice) := by
    cases outcome <;> exact ⟨_, _, ended⟩
  obtain ⟨result, notice, reached⟩ := reached
  have same : launch.ended.2.engine = t.engine := congrArg (fun last => last.2.engine) reached
  obtain ⟨new, grown, executed⟩ := seeds.sent
  have sends : launch.sending = sending := by
    rw [← executed]
    refine sent_eq ?_
    change launch.ended.2.events = _
    rw [reached]
    exact grown
  refine ⟨added, same ▸ seeds.settled, ?_, seeds.ordered, sends ▸ seeds.planned, ?_⟩
  · unfold after
    rw [same]
    exact seeds.grown
  · cases outcome with
    | ok nothing =>
      obtain ⟨all, whole⟩ := seeds.complete rfl
      exact .inl ⟨congrArg Prod.fst ended, all, sends.trans whole⟩
    | error fault =>
      obtain ⟨statement, member, u, failed⟩ := seeds.broken fault rfl
      exact .inr ⟨statement, member, fault, u, t, failed, ended⟩

theorem mem_missing {rows : List RoleRow} {role : Role} {wanted : List Role} :
    role ∈ missing rows wanted ↔ role ∈ wanted ∧ role.name ∉ names rows := by
  unfold missing
  rw [List.mem_filter, decide_eq_true_iff]
  rfl

/-- Of a name that was there no row is added, and of any other at most one. -/
theorem Resumes.count_le {added : List RoleRow} (resumes : launch.Resumes table added) (name : String) :
    (names (launch.after table)).count name ≤ max ((names (launch.before table)).count name) 1 := by
  have own : names added = (added.map RoleRow.toRole).map Role.name := by
    rw [List.map_map]
    rfl
  have sublist := (resumes.ordered.sublist.trans List.filter_sublist).map Role.name
  rw [← own] at sublist
  have once : (names added).count name ≤ 1 := List.nodup_iff_count_le_one.mp (sublist.nodup roles_distinct) name
  have split : (names (launch.after table)).count name =
      (names (launch.before table)).count name + (names added).count name := by
    rw [resumes.grown, names, List.map_append, List.count_append]
    rfl
  by_cases there : name ∈ names (launch.before table)
  · have none : (names added).count name = 0 := by
      refine List.count_eq_zero.mpr fun inside => ?_
      rw [own] at inside
      obtain ⟨role, listed, rfl⟩ := List.mem_map.mp inside
      exact (mem_missing.mp (resumes.ordered.mem listed)).2 there
    omega
  · have none : (names (launch.before table)).count name = 0 := List.count_eq_zero.mpr there
    omega

/-- After a run without a failure there is every role. -/
theorem Resumes.complete {added : List RoleRow} (resumes : launch.Resumes table added) {result : RunResult}
    (ended : launch.ended.1 = .ok result) (success : result.success = true) {role : Role} (known : role ∈ roles) :
    role.name ∈ names (launch.after table) := by
  have all : added.map RoleRow.toRole = missing (launch.before table) roles := by
    rcases resumes.told with ⟨-, all, -⟩ | ⟨statement, -, fault, u, t, -, failed⟩
    · exact all
    · rw [failed] at ended
      cases ended
      cases success
  rw [resumes.grown, names, List.map_append, List.mem_append]
  by_cases there : role.name ∈ names (launch.before table)
  · exact .inl there
  · have listed : role ∈ added.map RoleRow.toRole := all ▸ mem_missing.mpr ⟨known, there⟩
    obtain ⟨row, inside, rfl⟩ := List.mem_map.mp listed
    exact .inr (List.mem_map_of_mem inside)

/-- Where there is every role, the roles are only counted. -/
theorem Resumes.idle {added : List RoleRow} (resumes : launch.Resumes table added)
    (whole : ∀ role ∈ roles, role.name ∈ names (launch.before table)) :
    launch.sending <+: roles.map Role.counting ∧ launch.after table = launch.before table := by
  have nothing : missing (launch.before table) roles = [] :=
    List.filter_eq_nil_iff.mpr fun role known absent => of_decide_eq_true absent (whole role known)
  have counts : plan (launch.before table) roles = roles.map Role.counting := by
    rw [List.map_eq_flatMap]
    exact List.flatMap_congr fun role known => if_neg (not_not_intro (whole role known))
  constructor
  · exact counts ▸ resumes.planned
  · have empty : added = [] := List.map_eq_nil_iff.mp (List.prefix_nil.mp (nothing ▸ resumes.ordered))
    rw [resumes.grown, empty, List.append_nil]

end Launch

section

variable {table : Storage σ (List RoleRow)} {launches : Nat → Launch σ}

/-- Runs of the seeder, each of which finds the roles as the one before it left them. -/
structure Series (table : Storage σ (List RoleRow)) (launches : Nat → Launch σ) : Prop where
  ofRoles : ∀ n, (launches n).OfRoles table
  linked : ∀ n, (launches (n + 1)).before table = (launches n).after table

/-- However many runs there are, a name gets no second row. -/
theorem Series.count_le (series : Series table launches) (name : String) (n : Nat) :
    (names ((launches n).after table)).count name ≤ max ((names ((launches 0).before table)).count name) 1 := by
  induction n with
  | zero =>
    obtain ⟨added, resumes⟩ := (series.ofRoles 0).resumes
    exact resumes.count_le name
  | succ n ih =>
    obtain ⟨added, resumes⟩ := (series.ofRoles (n + 1)).resumes
    have step := resumes.count_le name
    rw [series.linked] at step
    omega

/-- Once there is every role, no run changes anything. -/
theorem Series.idle (series : Series table launches) {n m : Nat}
    (whole : ∀ role ∈ roles, role.name ∈ names ((launches n).after table)) (later : n < m) :
    (launches m).sending <+: roles.map Role.counting ∧ (launches m).after table = (launches n).after table := by
  have same (k : Nat) : (launches (n + k + 1)).before table = (launches n).after table := by
    induction k with
    | zero => exact series.linked n
    | succ k ih =>
      obtain ⟨added, resumes⟩ := (series.ofRoles (n + k + 1)).resumes
      exact (series.linked _).trans ((resumes.idle (ih ▸ whole)).2.trans ih)
  obtain ⟨k, rfl⟩ := Nat.exists_eq_add_of_lt later
  obtain ⟨added, resumes⟩ := (series.ofRoles (n + k + 1)).resumes
  rw [← same k]
  exact resumes.idle (same k ▸ whole)

/-- The seeder of the roles can be run again at any time. Whatever the table is like at first, and whichever statements
fail in whichever runs, every run ends with a result. It leaves the rows that it finds, adds rows of missing roles only,
and inserts no name that it finds. After a run without a failure there is every role, a role that was missing at first
has a single row, and all later runs send nothing but counts and leave the table as it is. -/
theorem run_resumes (series : Series table launches) :
    (∀ n, ∃ added, (launches n).Resumes table added ∧
      ∀ statement ∈ (launches n).sending, statement.1 = .text insertSql →
        ∃ role ∈ roles, statement = role.insertion ∧ role.name ∉ names ((launches n).before table)) ∧
    ∀ n result, (launches n).ended.1 = .ok result → result.success = true →
      (∀ role ∈ roles, role.name ∈ names ((launches n).after table) ∧
        (role.name ∉ names ((launches 0).before table) → (names ((launches n).after table)).count role.name = 1)) ∧
      ∀ m, n < m → (launches m).sending <+: roles.map Role.counting ∧
        (launches m).after table = (launches n).after table := by
  constructor
  · intro n
    obtain ⟨added, resumes⟩ := (series.ofRoles n).resumes
    refine ⟨added, resumes, ?_⟩
    intro statement sent inserts
    exact insertion_of_mem_plan (resumes.planned.mem sent) inserts
  · intro n result ended success
    obtain ⟨added, resumes⟩ := (series.ofRoles n).resumes
    have whole : ∀ role ∈ roles, role.name ∈ names ((launches n).after table) :=
      fun role known => resumes.complete ended success known
    refine ⟨?_, fun m later => series.idle whole later⟩
    intro role known
    refine ⟨whole role known, fun absent => ?_⟩
    have few := series.count_le role.name n
    have some := List.count_pos_iff.mpr (whole role known)
    rw [List.count_eq_zero.mpr absent] at few
    omega

end

/-! An engine that stores the roles. -/

/-- The roles as an engine stores them: the rows that the running transaction sees, those that the last one saved, the
number that the last statement counted, and the complaints that the next statements meet. -/
structure RoleEngine where
  rows : List RoleRow := []
  saved : List RoleRow := []
  found : Nat := 0
  complaints : List (Option EngineFault) := []

namespace RoleEngine

/-- Does what a statement says, if it is about the roles. -/
def answer (engine : RoleEngine) : Value → List Value → Answer × RoleEngine
  | .text word, [.text name] =>
    if word = countSql then ({ columns := ["count"] }, { engine with found := (names engine.rows).count name })
    else ({}, engine)
  | .text word, [.text name, description] =>
    if word = insertSql then
      ({}, { engine with rows := engine.rows ++ [⟨⟨name, description⟩, engine.rows.length + 1⟩] })
    else ({}, engine)
  | _, _ => ({}, engine)

/-- Meets the next complaint, or does what a statement says. -/
def execute (sql : Value) (params : List Value) (engine : RoleEngine) : Except EngineFault Answer × RoleEngine :=
  match engine.complaints with
  | some fault :: rest => (.error fault, { engine with rows := engine.saved, complaints := rest })
  | none :: rest =>
    (.ok (answer { engine with complaints := rest } sql params).1, (answer { engine with complaints := rest } sql params).2)
  | [] => (.ok (answer engine sql params).1, (answer engine sql params).2)

def driver : Driver RoleEngine where
  connect engine := (.ok (), engine)
  setup _ engine := (.ok (), engine)
  openCursor _ engine := (.ok (), engine)
  execute := execute
  fetchAll engine := (.ok [[.int engine.found]], engine)
  commit engine := (.ok (), { engine with saved := engine.rows })
  rollback engine := { engine with rows := engine.saved }

def table : Storage RoleEngine (List RoleRow) where
  current := rows
  saved := saved

theorem driver_execute (sql : Value) (params : List Value) (engine : RoleEngine) :
    driver.execute sql params engine = execute sql params engine := rfl

/-- What holds of a statement that goes well holds whatever complaints are planned. -/
theorem executes_answer {sql : Value} {params : List Value} {effect : Answer → List RoleRow → List RoleRow → Prop}
    (effects : ∀ engine, (answer engine sql params).2.saved = engine.saved ∧
      effect (answer engine sql params).1 engine.rows (answer engine sql params).2.rows) :
    table.Executes driver sql params effect := by
  intro engine settled
  rw [driver_execute]
  unfold execute
  rcases engine.complaints with - | ⟨- | fault, rest⟩
  · exact effects engine
  · exact effects { engine with complaints := rest }
  · exact ⟨rfl, fun _ => rfl⟩

theorem answer_count (name : String) (engine : RoleEngine) : answer engine (.text countSql) [.text name] =
    ({ columns := ["count"] }, { engine with found := (names engine.rows).count name }) := by
  simp only [answer, ↓reduceIte]

theorem answer_insert (name : String) (description : Value) (engine : RoleEngine) :
    answer engine (.text insertSql) [.text name, description] =
      ({}, { engine with rows := engine.rows ++ [⟨⟨name, description⟩, engine.rows.length + 1⟩] }) := by
  simp only [answer, ↓reduceIte]

/-- What the counting statement finds is what is fetched after it. -/
theorem count_found {name : String} {engine executed after : RoleEngine} {reply : Answer} {cells : List (List Value)}
    (counting : driver.execute (.text countSql) [.text name] engine = (.ok reply, executed))
    (fetch : driver.fetchAll executed = (.ok cells, after)) : cells = [[.int ((names engine.rows).count name)]] := by
  rw [driver_execute] at counting
  unfold execute at counting
  rcases planned : engine.complaints with - | ⟨- | fault, rest⟩
  · rw [planned, answer_count] at counting
    cases counting
    cases fetch
    rfl
  · rw [planned, answer_count] at counting
    cases counting
    cases fetch
    rfl
  · rw [planned] at counting
    cases counting

theorem keepsRoles {db : Database RoleEngine} (same : db.driver = driver) : KeepsRoles db table where
  connect := by
    rw [same]
    exact fun _ _ => ⟨rfl, rfl⟩
  setup _ := by
    rw [same]
    exact fun _ _ => ⟨rfl, rfl⟩
  openCursor _ := by
    rw [same]
    exact fun _ _ => ⟨rfl, rfl⟩
  fetchAll := by
    rw [same]
    exact fun _ _ => ⟨rfl, rfl⟩
  commit engine := by
    rw [same]
    exact ⟨rfl, rfl⟩
  rollback engine := by
    rw [same]
    exact ⟨rfl, rfl⟩
  count name := by
    rw [same]
    refine executes_answer fun engine => ?_
    rw [answer_count]
    exact ⟨rfl, rfl, rfl⟩
  counted := by
    intro name engine reply executed cells after settled counting fetch
    rw [same] at counting fetch
    exact count_found counting fetch
  insert name description := by
    rw [same]
    refine executes_answer fun engine => ?_
    rw [answer_insert]
    exact ⟨rfl, rfl, _, rfl⟩

end RoleEngine

/-- A folder with the seeder of the roles. -/
def roleTree : Tree File :=
  { nodes := [(["seeds"], .folder), (["seeds", "RoleSeeder.py"], .file (.module Bundled.roleSeeder))] }

/-- A complaint about a statement. -/
def refusal : EngineFault := { kind := .operational, message := "database is locked" }

/-- Runs on a table with one of the roles. The first insertion of the first run is refused. -/
def trials : Nat → Launch RoleEngine
  | 0 =>
    let rows : List RoleRow := [⟨⟨"editor", .null⟩, 7⟩]
    { db := { kind := .sqlite, config := {}, now := ⟨⟨2025, 1, 1⟩, ⟨0, 0, 0, 0, none⟩⟩, driver := RoleEngine.driver },
      tree := roleTree, folder := seeds, shown := "seeds", target := none,
      start := { engine := { rows, saved := rows, complaints := [none, some refusal] } } }
  | n + 1 => { trials n with start := (trials n).ended.2 }

theorem trials_same (n : Nat) : (trials n).db = (trials 0).db ∧ (trials n).tree = roleTree ∧ (trials n).folder = seeds ∧
    (trials n).target = none := by
  induction n with
  | zero => exact ⟨rfl, rfl, rfl, rfl⟩
  | succ n ih => exact ih

theorem trials_ofRoles (n : Nat) : (trials n).OfRoles RoleEngine.table := by
  obtain ⟨db, tree, folder, target⟩ := trials_same n
  have discovered : discover roleTree seeds = .ok [roleFile seeds] :=
    discover_seeds ["RoleSeeder.py"] rfl (by decide +kernel) (by decide)
  have settled : RoleEngine.table.Settled (trials n).start.engine := by
    cases n with
    | zero => rfl
    | succ n =>
      obtain ⟨added, resumes⟩ := (trials_ofRoles n).resumes
      exact resumes.settled
  constructor
  case keeps => exact RoleEngine.keepsRoles (by rw [db]; rfl)
  case settled => exact settled
  case only =>
    rw [tree, folder, target]
    exact ⟨_, discovered, rfl⟩
  case bundled =>
    rw [tree, folder]
    rfl

/-- Of the roles the editor is there at first. The first run is refused the insertion of the other one, which the second
run makes up for; all later runs only count. -/
theorem run_resumes_trials :
    names ((trials 0).before RoleEngine.table) = ["editor"] ∧
    (trials 0).ended.1 = .ok { errors := [("RoleSeeder", Report.genericMessage)] } ∧
    (trials 1).ended.1 = .ok { ran := ["RoleSeeder"] } ∧
    (names ((trials 1).after RoleEngine.table)).count "admin" = 1 ∧
    ∀ m, 1 < m → (trials m).sending <+: roles.map Role.counting ∧
      (trials m).after RoleEngine.table = (trials 1).after RoleEngine.table := by
  obtain ⟨fault, t, u, first, told, second⟩ : ∃ fault t u, on (trials 0).routine (trials 0).start = (.error fault, t) ∧
      fault.text = Report.genericMessage ∧
      on (trials 1).routine (t.noted (.seedFailed "RoleSeeder" Report.genericMessage)) = (.ok (), u) := ⟨_, _, _, rfl, rfl, rfl⟩
  have failed := (trials_ofRoles 0).ended_eq
  rw [first] at failed
  dsimp only at failed
  rw [told] at failed
  have start : (trials 1).start = t.noted (.seedFailed "RoleSeeder" Report.genericMessage) := congrArg Prod.snd failed
  have went := (trials_ofRoles 1).ended_eq
  rw [start, second] at went
  have ended : (trials 1).ended.1 = .ok { ran := ["RoleSeeder"] } := congrArg Prod.fst went
  obtain ⟨-, rested⟩ := run_resumes ⟨trials_ofRoles, fun _ => rfl⟩
  obtain ⟨whole, later⟩ := rested 1 _ ended rfl
  refine ⟨rfl, congrArg Prod.fst failed, ended, ?_, later⟩
  exact (whole _ List.mem_cons_self).2 (by decide)

end DataLayer.Seed
