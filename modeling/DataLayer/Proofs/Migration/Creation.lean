import DataLayer.Proofs.Database.Acceptance
import DataLayer.Proofs.Migration.Announcement
import DataLayer.Proofs.Source.Template

/-! New migrations. The file of one is found by its path, and loaded as the class that it is named by; main
statement: a new migration is announced exactly when its year has four digits and its letters are basic ones, and
then a run on an engine that accepts everything applies and records it, unless no module can define its class. -/

namespace DataLayer.Migration

open DataLayer.Action DataLayer.Database DataLayer.Script DataLayer.Source DataLayer.Text LedgerTable

variable {σ : Type} {db : Database σ} {table : LedgerTable σ} {calm : σ → Prop} {tree after : Tree File}
  {name folder : Value} {word file : String} {dir path : Path} {now : Moment} {s t : Session σ}

theorem usableName_ok (named : usableName name = .ok word) : isIdentifier word = true := by
  unfold usableName at named
  split at named
  · cases named
  split at named
  next usable =>
    cases named
    exact (Bool.and_eq_true_iff.mp usable).1
  next => cases named

theorem usableName_text (usable : isUsableName word = true) : usableName (.text word) = .ok word :=
  (if_pos usable : (if isUsableName word then Except.ok word else _) = _)

/-- A file is written where nothing stands. -/
theorem writeFile_ok (written : writeFile tree dir word now = (.ok path, after)) :
    path = dir.child (fileName now.stamp word) ∧ tree.look path = .ok none ∧
      ∃ place, tree.locate path = some place ∧ after = tree.put place (.file (.template word)) := by
  unfold writeFile at written
  dsimp only at written
  generalize dir.child (fileName now.stamp word) = target at written ⊢
  split at written
  next => cases written
  next => cases written
  next looking =>
    split at written
    next => cases written
    next place located =>
      cases written
      exact ⟨rfl, looking, place, located, rfl⟩

/-- A new migration is made where its path leads to a free place. -/
theorem create_free {made : Tree File} {place : Place} (named : usableName name = .ok word)
    (placed : pathOf folder = .ok dir) (making : tree.makeFolder dir = .ok made)
    (spelt : dir.child (fileName now.stamp word) = path) (looking : made.look path = .ok none)
    (located : made.locate path = some place) :
    create tree name folder now = (.ok path, made.put place (.file (.template word))) := by
  unfold create writeFile
  rw [named, placed]
  dsimp only
  rw [making]
  dsimp only
  rw [spelt, looking, located]

/-- The file of a new migration is found by its path and listed, and the tree stays sound. -/
theorem create_ok (sound : tree.Sound) (clock : now.OnClock) (named : usableName name = .ok word)
    (placed : pathOf folder = .ok dir) (created : create tree name folder now = (.ok path, after)) :
    path = dir.child (fileName now.stamp word) ∧ after.Sound ∧ after.find? path = some (.file (.template word)) ∧
      ∃ names, after.listing dir = .ok names ∧ fileName now.stamp word ∈ names := by
  unfold create at created
  rw [named, placed] at created
  dsimp only at created
  cases making : tree.makeFolder dir with
  | error misuse => rw [making] at created; cases created
  | ok made =>
    rw [making] at created
    obtain ⟨makes, clean, short⟩ := sound.makeFolder making
    obtain ⟨base, leads⟩ := makes.leads
    obtain ⟨own, looking, place, located, grown⟩ := writeFile_ok created
    rw [own] at looking located
    obtain ⟨absent, inside, found, listed⟩ := Tree.put_child leads clean short
      (isName_fileName clock (usableName_ok named)) looking located (File.template word)
    rw [own, grown]
    exact ⟨rfl, makes.sound.put absent inside (.file (.template word)), found, listed⟩

/-- All migrations in a folder are recorded, apart from one. -/
def OthersRecorded (tree : Tree File) (folder : Path) (file : String) (rows : List Entry) : Prop :=
  ∀ names, tree.listing folder = .ok names → ∀ other ∈ names, isFileName other = true → other ≠ file →
    isRecorded rows other = true

/-- Among files that are listed once each, one that alone is not recorded is pending alone. -/
theorem filter_alone {fresh : String → Bool} {files : List String} (distinct : files.Nodup)
    (others : ∀ other ∈ files, other ≠ file → fresh other = false) :
    files.filter fresh = if file ∈ files ∧ fresh file = true then [file] else [] := by
  split
  next alone =>
    refine List.perm_singleton.mp ((List.perm_ext_iff_of_nodup (distinct.filter _) (List.nodup_singleton file)).mpr
      fun other => ?_)
    rw [List.mem_filter, List.mem_singleton]
    constructor
    · rintro ⟨member, unrecorded⟩
      by_contra different
      rw [others other member different] at unrecorded
      cases unrecorded
    · rintro rfl
      exact alone
  next none =>
    refine List.filter_eq_nil_iff.mpr fun other member unrecorded => none ?_
    by_cases same : other = file
    · exact same ▸ ⟨member, unrecorded⟩
    · rw [others other member same] at unrecorded
      cases unrecorded

/-- The one file that is not recorded is announced if it has a name that migrations are found by. -/
theorem discover_alone (distinct : tree.Distinct) {names : List String} (listed : tree.listing dir = .ok names)
    (member : file ∈ names) {rows : List Entry} (others : OthersRecorded tree dir file rows) :
    ∃ files, discover tree dir = .ok files ∧ (files.filter fun other => !isRecorded rows other) =
      if isFileName file && !isRecorded rows file then [file] else [] := by
  have discovered : discover tree dir = .ok (Tree.sortedNames isFileName names) := by
    rw [discover_eq, listed]
    rfl
  refine ⟨_, discovered, ?_⟩
  have fresh : ∀ other ∈ Tree.sortedNames isFileName names, other ≠ file → (!isRecorded rows other) = false := by
    intro other present different
    obtain ⟨present, named⟩ := Tree.mem_sortedNames.mp present
    rw [others names listed other present named different]
    rfl
  have alone := filter_alone (discover_nodup distinct discovered) fresh
  simpa only [Tree.mem_sortedNames, member, true_and, Bool.and_eq_true] using alone

/-- The ledger can be read where everything is accepted. -/
theorem records_willing (keeps : KeepsLedger db table) (accepts : db.driver.Accepts calm) (willing : db.Willing calm s)
    (settled : table.Settled s.engine) :
    ∃ found t, on (records db) s = (.ok found, t) ∧ t.held = true ∧ calm t.engine := by
  obtain ⟨statement, t, ran, opened⟩ := run_willing accepts willing (.text Ledger.selectSql) []
  obtain ⟨ordered, -, rows⟩ := run_select_rows keeps settled ran
  refine ⟨ordered.map Entry.record, t, ?_, opened⟩
  rw [on_records, ran]
  dsimp only
  rw [rows, recordOf_rows]
  rfl

/-- Creating a table, as a step. -/
theorem on_createStep (db : Database σ) (table : Value) (columns : List BlueprintStep) (s : Session σ) :
    on (SchemaStep.performAll db [.create table columns]) s =
      ((on (Schema.create db table (BlueprintStep.describe (.bool true) columns)) s).1.map fun _ => (),
        (on (Schema.create db table (BlueprintStep.describe (.bool true) columns)) s).2) := by
  unfold SchemaStep.performAll SchemaStep.performAll SchemaStep.perform
  simp only [on_bind]
  rcases on (Schema.create db table (BlueprintStep.describe (.bool true) columns)) s with ⟨fault | made, t⟩ <;> rfl

/-- Making the table of a new migration leaves the ledger. -/
def MakesApart (db : Database σ) (table : LedgerTable σ) (word : String) : Prop :=
  ∀ sql, Schema.compile db.dialect (.text (tableNameFor word)) true
      (BlueprintStep.describe (.bool true) templateColumns) = .ok (some sql) →
    table.Executes db.driver (.text sql) [] Reads

/-- A run with a single pending file attempts it, and does nothing else. -/
theorem applyPending_alone (keeps : KeepsLedger db table) {found : List Record} {files : List String}
    (settled : table.Settled s.engine) (readable : on (records db) s = (.ok found, t))
    (plain : ∀ entry ∈ table.rows s.engine, memberComplaint? entry.migration = none)
    (discovered : discover tree dir = .ok files)
    (alone : (files.filter fun other => !isRecorded (table.rows s.engine) other) = [file])
    (harmless : Harmless db table tree dir file) :
    ∃ skipped result u, Attempt db tree dir file t result u ∧
      match result with
      | .ok () => on (applyPending db tree dir) s = (.ok { applied := [file], skipped }, u) ∧
          Appends (.text file) (table.rows s.engine) (table.rows u.engine)
      | .error fault => table.rows u.engine = table.rows s.engine ∧ (fault.escapes = false →
          on (applyPending db tree dir) s = (.ok { skipped, errors := [(file, fault.text)] }, u)) := by
  obtain ⟨known, reading⟩ := knownNames_ok keeps settled readable plain
  obtain ⟨read, knows⟩ := knownNames_ledger keeps settled
  obtain ⟨-, members⟩ := knows reading
  rw [reading] at read
  obtain ⟨settled', rows⟩ := read
  rw [on_applyPending, reading, discovered]
  obtain ⟨applied, rest, u, split, applies, ended⟩ := applyFiles_runs db tree dir known {} files t
  simp only [members, alone] at split
  cases applied with
  | nil =>
    cases split
    cases applies
    obtain ⟨before, after, fault, v, -, -, attempt, ended⟩ := ended
    have kept := (attempt_ledger keeps harmless settled' attempt).2
    exact ⟨_, _, v, attempt, kept.trans rows, fun quiet => by rw [quiet] at ended; exact ended⟩
  | cons first more =>
    obtain ⟨rfl, none⟩ := List.cons.inj split
    obtain ⟨rfl, rfl⟩ := List.append_eq_nil_iff.mp none.symm
    cases applies with
    | cons attempt later =>
      cases later
      have appends := (attempt_ledger keeps harmless settled' attempt).2
      rw [rows] at appends
      exact ⟨_, _, u, attempt, ended, appends⟩

theorem harmless_of_template (keeps : KeepsLedger db table) (apart : MakesApart db table word)
    (loading : ∀ definition, instantiate tree (dir.child file) = .ok definition → definition.up = some (templateUp word)) :
    Harmless db table tree dir file := by
  intro definition loaded s settled
  rw [loading definition loaded, Option.getD_some, templateUp, on_createStep]
  exact (create_ledger keeps apart settled).same

/-- Where everything is accepted, an attempt at the file of a new migration fails only if its class is not loaded. -/
theorem attempt_template (accepts : db.driver.Accepts calm) (held : s.held = true) (quiet : calm s.engine)
    {definition : ClassValue} {fault : Fault} (loading : instantiate tree (dir.child file) = .ok definition)
    (template : definition.up = some (templateUp word)) : ¬ Attempt db tree dir file s (.error fault) t := by
  obtain ⟨sql, compiled⟩ := compile_template db.dialect (tableNameFor_solid word)
  obtain ⟨u, made, held, quiet⟩ := create_willing accepts (willing_of_held (s := bound file s) quiet held) compiled
  have changed : on (SchemaStep.performAll db (definition.up.getD [])) (bound file s) = (.ok (), u) := by
    rw [template, Option.getD_some, templateUp, on_createStep, made]
    rfl
  intro attempt
  cases attempt with
  | unloaded failing =>
    rw [loading] at failing
    cases failing
  | undone loaded changing =>
    cases Except.ok.inj (loading.symm.trans loaded)
    rw [changed] at changing
    cases changing
  | unrecorded loaded changing recording =>
    cases Except.ok.inj (loading.symm.trans loaded)
    rw [changed] at changing
    cases changing
    obtain ⟨statement, v, ran, -⟩ := run_willing accepts (willing_of_held quiet held) (.text Ledger.insertSql)
      [.text file, .text db.now.ledgerText]
    rw [on_recordFile, ran] at recording
    cases recording

/-- A run with a new migration as its single pending file applies and records it where everything is accepted,
unless no module can define its class; such a run fails with a complaint about the file and records nothing. -/
theorem applyPending_template (keeps : KeepsLedger db table) {records : List Record} {files : List String}
    (settled : table.Settled s.engine) (readable : on (Migration.records db) s = (.ok records, t))
    (plain : ∀ entry ∈ table.rows s.engine, memberComplaint? entry.migration = none)
    (discovered : discover tree dir = .ok files)
    (alone : (files.filter fun other => !isRecorded (table.rows s.engine) other) = [file])
    (accepts : db.driver.Accepts calm) (held : t.held = true) (quiet : calm t.engine)
    (apart : MakesApart db table word) (basic : isBasic word = true)
    (found : tree.find? (dir.child file) = some (.file (.template word)))
    (ending : ".py".toList.isSuffixOf (dir.child file).name.toList = true) :
    ∃ skipped u, if isDefinable word then
        on (applyPending db tree dir) s = (.ok { applied := [file], skipped }, u) ∧
          Appends (.text file) (table.rows s.engine) (table.rows u.engine)
      else
        (∃ complaint, on (applyPending db tree dir) s = (.ok { skipped, errors := [(file, complaint)] }, u)) ∧
          table.rows u.engine = table.rows s.engine := by
  cases definable : isDefinable word with
  | true =>
    have loading := instantiate_template basic definable found ending
    have template {definition : ClassValue} (loaded : instantiate tree (dir.child file) = .ok definition) :
        definition.up = some (templateUp word) := by
      rw [loading] at loaded
      cases loaded
      rfl
    obtain ⟨skipped, result, u, attempt, ended⟩ := applyPending_alone keeps settled readable plain discovered alone
      (harmless_of_template keeps apart fun _ => template)
    cases result with
    | ok nothing => exact ⟨skipped, u, ended⟩
    | error fault => exact absurd attempt (attempt_template accepts held quiet loading (template loading))
  | false =>
    obtain ⟨report, loading⟩ := instantiate_undefinable definable found ending
    have unloaded (definition : ClassValue) : instantiate tree (dir.child file) ≠ .ok definition := by
      rw [loading]
      exact nofun
    obtain ⟨skipped, result, u, attempt, ended⟩ := applyPending_alone keeps settled readable plain discovered alone
      fun loaded => absurd loaded (unloaded _)
    cases attempt with
    | unloaded failing =>
      cases Except.error.inj (loading.symm.trans failing)
      obtain ⟨kept, ended⟩ := ended
      exact ⟨skipped, _, ⟨_, ended rfl⟩, kept⟩
    | undone loaded => exact absurd loaded (unloaded _)
    | unrecorded loaded => exact absurd loaded (unloaded _)
    | applied loaded => exact absurd loaded (unloaded _)

/-- In a folder whose other migrations are recorded, a new migration is announced exactly when its year has four
digits and its letters are basic ones. Where everything is accepted, a run then applies and records it, unless no
module can define its class; such a run fails with a complaint about this file and records nothing. -/
theorem create_announced (sound : tree.Sound) (clock : now.OnClock) (named : usableName name = .ok word)
    (placed : pathOf folder = .ok dir) (created : create tree name folder now = (.ok path, after))
    (keeps : KeepsLedger db table) (settled : table.Settled s.engine)
    (plain : ∀ entry ∈ table.rows s.engine, memberComplaint? entry.migration = none)
    (others : OthersRecorded after dir (fileName now.stamp word) (table.rows s.engine)) :
    let file := fileName now.stamp word
    path = dir.child file ∧
      (∀ found t, on (records db) s = (.ok found, t) → on (pending db after dir) s =
        (.ok (if isFindable now word && !isRecorded (table.rows s.engine) file then [file] else []), t)) ∧
      (db.driver.Accepts calm → db.Willing calm s → MakesApart db table word →
        isFindable now word = true → isRecorded (table.rows s.engine) file = false → ∃ skipped t,
          if isDefinable word then
            on (applyPending db after dir) s = (.ok { applied := [file], skipped }, t) ∧
              Appends (.text file) (table.rows s.engine) (table.rows t.engine)
          else
            (∃ complaint, on (applyPending db after dir) s = (.ok { skipped, errors := [(file, complaint)] }, t)) ∧
              table.rows t.engine = table.rows s.engine) := by
  intro file
  obtain ⟨own, sound', found, names, listed, member⟩ := create_ok sound clock named placed created
  have identifier := usableName_ok named
  obtain ⟨files, discovered, alone⟩ := discover_alone sound'.distinct listed member others
  rw [isFileName_fileName clock identifier] at alone
  refine ⟨own, fun records t readable => ?_, fun accepts willing apart findable fresh => ?_⟩
  · rw [pending_of_readable keeps settled readable plain discovered, alone]
  · obtain ⟨rows, t, readable, held, quiet⟩ := records_willing keeps accepts willing settled
    have basic : isBasic word = true := (Bool.and_eq_true_iff.mp findable).2
    have ending : ".py".toList.isSuffixOf (dir.child file).name.toList = true := by
      rw [Path.name_child (isName_fileName clock identifier)]
      exact isSuffixOf_fileName now.stamp word
    rw [own] at found
    rw [findable, fresh] at alone
    exact applyPending_template keeps settled readable plain discovered alone accepts held quiet apart basic found ending

/-- A migration that creates a table, in a folder with one that was applied before. -/
theorem create_announced_second :
    let first := "2025_01_01_000000_first.py"
    let second := "2025_01_02_030405_CreateUsersTable.py"
    let tree := (({} : Tree File).put ["migrations"] .folder).put ["migrations", first] (.file (singleClass [] []))
    let after := tree.put ["migrations", second] (.file (.template "CreateUsersTable"))
    let dir : Path := { parts := ["migrations"] }
    let now : Moment := ⟨⟨2025, 1, 2⟩, ⟨3, 4, 5, 0, none⟩⟩
    let db : Database LedgerEngine := { kind := .sqlite, config := {}, now, driver := LedgerEngine.driver }
    let rows : List Entry := [⟨1, .text first, .null⟩]
    let s : Session LedgerEngine := { engine := { rows, saved := rows } }
    create tree (.text "CreateUsersTable") (.text "migrations") now = (.ok (dir.child second), after) ∧
      (∃ t, on (pending db after dir) s = (.ok [second], t)) ∧
      ∃ skipped t, on (applyPending db after dir) s = (.ok { applied := [second], skipped }, t) ∧
        Appends (.text second) rows t.engine.rows := by
  intro first second tree after dir now db rows s
  have named : usableName (.text "CreateUsersTable") = .ok "CreateUsersTable" := usableName_text (by decide +kernel)
  have placed : pathOf (.text "migrations") = .ok dir := rfl
  have stamped : fileName now.stamp "CreateUsersTable" = second := by decide
  have place : dir.child second = { parts := ["migrations", second] } :=
    show Path.child { parts := ["migrations"] } "2025_01_02_030405_CreateUsersTable.py" = _ by decide +kernel
  have created : create tree (.text "CreateUsersTable") (.text "migrations") now = (.ok (dir.child second), after) := by
    have there : tree.makeFolder dir = .ok tree := rfl
    have clean : Path.hasNull { parts := ["migrations", "2025_01_02_030405_CreateUsersTable.py"] } = false := by
      decide +kernel
    have short : ¬ Tree.longestPath <
        (Path.text { parts := ["migrations", "2025_01_02_030405_CreateUsersTable.py"] }).utf8ByteSize := by
      decide +kernel
    refine create_free named placed there (by rw [stamped]) ?_ (by rw [place]; rfl)
    rw [place]
    simp only [Tree.look, second, clean, short]
    rfl
  have sound : tree.Sound := (Tree.sound_empty.put rfl rfl _).put rfl rfl _
  have clock : now.OnClock := by constructor <;> decide
  have settled : LedgerEngine.ledger.Settled s.engine := rfl
  have others : OthersRecorded after dir (fileName now.stamp "CreateUsersTable") rows := by
    have listed : after.listing dir = .ok [first, second] := rfl
    rintro names found other member - different
    rw [listed] at found
    cases found
    rw [stamped] at different
    rcases List.mem_cons.mp member with rfl | member
    · simp [isRecorded, rows]
    · exact absurd (List.mem_singleton.mp member) different
  have plain : ∀ entry ∈ rows, memberComplaint? entry.migration = none := by
    intro entry member
    cases List.mem_singleton.mp member
    rfl
  have apart : MakesApart db LedgerEngine.ledger "CreateUsersTable" := fun sql _ =>
    LedgerEngine.executes_meet (LedgerEngine.answer_reads sql)
  have willing : db.Willing (fun engine => engine.complaints = []) s := ⟨rfl, rfl⟩
  have findable : isFindable now "CreateUsersTable" = true := by decide
  have fresh : isRecorded rows second = false := by simp [isRecorded, rows, first, second]
  have keeps : KeepsLedger db LedgerEngine.ledger := LedgerEngine.keepsLedger db rfl
  obtain ⟨-, announced, applied⟩ := create_announced sound clock named placed created keeps settled plain others
  rw [stamped] at announced applied
  obtain ⟨found, t, readable, -⟩ := records_willing keeps LedgerEngine.accepts willing settled
  refine ⟨created, ⟨t, ?_⟩, ?_⟩
  · rw [announced found t readable, findable]
    rw [show isRecorded (LedgerEngine.ledger.rows s.engine) second = false from fresh]
    rfl
  · obtain ⟨skipped, u, ended⟩ := applied LedgerEngine.accepts willing apart findable fresh
    exact ⟨skipped, u, ended⟩

/-- A name with an accent is taken, but no run finds the file. -/
theorem create_unannounced :
    let file := "2025_01_02_030405_Créer.py"
    let tree := ({} : Tree File).put ["migrations"] .folder
    let after := tree.put ["migrations", file] (.file (.template "Créer"))
    let dir : Path := { parts := ["migrations"] }
    let now : Moment := ⟨⟨2025, 1, 2⟩, ⟨3, 4, 5, 0, none⟩⟩
    let db : Database LedgerEngine := { kind := .sqlite, config := {}, now, driver := LedgerEngine.driver }
    let s : Session LedgerEngine := { engine := {} }
    create tree (.text "Créer") (.text "migrations") now = (.ok (dir.child file), after) ∧
      (on (pending db after dir) s).1 = .ok [] ∧
      (on (applyPending db after dir) s).1 = .ok {} ∧
      (on (applyPending db after dir) s).2.engine.rows = [] := by
  intro file tree after dir now db s
  have created : create tree (.text "Créer") (.text "migrations") now = (.ok (dir.child file), after) := by
    have there : tree.makeFolder dir = .ok tree := rfl
    have named : usableName (.text "Créer") = .ok "Créer" := usableName_text (by decide +kernel)
    have place : dir.child file = { parts := ["migrations", file] } :=
      show Path.child { parts := ["migrations"] } "2025_01_02_030405_Créer.py" = _ by decide +kernel
    have clean : Path.hasNull { parts := ["migrations", "2025_01_02_030405_Créer.py"] } = false := by decide +kernel
    have short : ¬ Tree.longestPath <
        (Path.text { parts := ["migrations", "2025_01_02_030405_Créer.py"] }).utf8ByteSize := by
      decide +kernel
    refine create_free named rfl there (congrArg _ (by decide)) ?_ (by rw [place]; rfl)
    rw [place]
    simp only [Tree.look, file, clean, short]
    rfl
  have discovered : discover after dir = .ok [] := by
    have listed : after.listing dir = .ok [file] := rfl
    have foreign : [file].filter isFileName = [] :=
      show ["2025_01_02_030405_Créer.py"].filter isFileName = [] by decide +kernel
    unfold discover
    rw [listed]
    change Except.ok (([file].filter isFileName).mergeSort _) = _
    rw [foreign, List.mergeSort_nil]
  have keeps : KeepsLedger db LedgerEngine.ledger := LedgerEngine.keepsLedger db rfl
  have settled : LedgerEngine.ledger.Settled s.engine := rfl
  obtain ⟨found, t, readable, -⟩ := records_willing keeps LedgerEngine.accepts ⟨rfl, rfl⟩ settled
  obtain ⟨known, reading⟩ := knownNames_ok keeps settled readable nofun
  obtain ⟨read, -⟩ := knownNames_ledger keeps settled
  rw [reading] at read
  rw [on_pending, on_applyPending, reading, discovered]
  exact ⟨created, rfl, rfl, read.2⟩

end DataLayer.Migration
