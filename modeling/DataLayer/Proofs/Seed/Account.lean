import DataLayer.Proofs.Script.Sent
import DataLayer.Proofs.Script.Visibility
import DataLayer.Proofs.Seed.Run
import DataLayer.Proofs.Source.Choice

/-! What a run over seeders comes to. The files have their turns one after the other, whatever became of the seeders
before; main statement: as long as no code in a file ends the program itself, the result tells of each of them once,
and what is sent is what they send, one after the other. -/

namespace DataLayer.Seed

open DataLayer.Action DataLayer.Database DataLayer.Script DataLayer.Source

variable {σ : Type} {db : Database σ} {tree : Tree File} {path : Path} {s t u : Session σ} {ending : Ending}

/-! What a seeder does. -/

section

variable {relation : Session σ → Session σ → Prop} [Progress relation]

theorem insertMissing_moves (serves : Serves db relation) (baseline : Baseline) (row : List (String × Value)) :
    Action.Moves relation (insertMissing db baseline row) := by
  refine moves_bind (Query.finish_moves serves _ _) fun ending => ?_
  split
  · exact moves_pure _
  · exact moves_bind (Query.finish_moves serves _ _) fun _ => moves_pure _

/-- What everything stays within that a step on a database can do, a seeder stays within. -/
theorem perform_moves (serves : Serves db relation) (routine : Routine) : Action.Moves relation (perform db routine) := by
  cases routine with
  | steps steps => exact moves_bind (DatabaseStep.performAll_moves serves steps) fun _ => moves_pure _
  | baseline baseline => exact moves_forM (insertMissing_moves serves baseline) _

end

theorem insertMissing_visible (db : Database σ) (baseline : Baseline) (row : List (String × Value)) :
    Visible (insertMissing db baseline row) := by
  refine visible_bind (Query.finish_visible db _ _) fun ending => ?_
  split
  · exact visible_pure _
  · exact visible_bind (Query.finish_visible db _ _) fun _ => visible_pure _

/-- What an instance of a class does. -/
def routineOf (definition : ClassValue) : Routine := definition.run.getD (.steps [])

/-- Holds when what a seeder does comes to raise something itself that no handler sees. Rows that are inserted raise
nothing. -/
def quits (db : Database σ) : Routine → Session σ → Bool
  | .steps steps, s => DatabaseStep.quitsAll db steps s
  | .baseline _, _ => false

theorem perform_visible {routine : Routine} {fault : Fault} (stays : quits db routine s = false)
    (failed : on (perform db routine) s = (.error fault, t)) : fault.escapes = false := by
  cases routine with
  | steps steps =>
    unfold perform at failed
    rw [on_bind] at failed
    rcases worked : on (DatabaseStep.performAll db steps) s with ⟨other | replies, after⟩
    · rw [worked] at failed
      cases failed
      exact DatabaseStep.performAll_visible stays worked
    · rw [worked] at failed
      cases failed
  | baseline baseline => exact visible_forM (insertMissing_visible db baseline) _ failed

/-- The ways in which the code in a file ends the program in its turn: by raising what no handler sees while the file is
loaded, while its seeder is made, or while the seeder runs. -/
inductive Quits (db : Database σ) (tree : Tree File) (path : Path) (s : Session σ) : Prop where
  | loading {text : ModuleText} {fault : Fault} (found : tree.find? path = some (.file (.module text)))
      (raised : text.failure = some fault) (loading : load tree path = .error fault) (escapes : fault.escapes = true)
  | making {bindings : Bindings} {definition : ClassValue} {fault : Fault} (loading : load tree path = .ok bindings)
      (own : seederOf? bindings path.stem = some definition) (raised : definition.refusal = some fault)
      (making : definition.instanceFault? = some fault) (escapes : fault.escapes = true)
  | running {bindings : Bindings} {definition : ClassValue} (loading : load tree path = .ok bindings)
      (own : seederOf? bindings path.stem = some definition) (made : definition.instanceFault? = none)
      (escapes : quits db (routineOf definition) s = true)

theorem instanceFault?_escapes {definition : ClassValue} {fault : Fault} (refused : definition.instanceFault? = some fault)
    (escapes : fault.escapes = true) : definition.refusal = some fault := by
  unfold ClassValue.instanceFault? at refused
  split at refused
  · exact refused
  · cases refused
    cases escapes

/-- The run goes on after every seeder that does not end the program itself. -/
theorem Attempt.survives (attempt : Attempt db tree path s ending t) (stays : ¬ Quits db tree path s) :
    ending.fatal? = none := by
  have survived {fault : Fault} (seen : ¬ fault.escapes = true) : (Ending.failed fault).fatal? = none := by
    simp [Ending.fatal?, seen]
  cases attempt with
  | unloaded loading =>
    refine survived fun escapes => stays ?_
    obtain ⟨text, found, raised⟩ := load_escapes loading escapes
    exact .loading found raised loading escapes
  | classless loading bare => rfl
  | @broken bindings definition fault t loading own running =>
    refine survived fun escapes => stays ?_
    unfold runClass at running
    cases refusal : definition.instanceFault? with
    | some other =>
      rw [refusal] at running
      cases running
      exact .making loading own (instanceFault?_escapes refusal escapes) refusal escapes
    | none =>
      rw [refusal] at running
      refine .running loading own refusal (Bool.of_not_eq_false fun calm => ?_)
      rw [perform_visible calm running] at escapes
      cases escapes
  | ran loading own running => rfl

/-! What a seeder sends. -/

/-- The seeder in a file, if it can be made. -/
def instance? (tree : Tree File) (path : Path) : Option ClassValue :=
  match load tree path with
  | .error _ => none
  | .ok bindings => (seederOf? bindings path.stem).filter fun definition => definition.instanceFault?.isNone

/-- The turn of one file: the session that it starts from, and what comes of its seeder. -/
structure Turn (σ : Type) where
  path : Path
  start : Session σ
  ending : Ending

/-- The name of the seeder whose turn it is. -/
def Turn.name (turn : Turn σ) : String := turn.path.stem

/-- The statements that the seeder of a turn sends, up to its end or its first failure. There are none when it cannot
be made. -/
def issued (db : Database σ) (tree : Tree File) (turn : Turn σ) : List (Value × List Value) :=
  match instance? tree turn.path with
  | some definition => sent (perform db (routineOf definition)) turn.start
  | none => []

/-- All that the engine is asked to execute in a turn is what the seeder sends. -/
theorem Attempt.sends (attempt : Attempt db tree path s ending t) :
    ∃ new, t.events = s.events ++ new ∧ executions new = issued db tree ⟨path, s, ending⟩ := by
  have runs {bindings : Bindings} {definition : ClassValue} (loading : load tree path = .ok bindings)
      (own : seederOf? bindings path.stem = some definition) :
      ∃ new, (on (runClass db definition) s).2.events = s.events ++ new ∧ executions new = issued db tree ⟨path, s, ending⟩ := by
    unfold issued instance? runClass
    dsimp only
    rw [loading]
    dsimp only
    rw [own, Option.filter_some]
    cases definition.instanceFault? with
    | some fault => exact ⟨[], (List.append_nil _).symm, rfl⟩
    | none =>
      obtain ⟨new, grown⟩ := perform_moves (serves_grows db) (routineOf definition) s
      exact ⟨new, grown, (sent_eq grown).symm⟩
  have idle (none : instance? tree path = none) :
      ∃ new, s.events = s.events ++ new ∧ executions new = issued db tree ⟨path, s, ending⟩ := by
    refine ⟨[], (List.append_nil _).symm, ?_⟩
    unfold issued
    dsimp only
    rw [none]
    rfl
  cases attempt with
  | unloaded loading =>
    apply idle
    unfold instance?
    rw [loading]
  | classless loading bare =>
    apply idle
    unfold instance?
    rw [loading]
    dsimp only
    rw [bare]
    rfl
  | broken loading own running =>
    have sends := runs loading own
    rwa [running] at sends
  | ran loading own running =>
    have sends := runs loading own
    rwa [running] at sends

/-! Turns in a row. -/

/-- The turns of files in a row, none of which ends the run. Each starts where the one before was noted. -/
inductive Course (db : Database σ) (tree : Tree File) : List Path → Session σ → List (Turn σ) → Session σ → Prop where
  | done {s : Session σ} : Course db tree [] s [] s
  | next {path : Path} {rest : List Path} {s t u : Session σ} {ending : Ending} {later : List (Turn σ)}
      (attempt : Attempt db tree path s ending t) (survived : ending.fatal? = none)
      (onward : Course db tree rest (t.noted (ending.notice path.stem)) later u) :
      Course db tree (path :: rest) s (⟨path, s, ending⟩ :: later) u

variable {files : List Path} {turns : List (Turn σ)}

theorem Course.paths (course : Course db tree files s turns u) : turns.map Turn.path = files := by
  induction course with
  | done => rfl
  | next attempt survived onward ih => exact congrArg _ ih

/-- None of some files ends the program when it has its turn. -/
def Stays (db : Database σ) (tree : Tree File) (files : List Path) (s : Session σ) : Prop :=
  ∀ {done path later turns t}, files = done ++ path :: later → Course db tree done s turns t → ¬ Quits db tree path t

theorem exists_course (stays : Stays db tree files s) : ∃ turns u, Course db tree files s turns u := by
  induction files generalizing s with
  | nil => exact ⟨[], s, .done⟩
  | cons path rest ih =>
    obtain ⟨ending, t, attempt⟩ := exists_attempt db tree path s
    have survived := attempt.survives (@stays [] path rest [] s rfl .done)
    have onward : Stays db tree rest (t.noted (ending.notice path.stem)) := by
      intro done other later turns u split course
      exact @stays (path :: done) other later _ u (congrArg _ split) (.next attempt survived course)
    obtain ⟨later, u, course⟩ := ih onward
    exact ⟨_, u, .next attempt survived course⟩

/-- What is sent in all turns is what their seeders send, one after the other. -/
theorem Course.sends (course : Course db tree files s turns u) :
    ∃ new, u.events = s.events ++ new ∧ executions new = turns.flatMap (issued db tree) := by
  induction course with
  | done => exact ⟨[], (List.append_nil _).symm, rfl⟩
  | next attempt survived onward ih =>
    obtain ⟨new, grown, sends⟩ := attempt.sends
    obtain ⟨more, grown', sends'⟩ := ih
    refine ⟨new ++ more, ?_, ?_⟩
    · rw [grown', ← List.append_assoc, ← grown]
      rfl
    · rw [executions_append, sends, sends', List.flatMap_cons]

/-! What a result tells. -/

/-- Holds of seeders that ran to their end. -/
def Ending.isRan : Ending → Bool
  | .ran => true
  | _ => false

/-- Holds of files without a seeder of their name. -/
def Ending.isSkipped : Ending → Bool
  | .skipped => true
  | _ => false

/-- What a seeder failed with. -/
def Ending.fault? : Ending → Option Fault
  | .failed fault => some fault
  | _ => none

/-- The result that tells of turns in a row. -/
def account (turns : List (Turn σ)) : RunResult where
  ran := (turns.filter fun turn => turn.ending.isRan).map Turn.name
  skipped := (turns.filter fun turn => turn.ending.isSkipped).map Turn.name
  errors := turns.filterMap fun turn => turn.ending.fault?.map fun fault => (turn.name, fault.text)

theorem keys_account (turns : List (Turn σ)) :
    Entries.keys (account turns).errors = (turns.filter fun turn => turn.ending.fault?.isSome).map Turn.name := by
  induction turns with
  | nil => rfl
  | cons turn rest ih =>
    unfold account Entries.keys at ih ⊢
    cases failed : turn.ending.fault? <;> simp_all

/-- What comes of one more turn is added to the result, as long as its name is new. -/
theorem account_append {before : List (Turn σ)} {turn : Turn σ} (fresh : turn.name ∉ before.map Turn.name) :
    account (before ++ [turn]) = (account before).add turn.name turn.ending := by
  have untold : turn.name ∉ Entries.keys (account before).errors := by
    rw [keys_account]
    exact fun member => fresh ((List.filter_sublist.map _).mem member)
  obtain ⟨path, start, ending⟩ := turn
  cases ending with
  | ran => simp [account, RunResult.add, Ending.isRan, Ending.isSkipped, Ending.fault?]
  | skipped => simp [account, RunResult.add, Ending.isRan, Ending.isSkipped, Ending.fault?]
  | failed fault =>
    unfold RunResult.add
    dsimp only
    rw [Entries.put_of_not_mem _ untold]
    simp [account, Ending.isRan, Ending.isSkipped, Ending.fault?]

/-- The result of a run tells of the turns that it took. -/
theorem on_foldlM_course (course : Course db tree files s turns u) (before : List (Turn σ))
    (distinct : ((before ++ turns).map Turn.name).Nodup) :
    on (files.foldlM (runFile db tree) (account before)) s = (.ok (account (before ++ turns)), u) := by
  induction course generalizing before with
  | done => rw [List.append_nil]; rfl
  | @next path rest s t u ending later attempt survived onward ih =>
    have fresh : Turn.name ⟨path, s, ending⟩ ∉ before.map Turn.name := by
      rw [List.map_append, List.map_cons] at distinct
      exact fun member => (List.nodup_middle.mp distinct).notMem (List.mem_append_left _ member)
    rw [List.append_cons] at distinct ⊢
    rw [on_foldlM_cons attempt, survived, ← ih _ distinct, account_append fresh]
    rfl

/-- A result that tells once of every one of some seeders: it ran, it was skipped, or it failed. Each list keeps their
order. -/
structure RunResult.Accounts (result : RunResult) (names : List String) : Prop where
  whole : (result.ran ++ result.skipped ++ Entries.keys result.errors).Perm names
  once : (result.ran ++ result.skipped ++ Entries.keys result.errors).Nodup
  ran : result.ran.Sublist names
  skipped : result.skipped.Sublist names
  failed : (Entries.keys result.errors).Sublist names

theorem account_perm (turns : List (Turn σ)) :
    ((account turns).ran ++ (account turns).skipped ++ Entries.keys (account turns).errors).Perm (turns.map Turn.name) := by
  rw [keys_account]
  unfold account
  dsimp only
  induction turns with
  | nil => exact .nil
  | cons turn rest ih =>
    obtain ⟨path, start, ending⟩ := turn
    cases ending with
    | ran => exact ih.cons path.stem
    | skipped =>
      rw [List.append_assoc] at ih ⊢
      exact List.perm_middle.trans (ih.cons path.stem)
    | failed fault => exact List.perm_middle.trans (ih.cons path.stem)

theorem account_accounts {turns : List (Turn σ)} (distinct : (turns.map Turn.name).Nodup) :
    (account turns).Accounts (turns.map Turn.name) where
  whole := account_perm turns
  once := (account_perm turns).nodup_iff.mpr distinct
  ran := List.filter_sublist.map _
  skipped := List.filter_sublist.map _
  failed := by
    rw [keys_account]
    exact List.filter_sublist.map _

/-! Runs for one seeder. -/

theorem runFile_congr {other : Tree File} (same : tree.find? path = other.find? path) (result : RunResult) :
    runFile db tree result path = runFile db other result path := by
  unfold runFile
  rw [load_congr same]

/-- Only one of some files with distinct names goes by its name. -/
theorem chosen_singleton (distinct : (files.map Path.stem).Nodup) (member : path ∈ files) :
    chosen (some path.stem) files = [path] := by
  obtain ⟨front, back, rfl⟩ := List.append_of_mem member
  have apart : path.stem ∉ (front ++ back).map Path.stem := by
    rw [List.map_append, List.map_cons] at distinct
    rw [List.map_append]
    exact (List.nodup_middle.mp distinct).notMem
  have none {row : List Path} (part : row ⊆ front ++ back) : row.filter (fun other => other.stem == path.stem) = [] := by
    refine List.filter_eq_nil_iff.mpr fun other inside same => ?_
    exact apart (List.mem_map.mpr ⟨other, part inside, beq_iff_eq.mp same⟩)
  have own : (path :: back).filter (fun other => other.stem == path.stem) =
      path :: back.filter fun other => other.stem == path.stem := List.filter_cons_of_pos (beq_self_eq_true path.stem)
  unfold chosen
  dsimp only
  rw [List.filter_append, own, none (List.subset_append_left _ _), none (List.subset_append_right _ _), List.nil_append]

theorem chosen_nil {name : String} (absent : ∀ path ∈ files, path.stem ≠ name) : chosen (some name) files = [] :=
  List.filter_eq_nil_iff.mpr fun path member same => absent path member (beq_iff_eq.mp same)

/-- A run without a target goes over all files, if there are any. -/
theorem on_run_all {folder : Path} (discovered : discover tree folder = .ok files) (shown : String) (s : Session σ) :
    on (run db tree folder shown none) s = on (files.foldlM (runFile db tree) {}) s := by
  unfold run
  rw [on_bind, discovered, on_check_ok]

/-- As long as no code in a file ends the program itself, a run over all seeders has a result, which tells of every
seeder once, whatever became of the others, and what it sends is what they send, one after the other. A run for one
seeder goes as if there were no other file in the folder; where there is no such seeder, the run is refused before
anything is sent, whatever stands in the files. -/
theorem run_accounts (db : Database σ) {tree : Tree File} {folder : Path} {files : List Path}
    (discovered : discover tree folder = .ok files) (distinct : (files.map Path.stem).Nodup) (shown : String)
    (s : Session σ) :
    (Stays db tree files s → ∃ turns u, Course db tree files s turns u ∧
      on (run db tree folder shown none) s = (.ok (account turns), u) ∧
      (account turns).Accounts (files.map Path.stem) ∧
      ((account turns).success = true ↔ (account turns).errors = []) ∧
      sent (run db tree folder shown none) s = turns.flatMap (issued db tree)) ∧
    (∀ path ∈ files, ∀ (other : Tree File) (shown' : String), discover other folder = .ok [path] →
      other.find? path = tree.find? path →
      on (run db tree folder shown (some path.stem)) s = on (run db other folder shown' none) s) ∧
    ∀ name, (∀ path ∈ files, path.stem ≠ name) → ∀ other : Tree File, discover other folder = .ok files →
      on (run db other folder shown (some name)) s = (.error (.report (unfound name shown)), s) := by
  refine ⟨fun stays => ?_, fun path member other shown' alone same => ?_, fun name absent other discovered' => ?_⟩
  · obtain ⟨turns, u, course⟩ := exists_course stays
    have names : turns.map Turn.name = files.map Path.stem := by
      rw [← course.paths, List.map_map]
      rfl
    have ran : on (run db tree folder shown none) s = (.ok (account turns), u) := by
      rw [on_run_all discovered]
      exact on_foldlM_course course [] (names ▸ distinct)
    obtain ⟨new, grown, sends⟩ := course.sends
    refine ⟨turns, u, course, ran, names ▸ account_accounts (names ▸ distinct), List.isEmpty_iff, ?_⟩
    rw [← sends]
    exact sent_eq (by rw [ran]; exact grown)
  · have found := chosen_singleton distinct member
    rw [on_run discovered (by rw [found]; exact List.cons_ne_nil _ _), found, on_run_all alone]
    rw [List.foldlM_cons, List.foldlM_cons, runFile_congr same.symm]
    rfl
  · exact on_run_unfound discovered' (chosen_nil absent) shown s

/-! A folder with two seeders. -/

section

/-- An engine that takes every statement. -/
def calm : Database Unit :=
  { kind := .sqlite, config := {}, now := ⟨⟨2025, 1, 1⟩, ⟨0, 0, 0, 0, none⟩⟩,
    driver := Access.setEngine (.ok ()) (.ok {}) }

/-- A folder of seeders. -/
def seeds : Path := { parts := ["seeds"] }

def bad : Path := { parts := ["seeds", "Bad.py"] }

def good : Path := { parts := ["seeds", "Good.py"] }

/-- Executes a statement. -/
def execution (sql : String) : DatabaseStep := .call { name := "execute", args := [.text sql] }

/-- A file with one seeder. -/
def seederFile (name : String) (steps : List DatabaseStep) : File :=
  .module { classes := [{ name, base := "Seeder", run := some (.steps steps) }] }

/-- The seeder in such a file. -/
def onlySeeder (path : Path) (name : String) (steps : List DatabaseStep) : ClassValue where
  serial := 3
  name
  home := some (.value (.text (moduleName path)))
  role := some .seeder
  run := some (.steps steps)

/-- The names that such a file binds. -/
def seederNames (path : Path) (name : String) (steps : List DatabaseStep) : Bindings :=
  Entries.put name (.class (onlySeeder path name steps)) (Bindings.initial (moduleName path))

theorem bindings_seederFile {name : String} (plain : Text.normalForm name = name) (path : Path)
    (steps : List DatabaseStep) : (seederFile name steps).bindings path = .ok (seederNames path name steps) := by
  have word : Text.normalForm "Seeder" = "Seeder" := by decide +kernel
  have base : Bindings.classOf (Bindings.initial (moduleName path)) (Text.normalForm "Seeder") = .ok (.root .seeder) := by
    rw [word]
    rfl
  have own : Bindings.called (Bindings.initial (moduleName path)) = .value (.text (moduleName path)) := rfl
  have extended : (ClassValue.root .seeder).extend 3 (.value (.text (moduleName path)))
      { name, base := "Seeder", run := some (.steps steps) } = onlySeeder path name steps := by
    unfold ClassValue.extend
    rw [plain]
    rfl
  have named : (onlySeeder path name steps).name = name := rfl
  simp only [File.bindings, seederFile, Bindings.ofModule, Bindings.addClasses, base, own, bind, Except.bind, extended,
    named]
  rfl

theorem seederOf?_seederNames (path : Path) (name : String) (steps : List DatabaseStep) :
    seederOf? (seederNames path name steps) name = some (onlySeeder path name steps) := by
  unfold seederOf? seederNames
  rw [Entries.get?_put, if_pos (beq_self_eq_true name)]
  rfl

/-- A folder with one seeder that executes a statement. -/
def single : Tree File :=
  { nodes := [(["seeds"], .folder), (["seeds", "Good.py"], .file (seederFile "Good" [execution "DELETE FROM b"]))] }

/-- The same folder with another seeder before it. -/
def pair (steps : List DatabaseStep) : Tree File :=
  { nodes := [(["seeds"], .folder), (["seeds", "Bad.py"], .file (seederFile "Bad" steps)),
      (["seeds", "Good.py"], .file (seederFile "Good" [execution "DELETE FROM b"]))] }

theorem stem_bad : bad.stem = "Bad" := by decide +kernel

theorem stem_good : good.stem = "Good" := by decide +kernel

theorem stems_pair : [bad, good].map Path.stem = ["Bad", "Good"] := by
  rw [List.map_cons, List.map_cons, stem_bad, stem_good, List.map_nil]

theorem discover_seeds {tree : Tree File} (names : List String) (listed : tree.listing seeds = .ok names)
    (named : names.filter isFileName = names) (sorted : names.Pairwise fun first second => decide (first ≤ second)) :
    discover tree seeds = .ok (names.map seeds.child) := by
  rw [discover_eq, listed]
  exact congrArg (fun names => Except.ok (names.map seeds.child)) (Tree.sortedNames_eq named sorted)

theorem discover_single : discover single seeds = .ok [good] :=
  discover_seeds ["Good.py"] rfl (by decide +kernel) (by decide)

variable (steps : List DatabaseStep)

theorem discover_pair : discover (pair steps) seeds = .ok [bad, good] :=
  discover_seeds ["Bad.py", "Good.py"] rfl (by decide +kernel) (by decide)

theorem load_bad : load (pair steps) bad = .ok (seederNames bad "Bad" steps) :=
  (load_plain (by decide +kernel) rfl _).mpr (bindings_seederFile (by decide +kernel) bad steps)

theorem load_good (tree : Tree File) (found : tree.find? good = single.find? good) :
    load tree good = .ok (seederNames good "Good" [execution "DELETE FROM b"]) := by
  rw [load_congr found]
  exact (load_plain (by decide +kernel) rfl _).mpr (bindings_seederFile (by decide +kernel) good _)

theorem own_bad : seederOf? (seederNames bad "Bad" steps) bad.stem = some (onlySeeder bad "Bad" steps) := by
  rw [stem_bad]
  exact seederOf?_seederNames bad "Bad" steps

theorem own_good : seederOf? (seederNames good "Good" steps) good.stem = some (onlySeeder good "Good" steps) := by
  rw [stem_good]
  exact seederOf?_seederNames good "Good" steps

theorem stays_seeder {tree : Tree File} {path : Path} {name : String}
    (loading : load tree path = .ok (seederNames path name steps))
    (own : seederOf? (seederNames path name steps) path.stem = some (onlySeeder path name steps))
    {s : Session Unit} (stays : DatabaseStep.quitsAll calm steps s = false) : ¬ Quits calm tree path s := by
  intro ends
  cases ends with
  | loading found raised failed escapes => cases loading.symm.trans failed
  | making loading' own' raised refusal escapes =>
    cases loading.symm.trans loading'
    cases own.symm.trans own'
    cases raised
  | running loading' own' made escapes =>
    cases loading.symm.trans loading'
    cases own.symm.trans own'
    cases stays.symm.trans escapes

/-- One seeder of two fails after its first statement. The other one runs, and the run for it alone goes as if it
were the only one. -/
theorem run_accounts_failing :
    let tree := pair [execution "DELETE FROM a", .raise "RuntimeError" (.text "boom")]
    let s : Session Unit := { engine := () }
    discover tree seeds = .ok [bad, good] ∧ ([bad, good].map Path.stem).Nodup ∧ Stays calm tree [bad, good] s ∧
    (∃ turns u, Course calm tree [bad, good] s turns u ∧
      on (run calm tree seeds "seeds" none) s = (.ok (account turns), u) ∧
      account turns = { ran := ["Good"], errors := [("Bad", "boom")] } ∧
      sent (run calm tree seeds "seeds" none) s = turns.flatMap (issued calm tree) ∧
      sent (run calm tree seeds "seeds" none) s = [(.text "DELETE FROM a", []), (.text "DELETE FROM b", [])]) ∧
    on (run calm tree seeds "seeds" (some "Good")) s = on (run calm single seeds "seeds" none) s ∧
    on (run calm tree seeds "seeds" (some "Other")) s = (.error (.report (unfound "Other" "seeds")), s) := by
  intro tree s
  have stays_bad (t : Session Unit) : ¬ Quits calm tree bad t := by
    refine stays_seeder _ (load_bad _) (own_bad _) (DatabaseStep.quitsAll_eq_false ?_ t)
    refine List.forall_mem_cons.mpr ⟨fun _ => rfl, List.forall_mem_singleton.mpr fun _ => ?_⟩
    unfold DatabaseStep.quits
    decide +kernel
  have stays_good (t : Session Unit) : ¬ Quits calm tree good t := by
    refine stays_seeder _ (load_good tree rfl) (own_good _) (DatabaseStep.quitsAll_eq_false ?_ t)
    exact List.forall_mem_singleton.mpr fun _ => rfl
  have stays : Stays calm tree [bad, good] s := by
    intro done path later turns t split course
    have member : path ∈ [bad, good] := split ▸ List.mem_append_right _ List.mem_cons_self
    rcases List.mem_pair.mp member with rfl | rfl
    · exact stays_bad t
    · exact stays_good t
  have distinct : ([bad, good].map Path.stem).Nodup := by
    rw [stems_pair]
    decide
  obtain ⟨t, v, fails, runs, executed⟩ : ∃ t v,
      Attempt calm tree bad s (.failed (.raised "RuntimeError" (.text "boom"))) t ∧
      Attempt calm tree good (t.noted (Ending.notice bad.stem (.failed (.raised "RuntimeError" (.text "boom"))))) .ran v ∧
      executions v.events = [(.text "DELETE FROM a", []), (.text "DELETE FROM b", [])] :=
    ⟨_, _, .broken (load_bad _) (own_bad _) rfl, .ran (load_good tree rfl) (own_good _) rfl, rfl⟩
  have ended : on (run calm tree seeds "seeds" none) s =
      (.ok { ran := ["Good"], errors := [("Bad", "boom")] }, v.noted (Ending.notice good.stem .ran)) := by
    rw [on_run_all (discover_pair _), on_foldlM_cons fails]
    change on ([good].foldlM (runFile calm tree) (RunResult.add {} bad.stem _)) _ = _
    rw [on_foldlM_cons runs, stem_bad, stem_good]
    rfl
  obtain ⟨every, one, other⟩ := run_accounts calm (discover_pair _) distinct "seeds" s
  obtain ⟨turns, u, course, ran, -, -, sends⟩ := every stays
  refine ⟨discover_pair _, distinct, stays, ⟨turns, u, course, ran, ?_, sends, ?_⟩, ?_, ?_⟩
  · exact Except.ok.inj (congrArg Prod.fst (ran.symm.trans ended))
  · rw [← executed]
    exact sent_eq (by rw [ended]; rfl)
  · exact stem_good ▸ one good (by decide) single "seeds" discover_single rfl
  · refine other "Other" ?_ tree (discover_pair _)
    rw [← List.forall_mem_map (P := fun stem => stem ≠ "Other"), stems_pair]
    decide

/-- Where a seeder ends the program itself, there is no result, and nothing is sent of what the other one sends when it
stands alone. -/
theorem run_accounts_quits :
    let tree := pair [.raise "SystemExit" (.text "done")]
    let s : Session Unit := { engine := () }
    discover tree seeds = .ok [bad, good] ∧ [bad, good].map Path.stem = ["Bad", "Good"] ∧
      on (run calm tree seeds "seeds" none) s = (.error (.raised "SystemExit" (.text "done")), s) ∧
      sent (run calm tree seeds "seeds" none) s = [] ∧
      sent (run calm single seeds "seeds" none) s = [(.text "DELETE FROM b", [])] := by
  intro tree s
  have quits : Attempt calm tree bad s (.failed (.raised "SystemExit" (.text "done"))) s := .broken (load_bad _) (own_bad _) rfl
  have ended : on (run calm tree seeds "seeds" none) s = (.error (.raised "SystemExit" (.text "done")), s) := by
    rw [on_run_all (discover_pair _), on_foldlM_cons quits]
    rfl
  obtain ⟨t, runs, sends⟩ : ∃ t, Attempt calm single good s .ran t ∧
      executions t.events = [(.text "DELETE FROM b", [])] := ⟨_, .ran (load_good single rfl) (own_good _) rfl, rfl⟩
  refine ⟨discover_pair _, stems_pair, ended, sent_nil (by rw [ended]), ?_⟩
  rw [← sends]
  apply sent_eq
  rw [on_run_all discover_single, on_foldlM_cons runs]
  rfl

end

end DataLayer.Seed
