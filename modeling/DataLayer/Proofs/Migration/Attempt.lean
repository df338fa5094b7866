import DataLayer.Migration.Runner
import DataLayer.Proofs.Migration.LedgerWork

/-! Applying files one after the other. An attempt at a file loads it, makes its changes and records
it, and fails with the first of these; main statement: a run applies the pending files up to the first
failed attempt, which is the last thing it does. -/

namespace DataLayer.Migration

open DataLayer.Action DataLayer.Script LedgerTable

variable {σ : Type} {db : Database σ} {table : LedgerTable σ} {tree : Tree Source.File} {folder : Path}

/-- A session whose log is told which file is worked on. -/
def bound (file : String) (s : Session σ) : Session σ :=
  { s with context := LogContext.bind [("migration", .text file)] s.context }

/-- A session whose log is not told any more which file is worked on. -/
def unbound (s : Session σ) : Session σ := { s with context := LogContext.unbind ["migration"] s.context }

/-- A session after a failure was noted, unless no handler sees it. -/
def complained (fault : Fault) (s : Session σ) : Session σ :=
  if fault.escapes then s else s.noted (.migrationFailed fault.text)

/-- The ways in which an attempt at a file can go, with what it ends with. -/
inductive Attempt (db : Database σ) (tree : Tree Source.File) (folder : Path) (file : String) (s : Session σ) :
    Except Fault Unit → Session σ → Prop where
  | unloaded {fault : Fault} (loading : instantiate tree (folder.child file) = .error fault) :
      Attempt db tree folder file s (.error fault) (unbound (complained fault (bound file s)))
  | undone {definition : Source.ClassValue} {fault : Fault} {t : Session σ}
      (loading : instantiate tree (folder.child file) = .ok definition)
      (changing : on (SchemaStep.performAll db (definition.up.getD [])) (bound file s) = (.error fault, t)) :
      Attempt db tree folder file s (.error fault) (unbound (complained fault t))
  | unrecorded {definition : Source.ClassValue} {fault : Fault} {t u : Session σ}
      (loading : instantiate tree (folder.child file) = .ok definition)
      (changing : on (SchemaStep.performAll db (definition.up.getD [])) (bound file s) = (.ok (), t))
      (recording : on (recordFile db file) t = (.error fault, u)) :
      Attempt db tree folder file s (.error fault) (unbound (complained fault u))
  | applied {definition : Source.ClassValue} {t u : Session σ}
      (loading : instantiate tree (folder.child file) = .ok definition)
      (changing : on (SchemaStep.performAll db (definition.up.getD [])) (bound file s) = (.ok (), t))
      (recording : on (recordFile db file) t = (.ok (), u)) :
      Attempt db tree folder file s (.ok ()) (unbound (u.noted .applied))

/-- What becomes of a file's work: a failure is noted and passed on. -/
def reported (result : Except Fault Unit) : StateM (Session σ) (Except Fault Unit) := do
  match result with
  | .ok () => return .ok ()
  | .error fault =>
    if !fault.escapes then Session.note (.migrationFailed fault.text)
    return .error fault

theorem reported_apply (result : Except Fault Unit) (s : Session σ) :
    reported result s = match result with
      | .ok () => (.ok (), s)
      | .error fault => (.error fault, complained fault s) := by
  cases result with
  | ok nothing => rfl
  | error fault =>
    unfold reported complained
    dsimp only
    cases fault.escapes with
    | true => rfl
    | false => rfl

theorem withLogField_apply {α : Type} (name : String) (value : Value) (work : StateM (Session σ) α) (s : Session σ) :
    withLogField name value work s =
      let ended := work { s with context := LogContext.bind [(name, value)] s.context }
      (ended.1, { ended.2 with context := LogContext.unbind [name] ended.2.context }) := rfl

theorem reported_bind (work : Action σ Unit) (file : String) (s : Session σ) :
    withLogField "migration" (.text file) (do reported (← work.run)) s = match on work (bound file s) with
      | (.ok (), t) => (.ok (), unbound t)
      | (.error fault, t) => (.error fault, unbound (complained fault t)) := by
  rw [withLogField_apply]
  change ((reported (on work (bound file s)).1 (on work (bound file s)).2).1,
    unbound (reported (on work (bound file s)).1 (on work (bound file s)).2).2) = _
  rcases on work (bound file s) with ⟨result, t⟩
  rw [reported_apply]
  cases result <;> rfl

theorem tryFile_eq (db : Database σ) (tree : Tree Source.File) (folder : Path) (file : String) (s : Session σ) :
    tryFile db tree folder file s = match on (applyFile db tree folder file) (bound file s) with
      | (.ok (), t) => (.ok (), unbound t)
      | (.error fault, t) => (.error fault, unbound (complained fault t)) :=
  reported_bind (applyFile db tree folder file) file s

/-- A file is loaded, its changes are made, and it is recorded; the first of these that fails is the last. -/
theorem on_applyFile (db : Database σ) (tree : Tree Source.File) (folder : Path) (file : String) (s : Session σ) :
    on (applyFile db tree folder file) s = match instantiate tree (folder.child file) with
      | .error fault => (.error fault, s)
      | .ok definition => match on (SchemaStep.performAll db (definition.up.getD [])) s with
        | (.error fault, t) => (.error fault, t)
        | (.ok (), t) => match on (recordFile db file) t with
          | (.error fault, u) => (.error fault, u)
          | (.ok (), u) => (.ok (), u.noted .applied) := by
  unfold applyFile
  rw [on_bind, on_ofExcept]
  cases instantiate tree (folder.child file) with
  | error fault => rfl
  | ok definition =>
    dsimp only
    rw [on_bind]
    rcases on (SchemaStep.performAll db (definition.up.getD [])) s with ⟨fault | nothing, t⟩
    · rfl
    · dsimp only
      rw [on_bind]
      rcases on (recordFile db file) t with ⟨fault | nothing, u⟩ <;> rfl

/-- Every attempt goes one of these ways. -/
theorem tryFile_attempt (db : Database σ) (tree : Tree Source.File) (folder : Path) (file : String) (s : Session σ) :
    Attempt db tree folder file s (tryFile db tree folder file s).1 (tryFile db tree folder file s).2 := by
  rw [tryFile_eq, on_applyFile]
  cases loading : instantiate tree (folder.child file) with
  | error fault => exact .unloaded loading
  | ok definition =>
    dsimp only
    rcases changing : on (SchemaStep.performAll db (definition.up.getD [])) (bound file s) with ⟨fault | nothing, t⟩
    · exact .undone loading changing
    · dsimp only
      rcases recording : on (recordFile db file) t with ⟨fault | nothing, u⟩
      · exact .unrecorded loading changing recording
      · exact .applied loading changing recording

/-- An attempt goes one way only. -/
theorem Attempt.eq_tryFile {file : String} {s t : Session σ} {result : Except Fault Unit}
    (attempt : Attempt db tree folder file s result t) : tryFile db tree folder file s = (result, t) := by
  rw [tryFile_eq, on_applyFile]
  cases attempt with
  | unloaded loading => rw [loading]
  | undone loading changing => simp only [loading, changing]
  | unrecorded loading changing recording => simp only [loading, changing, recording]
  | applied loading changing recording => simp only [loading, changing, recording]

theorem complained_engine (fault : Fault) (s : Session σ) : (complained fault s).engine = s.engine := by
  unfold complained
  split <;> rfl

/-- The changes that a file makes have nothing to do with the ledger. -/
def Harmless (db : Database σ) (table : LedgerTable σ) (tree : Tree Source.File) (folder : Path) (file : String) :
    Prop :=
  ∀ {definition : Source.ClassValue}, instantiate tree (folder.child file) = .ok definition →
    Action.Moves table.Rests (SchemaStep.performAll db (definition.up.getD []))

/-- An attempt that goes well appends one row with the name of its file, and one that fails leaves the
ledger as it was. -/
theorem attempt_ledger (keeps : KeepsLedger db table) {file : String} (harmless : Harmless db table tree folder file)
    {s t : Session σ} {result : Except Fault Unit} (settled : table.Settled s.engine)
    (attempt : Attempt db tree folder file s result t) : table.Done (Appends (.text file)) s (result, t) := by
  cases attempt with
  | unloaded loading =>
    simp only [Done, unbound, complained_engine]
    exact ⟨settled, rfl⟩
  | undone loading changing =>
    have rests := harmless loading (bound file s) settled
    rw [changing] at rests
    simp only [Done, unbound, complained_engine]
    exact rests
  | unrecorded loading changing recording =>
    obtain ⟨rests, same⟩ := harmless loading (bound file s) settled
    rw [changing] at rests same
    have recorded := recordFile_ledger keeps file rests
    rw [recording] at recorded
    simp only [Done, unbound, complained_engine]
    exact ⟨recorded.1, recorded.2.trans same⟩
  | applied loading changing recording =>
    obtain ⟨rests, same⟩ := harmless loading (bound file s) settled
    rw [changing] at rests same
    have recorded := recordFile_ledger keeps file rests
    rw [recording] at recorded
    exact ⟨recorded.1, same ▸ recorded.2⟩

/-- Files that are loaded, run and recorded one after the other. -/
inductive Applies (db : Database σ) (tree : Tree Source.File) (folder : Path) :
    Session σ → List String → Session σ → Prop where
  | nil (s : Session σ) : Applies db tree folder s [] s
  | cons {s t u : Session σ} {file : String} {rest : List String}
      (first : Attempt db tree folder file s (.ok ()) t) (later : Applies db tree folder t rest u) :
      Applies db tree folder s (file :: rest) u

/-- Rows with these names are appended one after the other, each under the largest number so far. -/
inductive AppendsAll : List Entry → List String → List Entry → Prop where
  | nil (rows : List Entry) : AppendsAll rows [] rows
  | cons {before between after : List Entry} {file : String} {rest : List String}
      (first : Appends (.text file) before between) (later : AppendsAll between rest after) :
      AppendsAll before (file :: rest) after

theorem applies_ledger (keeps : KeepsLedger db table) {files : List String}
    (harmless : ∀ file ∈ files, Harmless db table tree folder file) {s t : Session σ}
    (settled : table.Settled s.engine) (applies : Applies db tree folder s files t) :
    table.Settled t.engine ∧ AppendsAll (table.rows s.engine) files (table.rows t.engine) := by
  induction applies with
  | nil s => exact ⟨settled, .nil _⟩
  | @cons s t u file rest first later ih =>
    obtain ⟨between, appends⟩ := attempt_ledger keeps (harmless file List.mem_cons_self) settled first
    obtain ⟨after, more⟩ := ih (fun other member => harmless other (List.mem_cons_of_mem file member)) between
    exact ⟨after, .cons appends more⟩

/-- A run over files applies those that are not recorded, in order, up to the first one that fails, and
ends right there: the session at its end is the one after that attempt. -/
theorem applyFiles_runs (db : Database σ) (tree : Tree Source.File) (folder : Path) (recorded : List Value)
    (result : RunResult) (files : List String) (s : Session σ) :
    ∃ applied rest t, (files.filter fun file => !recorded.contains (.text file)) = applied ++ rest ∧
      Applies db tree folder s applied t ∧
      match rest with
      | [] => on (applyFiles db tree folder recorded result files) s =
          (.ok { result with applied := result.applied ++ applied,
                             skipped := result.skipped ++ files.filter fun file => recorded.contains (.text file) }, t)
      | file :: _ => ∃ before after fault u, files = before ++ file :: after ∧ recorded.contains (.text file) = false ∧
          Attempt db tree folder file t (.error fault) u ∧
          on (applyFiles db tree folder recorded result files) s =
            (if fault.escapes then .error fault
              else .ok { applied := result.applied ++ applied,
                         skipped := result.skipped ++ before.filter fun file => recorded.contains (.text file),
                         errors := result.errors ++ [(file, fault.text)] }, u) := by
  induction files generalizing result s with
  | nil =>
    refine ⟨[], [], s, rfl, .nil s, ?_⟩
    simp only [applyFiles, on_pure, List.filter_nil, List.append_nil]
  | cons file later ih =>
    unfold applyFiles
    cases known : recorded.contains (.text file) with
    | true =>
      obtain ⟨applied, rest, t, pending, applies, ended⟩ := ih { result with skipped := result.skipped ++ [file] } s
      refine ⟨applied, rest, t, by simpa [known] using pending, applies, ?_⟩
      cases rest with
      | nil => simpa [known] using ended
      | cons next rest =>
        obtain ⟨before, after, fault, u, split, fresh, attempt, ended⟩ := ended
        exact ⟨file :: before, after, fault, u, by rw [split]; rfl, fresh, attempt, by simpa [known] using ended⟩
    | false =>
      have attempt := tryFile_attempt db tree folder file s
      rcases trying : tryFile db tree folder file s with ⟨outcome, t⟩
      rw [trying] at attempt
      simp only [Bool.false_eq_true, ↓reduceIte, on_bind, on_ofState, trying]
      cases outcome with
      | ok nothing =>
        obtain ⟨applied, rest, u, pending, applies, ended⟩ := ih { result with applied := result.applied ++ [file] } t
        refine ⟨file :: applied, rest, u, by simpa [known] using pending, .cons attempt applies, ?_⟩
        cases rest with
        | nil => simpa [known] using ended
        | cons next rest =>
          obtain ⟨before, after, fault, v, split, fresh, attempt, ended⟩ := ended
          exact ⟨file :: before, after, fault, v, by rw [split]; rfl, fresh, attempt, by simpa [known] using ended⟩
      | error fault =>
        refine ⟨[], file :: later.filter fun file => !recorded.contains (.text file), s, by simp [known], .nil s, ?_⟩
        refine ⟨[], later, fault, t, rfl, known, attempt, ?_⟩
        dsimp only
        split
        · rfl
        · rw [List.filter_nil, List.append_nil, List.append_nil]
          rfl

/-- A run stops at the first file whose attempt fails, where a handler sees the failure. -/
theorem applyFiles_stops {recorded : List Value} {files done later : List String} {file : String} {s t u : Session σ}
    {fault : Fault} (split : (files.filter fun file => !recorded.contains (.text file)) = done ++ file :: later)
    (applies : Applies db tree folder s done t) (attempt : Attempt db tree folder file t (.error fault) u)
    (seen : fault.escapes = false) (result : RunResult) :
    ∃ last, on (applyFiles db tree folder recorded result files) s = (.ok last, u) ∧
      last.applied = result.applied ++ done ∧ last.errors = result.errors ++ [(file, fault.text)] := by
  induction files generalizing result s done with
  | nil => exact absurd split.symm (List.append_ne_nil_of_right_ne_nil done (List.cons_ne_nil file later))
  | cons first rest ih =>
    unfold applyFiles
    cases known : recorded.contains (.text first) with
    | true =>
      have split' : (rest.filter fun file => !recorded.contains (.text file)) = done ++ file :: later := by
        simpa [known] using split
      exact ih split' applies { result with skipped := result.skipped ++ [first] }
    | false =>
      have split' : first :: (rest.filter fun file => !recorded.contains (.text file)) = done ++ file :: later := by
        simpa [known] using split
      simp only [Bool.false_eq_true, ↓reduceIte, on_bind, on_ofState]
      cases applies with
      | nil =>
        obtain ⟨rfl, -⟩ := List.cons.inj split'
        rw [attempt.eq_tryFile]
        simp only [seen, Bool.false_eq_true, ↓reduceIte]
        exact ⟨_, rfl, (List.append_nil _).symm, rfl⟩
      | cons begun after =>
        obtain ⟨rfl, split''⟩ := List.cons.inj split'
        rw [begun.eq_tryFile]
        obtain ⟨last, ended, applied, errors⟩ := ih split'' after { result with applied := result.applied ++ [first] }
        refine ⟨last, ended, ?_, errors⟩
        rw [applied, List.append_assoc, List.singleton_append]

end DataLayer.Migration
