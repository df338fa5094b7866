import DataLayer.Proofs.Folder.Tree
import DataLayer.Proofs.Session
import DataLayer.Seed.Runner

/-! A run over seeders. Every seeder runs, is skipped, or fails, and a failure is told under the name of its
seeder; main statement: whatever a run comes to in the end, a failure that was told once is told. -/

namespace DataLayer.Seed

open DataLayer.Action DataLayer.Script DataLayer.Source

variable {σ : Type} {db : Database σ} {tree : Tree File}

/-- What comes of a seeder. -/
inductive Ending where
  | ran
  | skipped
  | failed (fault : Fault)

/-- The ways in which the seeder of a file can go. -/
inductive Attempt (db : Database σ) (tree : Tree File) (path : Path) (s : Session σ) : Ending → Session σ → Prop where
  | unloaded {fault : Fault} (loading : load tree path = .error fault) : Attempt db tree path s (.failed fault) s
  | classless {bindings : Bindings} (loading : load tree path = .ok bindings)
      (bare : seederOf? bindings path.stem = none) : Attempt db tree path s .skipped s
  | broken {bindings : Bindings} {definition : ClassValue} {fault : Fault} {t : Session σ}
      (loading : load tree path = .ok bindings) (own : seederOf? bindings path.stem = some definition)
      (running : on (runClass db definition) s = (.error fault, t)) : Attempt db tree path s (.failed fault) t
  | ran {bindings : Bindings} {definition : ClassValue} {t : Session σ} (loading : load tree path = .ok bindings)
      (own : seederOf? bindings path.stem = some definition) (running : on (runClass db definition) s = (.ok (), t)) :
      Attempt db tree path s .ran t

/-- Every seeder goes one of these ways. -/
theorem exists_attempt (db : Database σ) (tree : Tree File) (path : Path) (s : Session σ) :
    ∃ ending t, Attempt db tree path s ending t := by
  cases loading : load tree path with
  | error fault => exact ⟨_, _, .unloaded loading⟩
  | ok bindings =>
    cases own : seederOf? bindings path.stem with
    | none => exact ⟨_, _, .classless loading own⟩
    | some definition =>
      rcases running : on (runClass db definition) s with ⟨fault | nothing, t⟩
      · exact ⟨_, _, .broken loading own running⟩
      · exact ⟨_, _, .ran loading own running⟩

/-- What a run has come to after one more seeder. -/
def RunResult.add (result : RunResult) (name : String) : Ending → RunResult
  | .ran => { result with ran := result.ran ++ [name] }
  | .skipped => { result with skipped := result.skipped ++ [name] }
  | .failed fault => { result with errors := Entries.put name fault.text result.errors }

/-- What is noted of a seeder. -/
def Ending.notice (name : String) : Ending → Notice
  | .ran => .seedCompleted name
  | .skipped => .seedSkipped name
  | .failed fault => .seedFailed name fault.text

/-- The failure by which a seeder ends a whole run: one that no handler sees. -/
def Ending.fatal? : Ending → Option Fault
  | .failed fault => if fault.escapes then some fault else none
  | _ => none

theorem Ending.escapes_of_fatal? {ending : Ending} {fault : Fault} (fatal : ending.fatal? = some fault) :
    fault.escapes = true := by
  cases ending with
  | failed other =>
    simp only [fatal?, Option.ite_none_right_eq_some, Option.some.injEq] at fatal
    obtain ⟨escapes, rfl⟩ := fatal
    exact escapes
  | _ => cases fatal

/-- What comes of a seeder is noted and added to the result, unless it ends the run. -/
theorem on_runFile {path : Path} {s t : Session σ} {ending : Ending} (attempt : Attempt db tree path s ending t)
    (result : RunResult) : on (runFile db tree result path) s = match ending.fatal? with
      | some fault => (.error fault, t)
      | none => (.ok (result.add path.stem ending), t.noted (ending.notice path.stem)) := by
  have failed (fault : Fault) : on (do
      if fault.escapes then Action.fail fault
      Action.note (.seedFailed path.stem fault.text)
      return { result with errors := Entries.put path.stem fault.text result.errors }) t =
        match (Ending.failed fault).fatal? with
        | some fault => (.error fault, t)
        | none => (.ok (result.add path.stem (.failed fault)), t.noted ((Ending.failed fault).notice path.stem)) := by
    unfold Ending.fatal?
    dsimp only
    cases fault.escapes <;> rfl
  unfold runFile
  cases attempt with
  | unloaded loading =>
    rw [loading]
    exact failed _
  | classless loading bare =>
    rw [loading]
    dsimp only
    rw [bare]
    rfl
  | broken loading own running =>
    rw [loading]
    dsimp only
    rw [own]
    dsimp only
    unfold Action.on at running
    rw [on_bind, on_ofState, running]
    exact failed _
  | ran loading own running =>
    rw [loading]
    dsimp only
    rw [own]
    dsimp only
    unfold Action.on at running
    rw [on_bind, on_ofState, running]
    rfl

theorem on_foldlM_cons {path : Path} {s t : Session σ} {ending : Ending} (attempt : Attempt db tree path s ending t)
    (rest : List Path) (result : RunResult) :
    on ((path :: rest).foldlM (runFile db tree) result) s = match ending.fatal? with
      | some fault => (.error fault, t)
      | none => on (rest.foldlM (runFile db tree) (result.add path.stem ending)) (t.noted (ending.notice path.stem)) := by
  rw [List.foldlM_cons, on_bind, on_runFile attempt]
  cases ending.fatal? <;> rfl

/-- A run ends early only with a failure that no handler sees. -/
theorem foldlM_escapes {files : List Path} {result : RunResult} {s t : Session σ} {fault : Fault}
    (ended : on (files.foldlM (runFile db tree) result) s = (.error fault, t)) : fault.escapes = true := by
  induction files generalizing result s with
  | nil => cases ended
  | cons path rest ih =>
    obtain ⟨ending, u, attempt⟩ := exists_attempt db tree path s
    rw [on_foldlM_cons attempt] at ended
    cases fatal : ending.fatal? with
    | some other =>
      rw [fatal] at ended
      cases ended
      exact Ending.escapes_of_fatal? fatal
    | none =>
      rw [fatal] at ended
      exact ih ended

/-- Another failure is told under a name only for another seeder of this name. -/
theorem get?_add {name : String} {result : RunResult} {message : String}
    (told : Entries.get? name result.errors = some message) (other : String) (ending : Ending) :
    ∃ last, Entries.get? name (result.add other ending).errors = some last ∧ (last = message ∨ other = name) := by
  cases ending with
  | failed fault =>
    change ∃ last, Entries.get? name (Entries.put other fault.text result.errors) = some last ∧ _
    rw [Entries.get?_put]
    cases same : other == name with
    | true => exact ⟨_, rfl, .inr (beq_iff_eq.mp same)⟩
    | false => exact ⟨message, told, .inl rfl⟩
  | _ => exact ⟨message, told, .inl rfl⟩

/-- A failure that was told is told in the end, or a later one of a seeder of the same name is. -/
theorem foldlM_told {files : List Path} {result final : RunResult} {s t : Session σ} {name message : String}
    (told : Entries.get? name result.errors = some message)
    (ended : on (files.foldlM (runFile db tree) result) s = (.ok final, t)) :
    ∃ last, Entries.get? name final.errors = some last ∧ (last = message ∨ ∃ other ∈ files, other.stem = name) := by
  induction files generalizing result message s with
  | nil =>
    cases ended
    exact ⟨message, told, .inl rfl⟩
  | cons path rest ih =>
    obtain ⟨ending, u, attempt⟩ := exists_attempt db tree path s
    rw [on_foldlM_cons attempt] at ended
    cases fatal : ending.fatal? with
    | some fault =>
      rw [fatal] at ended
      cases ended
    | none =>
      rw [fatal] at ended
      obtain ⟨next, told', kept⟩ := get?_add told path.stem ending
      obtain ⟨last, told'', kept'⟩ := ih told' ended
      refine ⟨last, told'', ?_⟩
      rcases kept' with rfl | ⟨other, member, same⟩
      · rcases kept with rfl | same
        · exact .inl rfl
        · exact .inr ⟨path, List.mem_cons_self, same⟩
      · exact .inr ⟨other, List.mem_cons_of_mem path member, same⟩

/-- A failure that a handler sees is told in the end under the name of its seeder, unless a later one of the same
name is or the run is ended early. -/
theorem foldlM_failed {done later : List Path} {path : Path} {result : RunResult} {s t u : Session σ} {fault : Fault}
    (reached : on (done.foldlM (runFile db tree) {}) s = (.ok result, t))
    (attempt : Attempt db tree path t (.failed fault) u) (seen : fault.escapes = false)
    {final : RunResult} {v : Session σ}
    (ended : on ((done ++ path :: later).foldlM (runFile db tree) {}) s = (.ok final, v)) :
    ∃ last, Entries.get? path.stem final.errors = some last ∧
      (last = fault.text ∨ ∃ other ∈ later, other.stem = path.stem) := by
  have survived : (Ending.failed fault).fatal? = none := by simp [Ending.fatal?, seen]
  rw [List.foldlM_append, on_bind, reached] at ended
  dsimp only at ended
  rw [on_foldlM_cons attempt, survived] at ended
  refine foldlM_told ?_ ended
  change Entries.get? path.stem (Entries.put path.stem fault.text result.errors) = _
  rw [Entries.get?_put, if_pos (beq_self_eq_true _)]

/-! Runs over a folder. -/

theorem discover_eq (tree : Tree File) (folder : Path) :
    discover tree folder = ((tree.listing folder).map (Tree.sortedNames isFileName)).map (List.map folder.child) := by
  unfold discover
  cases tree.listing folder <;> rfl

/-- The seeders that a run is to go over: those of a name, or all. -/
def chosen (target : Option String) (files : List Path) : List Path :=
  match target with
  | none => files
  | some name => files.filter fun path => path.stem == name

/-- The report that no seeder goes by a name. -/
def unfound (name shown : String) : Report := .of .migration ("Seeder '" ++ name ++ "' not found in " ++ shown)

theorem on_run_unfound {folder : Path} {name : String} {files : List Path} (discovered : discover tree folder = .ok files)
    (empty : chosen (some name) files = []) (shown : String) (s : Session σ) :
    on (run db tree folder shown (some name)) s = (.error (.report (unfound name shown)), s) := by
  have nothing : (files.filter fun path => path.stem == name) = [] := empty
  unfold run
  rw [on_bind, discovered, on_check_ok]
  dsimp only
  rw [nothing]
  rfl

theorem on_run {folder : Path} {target : Option String} {files : List Path} (discovered : discover tree folder = .ok files)
    (filled : chosen target files ≠ []) (shown : String) (s : Session σ) :
    on (run db tree folder shown target) s = on ((chosen target files).foldlM (runFile db tree) {}) s := by
  unfold run
  rw [on_bind, discovered, on_check_ok]
  dsimp only
  cases target with
  | none => rfl
  | some name =>
    unfold chosen at filled ⊢
    dsimp only at filled ⊢
    cases found : files.filter fun path => path.stem == name with
    | nil => exact absurd found filled
    | cons first rest => rfl

end DataLayer.Seed
