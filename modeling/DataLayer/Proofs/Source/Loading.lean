import DataLayer.Migration.Runner
import DataLayer.Proofs.Folder.Tree
import DataLayer.Proofs.Value

/-! What is loaded from a file. A class that can be loaded stands in a file of the tree; main statement:
a file with a single migration in it is loaded as that migration. -/

namespace DataLayer.Source

open DataLayer.Script

theorem load_ok {tree : Tree File} {path : Path} {bindings : Bindings} (loaded : load tree path = .ok bindings) :
    ∃ file, tree.find? path = some (.file file) ∧ file.bindings path = .ok bindings := by
  unfold load at loaded
  split at loaded
  · cases loaded
  · cases found : tree.find? path with
    | none => rw [found] at loaded; cases loaded
    | some node =>
      rw [found] at loaded
      cases node with
      | folder => cases loaded
      | file file =>
        refine ⟨file, rfl, ?_⟩
        dsimp only at loaded
        cases bound : file.bindings path with
        | ok others => rw [bound] at loaded; exact loaded
        | error fault =>
          rw [bound] at loaded
          dsimp only at loaded
          split at loaded <;> cases loaded

/-- A file whose name has the plain ending is loaded as what it binds. -/
theorem load_plain {tree : Tree File} {path : Path} {file : File} (ending : ".py".toList.isSuffixOf path.name.toList = true)
    (found : tree.find? path = some (.file file)) (bindings : Bindings) :
    load tree path = .ok bindings ↔ file.bindings path = .ok bindings := by
  unfold load
  rw [ending, found]
  dsimp only
  cases file.bindings path with
  | ok others => exact Iff.rfl
  | error fault =>
    dsimp only
    cases fault.escapes <;> exact ⟨nofun, nofun⟩

/-- A file with any other name is not loaded, whatever there is in it. -/
theorem load_other {tree : Tree File} {path : Path} (ending : ".py".toList.isSuffixOf path.name.toList = false) :
    load tree path = .error (.report (.aboutMigration ("Cannot import " ++ path.name) path.name)) := by
  unfold load
  rw [ending]
  rfl

/-- What is loaded from a path depends on nothing but what stands there. -/
theorem load_congr {tree other : Tree File} {path : Path} (same : tree.find? path = other.find? path) :
    load tree path = load other path := by
  unfold load
  rw [same]

theorem instantiate_congr {tree other : Tree File} {path : Path} (same : tree.find? path = other.find? path) :
    Migration.instantiate tree path = Migration.instantiate other path := by
  unfold Migration.instantiate loadClass
  rw [load_congr same]

theorem loadClass_ok {tree : Tree File} {path : Path} {role : Role} {definition : ClassValue}
    (loaded : loadClass tree path role = .ok definition) :
    ∃ bindings, load tree path = .ok bindings ∧ bindings.candidates role = [definition] := by
  unfold loadClass at loaded
  cases bound : load tree path with
  | error fault => rw [bound] at loaded; cases loaded
  | ok bindings =>
    rw [bound] at loaded
    dsimp only [bind, Except.bind] at loaded
    split at loaded
    next found single =>
      cases loaded
      exact ⟨bindings, rfl, single⟩
    next => cases loaded

/-- What is loaded is a class that some file of the tree binds. -/
theorem instantiate_ok {tree : Tree File} {path : Path} {definition : ClassValue}
    (loading : Migration.instantiate tree path = .ok definition) :
    ∃ place file bindings, (place, Node.file file) ∈ tree.nodes ∧ file.bindings path = .ok bindings ∧
      definition ∈ bindings.candidates .migration := by
  unfold Migration.instantiate at loading
  cases chosen : loadClass tree path .migration with
  | error fault => rw [chosen] at loading; cases loading
  | ok own =>
    rw [chosen] at loading
    dsimp only [bind, Except.bind] at loading
    split at loading
    next => cases loading
    next =>
      cases loading
      obtain ⟨bindings, loaded, single⟩ := loadClass_ok chosen
      obtain ⟨file, found, bound⟩ := load_ok loaded
      obtain ⟨place, member⟩ := Tree.mem_of_find? found
      exact ⟨place, file, bindings, member, bound, single ▸ List.mem_cons_self⟩

/-- The only class of a module of some name, with both methods. -/
def onlyClass (called name : String) (up down : List SchemaStep) : ClassValue where
  serial := 3
  name
  home := some (.value (.text called))
  role := some .migration
  up := some up
  down := some down

/-- The names that a module with a single class binds. -/
def onlyNames (called name : String) (up down : List SchemaStep) : Bindings :=
  Entries.put name (.class (onlyClass called name up down)) (Bindings.initial called)

theorem normalForm_migration : Text.normalForm "Migration" = "Migration" := by decide +kernel

theorem extend_onlyClass {name : String} (plain : Text.normalForm name = name) (called : String)
    (up down : List SchemaStep) :
    (ClassValue.root .migration).extend 3 (.value (.text called)) { name, up := some up, down := some down } =
      onlyClass called name up down := by
  unfold ClassValue.extend
  rw [plain]
  rfl

theorem ofModule_onlyNames {name : String} (plain : Text.normalForm name = name) (called : String)
    (up down : List SchemaStep) :
    Bindings.ofModule called { classes := [{ name, up := some up, down := some down }] } =
      .ok (onlyNames called name up down) := by
  have base : Bindings.classOf (Bindings.initial called) (Text.normalForm "Migration") = .ok (.root .migration) := by
    rw [normalForm_migration]
    rfl
  have own : Bindings.called (Bindings.initial called) = .value (.text called) := rfl
  have named : (onlyClass called name up down).name = name := rfl
  simp only [Bindings.ofModule, Bindings.addClasses, base, own, bind, Except.bind, extend_onlyClass plain, named]
  rfl

/-- A class of any other name leaves the module the name that it is called by. -/
theorem called_onlyNames {name : String} (free : name ≠ Bindings.ownName) (called : String) (up down : List SchemaStep) :
    (onlyNames called name up down).called = .value (.text called) := by
  have own : Entries.get? Bindings.ownName (onlyNames called name up down) = some (.value (.text called)) := by
    unfold onlyNames
    rw [Entries.get?_put, beq_false_of_ne free, if_neg Bool.false_ne_true]
    rfl
  unfold Bindings.called
  rw [own]

/-- The class counts as one of the module's own, and the bases of the roles do not. It may take the name of one. -/
theorem candidates_onlyNames {name : String} (free : name ≠ Bindings.ownName) (called : String)
    (up down : List SchemaStep) :
    (onlyNames called name up down).candidates .migration = [onlyClass called name up down] := by
  unfold Bindings.candidates
  rw [called_onlyNames free]
  have own : ("__name__" == name) = false := beq_false_of_ne (Ne.symm free)
  unfold onlyNames Bindings.initial
  by_cases migration : "Migration" = name
  · subst migration
    simp [Bindings.ownName, Entries.put, ClassValue.root, ModuleName.same, onlyClass]
  · by_cases seeder : "Seeder" = name
    · subst seeder
      simp [Bindings.ownName, Entries.put, ClassValue.root, ModuleName.same, onlyClass]
    · simp [Bindings.ownName, Entries.put, own, migration, seeder, ClassValue.root, ModuleName.same, onlyClass]

/-- A file of the plain ending that binds a single class is loaded as that class. -/
theorem instantiate_onlyClass {tree : Tree File} {path : Path} {file : File} {name : String} {up down : List SchemaStep}
    (found : tree.find? path = some (.file file)) (ending : ".py".toList.isSuffixOf path.name.toList = true)
    (bound : file.bindings path = .ok (onlyNames (moduleName path) name up down)) (free : name ≠ Bindings.ownName) :
    Migration.instantiate tree path = .ok (onlyClass (moduleName path) name up down) := by
  have loaded : load tree path = .ok (onlyNames (moduleName path) name up down) := by
    unfold load
    rw [ending, found]
    simp only [Bool.not_true, Bool.false_eq_true, ↓reduceIte, bound]
  have chosen : loadClass tree path .migration = .ok (onlyClass (moduleName path) name up down) := by
    unfold loadClass
    simp only [loaded, bind, Except.bind, candidates_onlyNames free]
    rfl
  unfold Migration.instantiate
  rw [chosen]
  rfl

/-- A file whose only class has both methods. -/
def singleClass (up down : List SchemaStep) : File :=
  .module { classes := [{ name := "Change", up := some up, down := some down }] }

theorem bindings_singleClass (path : Path) (up down : List SchemaStep) :
    (singleClass up down).bindings path = .ok (onlyNames (moduleName path) "Change" up down) :=
  ofModule_onlyNames (by decide +kernel) (moduleName path) up down

/-- The only class of such a file is the one that was written. -/
theorem eq_onlyClass {path : Path} {up down : List SchemaStep} {bindings : Bindings} {definition : ClassValue}
    (bound : (singleClass up down).bindings path = .ok bindings) (candidate : definition ∈ bindings.candidates .migration) :
    definition = onlyClass (moduleName path) "Change" up down := by
  rw [bindings_singleClass] at bound
  cases bound
  rwa [candidates_onlyNames (by decide), List.mem_singleton] at candidate

theorem instantiate_folder {tree : Tree File} {path : Path} (found : tree.find? path = some .folder) :
    ∃ fault, Migration.instantiate tree path = .error fault := by
  have loaded : ∃ fault, load tree path = .error fault := by
    unfold load
    rw [found]
    split
    · exact ⟨_, rfl⟩
    · exact ⟨_, rfl⟩
  obtain ⟨fault, loaded⟩ := loaded
  refine ⟨fault, ?_⟩
  unfold Migration.instantiate loadClass
  rw [loaded]
  rfl

end DataLayer.Source
