import DataLayer.Proofs.Migration.Naming
import DataLayer.Proofs.Seed.Account

/-! Folders that list what they hold in different orders. Trees with the same entries have the same at the same places,
so that whatever is looked up in them is the same; what is listed is put in order before it is used. Main statement:
migrations and seeders are found in the strict order of their names, and every run over them goes the same way, in
whatever order the folder lists them. -/

namespace DataLayer

open DataLayer.Action DataLayer.Source DataLayer.Text

namespace Path

/-- The order of paths: that of their parts, where they start at the same place. -/
def Before (p q : Path) : Prop := p.root = q.root ∧ p.parts < q.parts

/-- In one folder, the order of names is that of paths. -/
theorem before_child {first second : String} (named : IsName first) (named' : IsName second) (less : first < second)
    (p : Path) : (p.child first).Before (p.child second) := by
  rw [child_name named, child_name named']
  exact ⟨rfl, List.append_left_lt (List.cons_lt_cons_iff.mpr (.inl less))⟩

end Path

namespace Tree

variable {α : Type} {t other : Tree α}

/-- Holds of trees with the same entries at distinct places, in whatever order each of them keeps them. -/
structure Reorders (t other : Tree α) : Prop where
  distinct : t.Distinct
  perm : t.nodes.Perm other.nodes

namespace Reorders

variable (reorders : t.Reorders other)

include reorders

theorem at?_eq : t.at? = other.at? := by
  funext place
  unfold at?
  rw [Entries.get?_perm reorders.distinct reorders.perm]

theorem hasFolder_eq : t.hasFolder = other.hasFolder := by
  funext place
  unfold hasFolder
  rw [reorders.at?_eq]

theorem locate_eq (p : Path) : t.locate p = other.locate p := locate_congr reorders.hasFolder_eq p

theorem find?_eq (p : Path) : t.find? p = other.find? p := by
  unfold find?
  rw [reorders.locate_eq, reorders.at?_eq]

theorem look_eq (p : Path) : t.look p = other.look p := by
  unfold look
  rw [meetsLongName_congr reorders.hasFolder_eq, reorders.find?_eq]

/-- A folder of both lists the same names, though not in the same order. -/
theorem namesIn_perm (place : Place) : (t.namesIn place).Perm (other.namesIn place) := reorders.perm.filterMap _

/-- Once they are in order, the names of some kind are the same. -/
theorem sorted_listing (keep : String → Bool) (p : Path) :
    (t.listing p).map (sortedNames keep) = (other.listing p).map (sortedNames keep) := by
  have looked := reorders.look_eq p
  cases there : other.look p with
  | error misuse =>
    unfold listing
    rw [looked, there]
    rfl
  | ok node =>
    rw [there] at looked
    by_cases folder : node = some .folder
    · subst folder
      rw [listing_folder looked, listing_folder there, reorders.locate_eq]
      cases other.locate p with
      | none => rfl
      | some place => exact congrArg Except.ok (sortedNames_perm (reorders.namesIn_perm place))
    · rw [listing_other looked folder, listing_other there folder]

end Reorders
end Tree

/-- Holds of the names of a form among others, each once and in order. -/
structure IsSelection (form : String → Prop) (names files : List String) : Prop where
  ordered : files.Pairwise (· < ·)
  mem_iff : ∀ name, name ∈ files ↔ name ∈ names ∧ form name

theorem isSelection_sortedNames {keep : String → Bool} {form : String → Prop}
    (decides : ∀ name, keep name = true ↔ form name) {names : List String} (once : names.Nodup) :
    IsSelection form names (Tree.sortedNames keep names) where
  ordered := Tree.sortedNames_lt once
  mem_iff name := by rw [Tree.mem_sortedNames, decides]

/-- The paths of selected names go by these names, and are in order as well. -/
theorem IsSelection.paths {form : String → Prop} {names files : List String} (selection : IsSelection form names files)
    (named : ∀ name ∈ names, Path.IsName name) (folder : Path) :
    (files.map folder.child).map Path.name = files ∧ (files.map folder.child).Pairwise Path.Before := by
  have isName : ∀ name ∈ files, Path.IsName name := fun name member => named name ((selection.mem_iff name).mp member).1
  constructor
  · rw [List.map_map]
    exact (List.map_congr_left fun name member => Path.name_child (isName name member) folder).trans (List.map_id files)
  · refine List.pairwise_map.mpr (selection.ordered.imp_of_mem ?_)
    intro early late member member' less
    exact Path.before_child (isName early member) (isName late member') less folder

variable {σ : Type} {tree other : Tree File} {folder : Path}

namespace Migration

/-- Holds of the names that migrations are found by: a stamp, a word and the ending, which a line end may follow. -/
def IsFound (name : String) : Prop :=
  HasForm isDigit ".py".toList name.toList ∨ HasForm isDigit ".py\n".toList name.toList

variable {db : Database σ}

/-- What a run does with a file depends on nothing but what is found there. -/
theorem applyFile_congr (same : ∀ path, tree.find? path = other.find? path) (file : String) :
    applyFile db tree folder file = applyFile db other folder file := by
  unfold applyFile
  rw [instantiate_congr (same _)]

theorem tryFile_congr (same : ∀ path, tree.find? path = other.find? path) (file : String) :
    tryFile db tree folder file = tryFile db other folder file := by
  unfold tryFile
  rw [applyFile_congr same]

theorem applyFiles_congr (same : ∀ path, tree.find? path = other.find? path) (recorded : List Value)
    (result : RunResult) (files : List String) :
    applyFiles db tree folder recorded result files = applyFiles db other folder recorded result files := by
  induction files generalizing result with
  | nil => rfl
  | cons file rest ih =>
    unfold applyFiles
    rw [tryFile_congr same]
    simp only [ih]

theorem applyPending_congr (same : ∀ path, tree.find? path = other.find? path)
    (found : discover tree folder = discover other folder) :
    applyPending db tree folder = applyPending db other folder := by
  unfold applyPending
  rw [found]
  simp only [applyFiles_congr same]

end Migration

namespace Seed

variable {db : Database σ}

/-- Holds of the names that seeders are found by: they have the ending, and no underscore before everything else. -/
def IsFound (name : String) : Prop := ".py".toList <:+ name.toList ∧ name.toList.head? ≠ some '_'

theorem isFileName_iff {name : String} : isFileName name = true ↔ IsFound name := by
  have lead : "_".toList.isPrefixOf name.toList = true ↔ name.toList.head? = some '_' := by
    cases name.toList with
    | nil => simp
    | cons c rest => simpa using eq_comm
  rw [isFileName, Bool.and_eq_true, Bool.not_eq_true', List.isSuffixOf_iff_suffix, ← Bool.not_eq_true, lead, IsFound]

theorem run_congr (same : ∀ path, tree.find? path = other.find? path)
    (found : discover tree folder = discover other folder) (shown : String) (target : Option String) :
    run db tree folder shown target = run db other folder shown target := by
  have files : runFile db tree = runFile db other := by
    funext result path
    exact runFile_congr (same path) result
  unfold run
  rw [found, files]

end Seed

/-- What is found in a folder, and what runs over it do, does not depend on the order in which it lists its entries. Of
the listed names exactly those of the right form are found, each once and in order, which for seeders is the order of
their paths as well. -/
theorem discovery_reorders {first second : Tree File} (reorders : first.Reorders second) (folder : Path) :
    Migration.discover first folder = Migration.discover second folder ∧
    Seed.discover first folder = Seed.discover second folder ∧
    (∀ names, first.listing folder = .ok names →
      (∃ files, Migration.discover first folder = .ok files ∧ IsSelection Migration.IsFound names files) ∧
      ∃ files, Seed.discover first folder = .ok (files.map folder.child) ∧ IsSelection Seed.IsFound names files ∧
        ((∀ name ∈ names, Path.IsName name) →
          (files.map folder.child).map Path.name = files ∧ (files.map folder.child).Pairwise Path.Before)) ∧
    ∀ {σ : Type} (db : Database σ) (s : Session σ),
      on (Migration.applyPending db first folder) s = on (Migration.applyPending db second folder) s ∧
        ∀ shown target, on (Seed.run db first folder shown target) s = on (Seed.run db second folder shown target) s := by
  have migrations : Migration.discover first folder = Migration.discover second folder := by
    rw [Migration.discover_eq, Migration.discover_eq, reorders.sorted_listing]
  have seeders : Seed.discover first folder = Seed.discover second folder := by
    rw [Seed.discover_eq, Seed.discover_eq, reorders.sorted_listing]
  refine ⟨migrations, seeders, fun names listed => ?_, fun db s => ⟨?_, fun shown target => ?_⟩⟩
  · have once := reorders.distinct.nodup_listing listed
    have files : IsSelection Migration.IsFound names (Tree.sortedNames Migration.isFileName names) :=
      isSelection_sortedNames (fun _ => Migration.isFileName_iff) once
    have seeds : IsSelection Seed.IsFound names (Tree.sortedNames Seed.isFileName names) :=
      isSelection_sortedNames (fun _ => Seed.isFileName_iff) once
    refine ⟨⟨_, ?_, files⟩, _, ?_, seeds, fun named => seeds.paths named folder⟩
    · rw [Migration.discover_eq, listed]
      rfl
    · rw [Seed.discover_eq, listed]
      rfl
  · rw [Migration.applyPending_congr reorders.find?_eq migrations]
  · rw [Seed.run_congr reorders.find?_eq seeders]

/-- A folder with two migrations, a seeder, a file that both leave out, and one that only seeders leave out; listed
forwards and backwards. -/
theorem discovery_reorders_backwards :
    let file : Node File := .file (singleClass [] [])
    let first : Tree File :=
      { nodes := [(["d"], .folder), (["d", "_base.py"], file), (["d", "RoleSeeder.py"], file), (["d", "notes"], file),
          (["d", "2025_01_02_000000_B.py"], file), (["d", "2025_01_01_000000_A.py"], file)] }
    let second : Tree File := { nodes := first.nodes.reverse }
    let folder : Path := { parts := ["d"] }
    let names := ["_base.py", "RoleSeeder.py", "notes", "2025_01_02_000000_B.py", "2025_01_01_000000_A.py"]
    let migrations := ["2025_01_01_000000_A.py", "2025_01_02_000000_B.py"]
    let seeders := ["2025_01_01_000000_A.py", "2025_01_02_000000_B.py", "RoleSeeder.py"]
    let s : Session Unit := { engine := () }
    first.Reorders second ∧ first.listing folder = .ok names ∧ second.listing folder = .ok names.reverse ∧
      Migration.discover first folder = .ok migrations ∧ IsSelection Migration.IsFound names migrations ∧
      Seed.discover first folder = .ok (seeders.map folder.child) ∧ IsSelection Seed.IsFound names seeders ∧
      (seeders.map folder.child).Pairwise Path.Before ∧
      on (Migration.applyPending Seed.calm first folder) s = on (Migration.applyPending Seed.calm second folder) s ∧
      on (Seed.run Seed.calm first folder "d" none) s = on (Seed.run Seed.calm second folder "d" none) s := by
  intro file first second folder names migrations seeders s
  have distinct : first.Distinct :=
    show [["d"], ["d", "_base.py"], ["d", "RoleSeeder.py"], ["d", "notes"], ["d", "2025_01_02_000000_B.py"],
      ["d", "2025_01_01_000000_A.py"]].Nodup by decide
  have reorders : first.Reorders second := ⟨distinct, (List.reverse_perm _).symm⟩
  have named : ∀ name ∈ names, Path.IsName name := by
    simp only [names, List.forall_mem_cons]
    refine ⟨?_, ?_, ?_, ?_, ?_, nofun⟩ <;> constructor <;> decide
  -- Backwards, the names are in order already.
  have sorted {keep : String → Bool} {files : List String} (kept : names.reverse.filter keep = files)
      (sorted : files.Pairwise fun first second => decide (first ≤ second)) : Tree.sortedNames keep names = files :=
    (Tree.sortedNames_perm (List.reverse_perm names).symm).trans (Tree.sortedNames_eq kept sorted)
  have ofMigrations : Tree.sortedNames Migration.isFileName names = migrations := sorted (by decide +kernel) (by decide)
  have ofSeeders : Tree.sortedNames Seed.isFileName names = seeders := sorted (by decide +kernel) (by decide)
  obtain ⟨-, -, found, runs⟩ := discovery_reorders reorders folder
  obtain ⟨⟨files, discovered, selected⟩, paths, discovered', selected', ordered⟩ := found names rfl
  have migrating : Migration.discover first folder = .ok migrations := by
    rw [Migration.discover_eq]
    exact congrArg Except.ok ofMigrations
  have seeding : Seed.discover first folder = .ok (seeders.map folder.child) := by
    rw [Seed.discover_eq]
    exact congrArg (fun names => Except.ok (names.map folder.child)) ofSeeders
  have same : paths.map folder.child = seeders.map folder.child := Except.ok.inj (discovered'.symm.trans seeding)
  have own : (seeders.map folder.child).map Path.name = seeders := by decide +kernel
  obtain ⟨back, inOrder⟩ := ordered named
  rw [same] at back inOrder
  cases discovered.symm.trans migrating
  cases back.symm.trans own
  exact ⟨reorders, rfl, rfl, migrating, selected, seeding, selected', inOrder, (runs Seed.calm s).1,
    (runs Seed.calm s).2 "d" none⟩

end DataLayer
