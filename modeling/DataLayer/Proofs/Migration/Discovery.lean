import DataLayer.Migration.Runner
import DataLayer.Proofs.Folder.Tree
import DataLayer.Proofs.Migration.LedgerWork
import Mathlib.Data.List.Sort

/-! What a run starts from: the names that the ledger holds, and the files in the folder in the order
of their names. Announcing and applying both start with these two and nothing else. -/

namespace DataLayer.Migration

open DataLayer.Action LedgerTable

variable {σ : Type} {db : Database σ} {table : LedgerTable σ} {tree : Tree Source.File} {folder : Path}

/-- Holds of a file that is recorded in the ledger. -/
def isRecorded (rows : List Entry) (file : String) : Bool := rows.any fun entry => .text file == entry.migration

theorem recordedNames_cons (record : Record) (rest : List Record) :
    recordedNames (record :: rest) = match memberComplaint? record.migration with
      | none => (recordedNames rest).map (record.migration :: ·)
      | some complaint => .error (.unsuitable complaint) := by
  have split : recordedNames (record :: rest) = (do
      let name ← (match memberComplaint? record.migration with
        | none => .ok record.migration
        | some complaint => .error (.unsuitable complaint))
      let names ← recordedNames rest
      return name :: names) := List.mapM_cons
  rw [split]
  cases memberComplaint? record.migration with
  | some complaint => rfl
  | none => cases recordedNames rest <;> rfl

/-- The recorded names are those of the records, as long as each of them can be a member of a set. -/
theorem recordedNames_eq_ok {found : List Record} {names : List Value} :
    recordedNames found = .ok names ↔
      (∀ record ∈ found, memberComplaint? record.migration = none) ∧ found.map Record.migration = names := by
  induction found generalizing names with
  | nil => simp [recordedNames, pure, Except.pure]
  | cons record rest ih =>
    rw [recordedNames_cons]
    cases complaint : memberComplaint? record.migration with
    | some text => simp [complaint]
    | none =>
      cases later : recordedNames rest with
      | error misuse =>
        have apart : ¬ ∀ record ∈ rest, memberComplaint? record.migration = none := fun every => by
          rw [ih.mpr ⟨every, rfl⟩] at later
          cases later
        simp [Except.map, complaint, apart]
      | ok others =>
        obtain ⟨every, rfl⟩ := ih.mp later
        simpa [Except.map, complaint] using fun _ => every

/-- The names in a reading of the ledger are those of its rows, in whatever order they come. -/
theorem recordedNames_reading {rows ordered : List Entry} (inOrder : InOrder rows ordered) {names : List Value} :
    recordedNames (ordered.map Entry.record) = .ok names ↔
      (∀ entry ∈ rows, memberComplaint? entry.migration = none) ∧ ordered.map Entry.migration = names := by
  rw [recordedNames_eq_ok, List.forall_mem_map, List.map_map]
  refine and_congr_left fun _ => ?_
  constructor
  · intro every entry member
    exact every entry (inOrder.perm.mem_iff.mpr member)
  · intro every entry member
    exact every entry (inOrder.perm.mem_iff.mp member)

theorem contains_reading {rows ordered : List Entry} (inOrder : InOrder rows ordered) (file : String) :
    (ordered.map Entry.migration).contains (.text file) = isRecorded rows file := by
  rw [List.contains_eq_any_beq, List.any_map, isRecorded]
  exact inOrder.perm.any_eq

/-- The names that the ledger holds, as a run reads them. -/
def knownNames (db : Database σ) : Action σ (List Value) := do
  Action.check (recordedNames (← records db))

/-- Reading the names changes nothing. They tell exactly which files are recorded. -/
theorem knownNames_ledger (keeps : KeepsLedger db table) {s : Session σ} (settled : table.Settled s.engine) :
    table.Done (fun before after => after = before) s (on (knownNames db) s) ∧
      ∀ {known t}, on (knownNames db) s = (.ok known, t) →
        (∀ entry ∈ table.rows s.engine, memberComplaint? entry.migration = none) ∧
        ∀ file, known.contains (.text file) = isRecorded (table.rows s.engine) file := by
  obtain ⟨read, inOrder⟩ := records_ledger keeps settled
  unfold knownNames
  rw [on_bind]
  rcases reading : on (records db) s with ⟨result, u⟩
  rw [reading] at read
  cases result with
  | error fault =>
    refine ⟨read, ?_⟩
    intro known t ended
    cases ended
  | ok found =>
    obtain ⟨ordered, inOrder, rfl⟩ := inOrder reading
    dsimp only
    rw [on_check]
    cases recording : recordedNames (ordered.map Entry.record) with
    | error misuse =>
      refine ⟨read, ?_⟩
      intro known t ended
      cases ended
    | ok names =>
      obtain ⟨plain, rfl⟩ := (recordedNames_reading inOrder).mp recording
      refine ⟨read, ?_⟩
      intro known t ended
      cases ended
      exact ⟨plain, contains_reading inOrder⟩

/-- The names of a ledger that can be read are known. -/
theorem knownNames_ok (keeps : KeepsLedger db table) {s t : Session σ} {found : List Record}
    (settled : table.Settled s.engine) (readable : on (records db) s = (.ok found, t))
    (plain : ∀ entry ∈ table.rows s.engine, memberComplaint? entry.migration = none) :
    ∃ known, on (knownNames db) s = (.ok known, t) := by
  obtain ⟨ordered, inOrder, rfl⟩ := (records_ledger keeps settled).2 readable
  refine ⟨ordered.map Entry.migration, ?_⟩
  unfold knownNames
  rw [on_bind, readable]
  dsimp only
  rw [on_check, (recordedNames_reading inOrder).mpr ⟨plain, rfl⟩]
  rfl

/-- What is done with the names and the files is done only if there are both. -/
theorem on_started {α : Type} (use : List Value → List String → Action σ α) (s : Session σ) :
    on (do
      let known ← Action.check (recordedNames (← records db))
      use known (← Action.check (discover tree folder))) s =
      match on (knownNames db) s, discover tree folder with
      | (.ok known, t), .ok files => on (use known files) t
      | (.ok _, t), .error misuse => (.error (.misuse misuse), t)
      | (.error fault, t), _ => (.error fault, t) := by
  unfold knownNames
  rw [on_bind, on_bind]
  rcases on (records db) s with ⟨result, t⟩
  cases result with
  | error fault => rfl
  | ok found =>
    dsimp only
    rw [on_bind]
    cases recordedNames found with
    | error misuse => rfl
    | ok known =>
      rw [on_check_ok]
      dsimp only
      rw [on_bind, on_check]
      cases discover tree folder <;> rfl

theorem on_pending (db : Database σ) (tree : Tree Source.File) (folder : Path) (s : Session σ) :
    on (pending db tree folder) s = match on (knownNames db) s, discover tree folder with
      | (.ok known, t), .ok files => (.ok (files.filter fun file => !known.contains (.text file)), t)
      | (.ok _, t), .error misuse => (.error (.misuse misuse), t)
      | (.error fault, t), _ => (.error fault, t) :=
  on_started (fun known files => return files.filter fun file => !known.contains (.text file)) s

theorem on_applyPending (db : Database σ) (tree : Tree Source.File) (folder : Path) (s : Session σ) :
    on (applyPending db tree folder) s = match on (knownNames db) s, discover tree folder with
      | (.ok known, t), .ok files => on (applyFiles db tree folder known {} files) t
      | (.ok _, t), .error misuse => (.error (.misuse misuse), t)
      | (.error fault, t), _ => (.error fault, t) :=
  on_started (fun known files => applyFiles db tree folder known {} files) s

/-- Announcing changes nothing. -/
theorem pending_ledger (keeps : KeepsLedger db table) {s : Session σ} (settled : table.Settled s.engine) :
    table.Done (fun before after => after = before) s (on (pending db tree folder) s) := by
  obtain ⟨read, -⟩ := knownNames_ledger keeps settled
  rw [on_pending]
  generalize on (knownNames db) s = started at read ⊢
  rcases started with ⟨result, t⟩
  cases result with
  | error fault => exact read
  | ok known => cases discover tree folder <;> exact read

/-- The discovered files are the listed names of the right form, in order. -/
theorem discover_eq (tree : Tree Source.File) (folder : Path) :
    discover tree folder = (tree.listing folder).map (Tree.sortedNames isFileName) := by
  unfold discover
  cases tree.listing folder <;> rfl

theorem discover_ok {files : List String} (found : discover tree folder = .ok files) :
    ∃ names, tree.listing folder = .ok names ∧ files = Tree.sortedNames isFileName names := by
  rw [discover_eq] at found
  cases listed : tree.listing folder with
  | error misuse => rw [listed] at found; cases found
  | ok names =>
    rw [listed] at found
    cases found
    exact ⟨names, rfl, rfl⟩

/-- Files are discovered in the order of their names. -/
theorem discover_sorted {files : List String} (found : discover tree folder = .ok files) :
    files.Pairwise (· ≤ ·) := by
  obtain ⟨names, -, rfl⟩ := discover_ok found
  exact Tree.sortedNames_le isFileName names

/-- What is discovered has a name of the right form. -/
theorem isFileName_of_discovered {files : List String} (found : discover tree folder = .ok files) {name : String}
    (member : name ∈ files) : isFileName name = true := by
  obtain ⟨names, listed, rfl⟩ := discover_ok found
  exact (Tree.mem_sortedNames.mp member).2

/-- No file is discovered twice, since each name comes before the next. -/
theorem discover_lt (distinct : tree.Distinct) {files : List String} (found : discover tree folder = .ok files) :
    files.Pairwise (· < ·) := by
  obtain ⟨names, listed, rfl⟩ := discover_ok found
  exact Tree.sortedNames_lt (distinct.nodup_listing listed)

theorem discover_nodup (distinct : tree.Distinct) {files : List String} (found : discover tree folder = .ok files) :
    files.Nodup :=
  (discover_lt distinct found).imp Std.ne_of_lt

end DataLayer.Migration
