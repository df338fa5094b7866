import DataLayer.Proofs.Migration.Attempt
import DataLayer.Proofs.Migration.Discovery
import DataLayer.Proofs.Migration.LedgerEngine
import DataLayer.Proofs.Source.Loading

/-! What is announced as pending and what a run applies. Main statement: a run attempts the announced
files in their order, each attempt that goes well adds one row to the ledger, and the first one that
does not is where the run ends. -/

namespace DataLayer.Migration

open DataLayer.Action DataLayer.Script LedgerTable

variable {σ : Type} {db : Database σ} {table : LedgerTable σ} {tree : Tree Source.File} {folder : Path}

/-- What is announced: the discovered files that are not recorded. -/
theorem pending_ok (keeps : KeepsLedger db table) {s t : Session σ} {names : List String}
    (settled : table.Settled s.engine) (announced : on (pending db tree folder) s = (.ok names, t)) :
    table.Settled t.engine ∧ table.rows t.engine = table.rows s.engine ∧
      (∀ entry ∈ table.rows s.engine, memberComplaint? entry.migration = none) ∧
      ∃ files, discover tree folder = .ok files ∧
        names = files.filter fun file => !isRecorded (table.rows s.engine) file := by
  obtain ⟨read, known⟩ := knownNames_ledger keeps settled
  rw [on_pending] at announced
  rcases reading : on (knownNames db) s with ⟨result, u⟩
  rw [reading] at read announced
  cases result with
  | error fault => cases announced
  | ok recorded =>
    obtain ⟨plain, members⟩ := known reading
    cases discovered : discover tree folder with
    | error misuse => rw [discovered] at announced; cases announced
    | ok files =>
      rw [discovered] at announced
      simp only [members, Prod.mk.injEq, Except.ok.injEq] at announced
      obtain ⟨rfl, rfl⟩ := announced
      exact ⟨read.1, read.2, plain, files, rfl, rfl⟩

/-- Where the ledger can be read and the folder can be listed there is an announcement. -/
theorem pending_of_readable (keeps : KeepsLedger db table) {s t : Session σ} {found : List Record} {files : List String}
    (settled : table.Settled s.engine) (readable : on (records db) s = (.ok found, t))
    (plain : ∀ entry ∈ table.rows s.engine, memberComplaint? entry.migration = none)
    (discovered : discover tree folder = .ok files) :
    on (pending db tree folder) s = (.ok (files.filter fun file => !isRecorded (table.rows s.engine) file), t) := by
  obtain ⟨known, reading⟩ := knownNames_ok keeps settled readable plain
  obtain ⟨-, members⟩ := (knownNames_ledger keeps settled).2 reading
  rw [on_pending, reading, discovered]
  simp only [members]

/-- In a row in order, what is recorded before an unrecorded file is what is recorded and smaller. -/
theorem filter_smaller {recorded : String → Bool} {before after : List String} {file : String}
    (sorted : (before ++ file :: after).Pairwise (· ≤ ·)) (fresh : recorded file = false) :
    ((before ++ file :: after).filter fun other => recorded other && other < file) = before.filter recorded := by
  obtain ⟨-, later, earlier⟩ := List.pairwise_append.mp sorted
  have head : (before.filter fun other => recorded other && other < file) = before.filter recorded := by
    refine List.filter_congr fun other member => ?_
    cases known : recorded other with
    | false => rfl
    | true =>
      have atMost := earlier other member file List.mem_cons_self
      have apart : other ≠ file := fun same => by
        rw [same, fresh] at known
        cases known
      have smaller : other < file := String.not_le.mp fun atLeast => apart (String.le_antisymm atMost atLeast)
      simp only [smaller, decide_true, Bool.and_true]
  have tail : ((file :: after).filter fun other => recorded other && other < file) = [] := by
    refine List.filter_eq_nil_iff.mpr fun other member => ?_
    have atLeast : file ≤ other := by
      rcases List.mem_cons.mp member with rfl | member
      · exact String.le_refl other
      · exact (List.pairwise_cons.mp later).1 other member
    simp only [Bool.and_eq_true, decide_eq_true_eq, not_and]
    exact fun _ smaller => String.not_le.mpr smaller atLeast
  rw [List.filter_append, head, tail, List.append_nil]

/-- The new rows follow the old ones, one for each name. -/
theorem AppendsAll.added {before after : List Entry} {files : List String} (appends : AppendsAll before files after) :
    ∃ added : List Entry, after = before ++ added ∧ added.map Entry.migration = files.map .text := by
  induction appends with
  | nil rows => exact ⟨[], (List.append_nil rows).symm, rfl⟩
  | cons first later ih =>
    obtain ⟨entry, named, -, rfl⟩ := first
    obtain ⟨added, rfl, names⟩ := ih
    refine ⟨entry :: added, List.append_assoc .., ?_⟩
    rw [List.map_cons, List.map_cons, named, names]

/-- How a run over announced files ends, with the files that it applied. It has come to the last of
them, or an attempt at the one after has failed; the session is then the one after that attempt. -/
inductive RunEnds (db : Database σ) (tree : Tree Source.File) (folder : Path) (recorded : String → Bool)
    (files : List String) (s : Session σ) : List String → List String → Except Fault RunResult × Session σ → Prop where
  | finished {applied : List String} {t : Session σ} (applies : Applies db tree folder s applied t) :
      RunEnds db tree folder recorded files s applied applied (.ok { applied, skipped := files.filter recorded }, t)
  | stopped {applied others : List String} {file : String} {fault : Fault} {t u : Session σ}
      (applies : Applies db tree folder s applied t) (attempt : Attempt db tree folder file t (.error fault) u)
      (seen : fault.escapes = false) :
      RunEnds db tree folder recorded files s (applied ++ file :: others) applied
        (.ok { applied, skipped := files.filter fun other => recorded other && other < file,
               errors := [(file, fault.text)] }, u)
  | escaped {applied others : List String} {file : String} {fault : Fault} {t u : Session σ}
      (applies : Applies db tree folder s applied t) (attempt : Attempt db tree folder file t (.error fault) u)
      (unseen : fault.escapes = true) :
      RunEnds db tree folder recorded files s (applied ++ file :: others) applied (.error fault, u)

/-- A run stops at the first announced file that fails, and tells of it. -/
theorem applyPending_stops {s t u v : Session σ} {known : List Value} {files done later : List String} {file : String}
    {fault : Fault} (read : on (knownNames db) s = (.ok known, t)) (discovered : discover tree folder = .ok files)
    (announced : (files.filter fun file => !known.contains (.text file)) = done ++ file :: later)
    (applies : Applies db tree folder t done u) (attempt : Attempt db tree folder file u (.error fault) v)
    (seen : fault.escapes = false) :
    ∃ result, on (applyPending db tree folder) s = (.ok result, v) ∧ result.applied = done ∧
      result.errors = [(file, fault.text)] := by
  rw [on_applyPending, read, discovered]
  obtain ⟨result, ended, applied, errors⟩ := applyFiles_stops announced applies attempt seen {}
  exact ⟨result, ended, applied, errors⟩

/-- A run goes over the files that are not recorded, and the ledger grows by the names of those that
are applied. -/
theorem applyFiles_ends (keeps : KeepsLedger db table) {known : List Value} {recorded : String → Bool}
    (members : ∀ file, known.contains (.text file) = recorded file) {files : List String}
    (sorted : files.Pairwise (· ≤ ·))
    (harmless : ∀ file ∈ files, recorded file = false → Harmless db table tree folder file) {s : Session σ}
    (settled : table.Settled s.engine) :
    ∃ applied, RunEnds db tree folder recorded files s (files.filter fun file => !recorded file) applied
        (on (applyFiles db tree folder known {} files) s) ∧
      table.Settled (on (applyFiles db tree folder known {} files) s).2.engine ∧
      AppendsAll (table.rows s.engine) applied (table.rows (on (applyFiles db tree folder known {} files) s).2.engine) := by
  obtain ⟨applied, rest, reached, split, applies, ended⟩ := applyFiles_runs db tree folder known {} files s
  simp only [members] at split ended
  have fresh {file : String} (member : file ∈ applied ++ rest) : Harmless db table tree folder file := by
    rw [← split, List.mem_filter] at member
    exact harmless file member.1 (by simpa using member.2)
  obtain ⟨between, appends⟩ :=
    applies_ledger keeps (fun file member => fresh (List.mem_append_left rest member)) settled applies
  refine ⟨applied, ?_⟩
  rw [split]
  cases rest with
  | nil =>
    rw [ended, List.append_nil]
    exact ⟨.finished applies, between, appends⟩
  | cons file others =>
    obtain ⟨before, after, fault, last, cut, known, attempt, ended⟩ := ended
    have left := attempt_ledger keeps (fresh (List.mem_append_right applied List.mem_cons_self)) between attempt
    rw [cut] at sorted
    rw [ended]
    refine ⟨?_, left.1, left.2 ▸ appends⟩
    cases seen : fault.escapes with
    | true => exact .escaped applies attempt seen
    | false =>
      have smaller := filter_smaller sorted known
      rw [← cut] at smaller
      rw [List.nil_append, List.nil_append, List.nil_append, ← smaller]
      exact .stopped applies attempt seen

/-- A run does what was announced. It applies the announced files from the first one on, and when an
attempt fails, that is the last thing it does. The ledger grows by the names of the applied files. -/
theorem applyPending_announced (keeps : KeepsLedger db table) {s t u : Session σ} {names : List String}
    {found : List Record} (settled : table.Settled s.engine)
    (announced : on (pending db tree folder) s = (.ok names, t)) (readable : on (records db) t = (.ok found, u))
    (harmless : ∀ file ∈ names, Harmless db table tree folder file) :
    ∃ files applied added, discover tree folder = .ok files ∧
      RunEnds db tree folder (isRecorded (table.rows s.engine)) files u names applied
        (on (applyPending db tree folder) t) ∧
      table.rows (on (applyPending db tree folder) t).2.engine = table.rows s.engine ++ added ∧
      added.map Entry.migration = applied.map .text := by
  obtain ⟨settled', same, plain, files, discovered, rfl⟩ := pending_ok keeps settled announced
  rw [← same] at plain harmless ⊢
  obtain ⟨known, reading⟩ := knownNames_ok keeps settled' readable plain
  obtain ⟨read, members⟩ := knownNames_ledger keeps settled'
  rw [reading] at read
  obtain ⟨rests, same'⟩ := read
  have fresh (file : String) (member : file ∈ files) (unrecorded : isRecorded (table.rows t.engine) file = false) :
      Harmless db table tree folder file :=
    harmless file (List.mem_filter.mpr ⟨member, by simpa using unrecorded⟩)
  obtain ⟨applied, ends, -, appends⟩ :=
    applyFiles_ends keeps (members reading).2 (discover_sorted discovered) fresh rests
  rw [same'] at appends
  obtain ⟨added, rows, grown⟩ := appends.added
  refine ⟨files, applied, added, discovered, ?_⟩
  rw [on_applyPending, reading, discovered]
  exact ⟨ends, rows, grown⟩

/-- A file whose migration changes nothing is harmless. -/
theorem harmless_singleClass {file : String} (found : tree.find? (folder.child file) = some (.file (Source.singleClass [] [])))
    (ending : ".py".toList.isSuffixOf (folder.child file).name.toList = true) : Harmless db table tree folder file := by
  intro definition loading
  rw [Source.instantiate_onlyClass found ending (Source.bindings_singleClass _ [] []) (by decide)] at loading
  cases loading
  exact moves_pure ()

/-- A folder in the place of a file is harmless. -/
theorem harmless_folder {file : String} (found : tree.find? (folder.child file) = some .folder) :
    Harmless db table tree folder file := by
  intro definition loading
  obtain ⟨fault, refused⟩ := Source.instantiate_folder found
  rw [refused] at loading
  cases loading

/-- A run over a recorded file, one that can be applied, and a folder that is named like one. -/
theorem applyPending_announced_mixed :
    let first := "2025_01_01_000000_first.py"
    let second := "2025_01_02_000000_second.py"
    let third := "2025_01_03_000000_third.py"
    let file : Node Source.File := .file (Source.singleClass [] [])
    let tree : Tree Source.File :=
      { nodes := [(["m"], .folder), (["m", first], file), (["m", second], file), (["m", third], .folder)] }
    let folder : Path := { parts := ["m"] }
    let db : Database LedgerEngine :=
      { kind := .sqlite, config := {}, now := ⟨⟨2025, 1, 1⟩, ⟨0, 0, 0, 0, none⟩⟩, driver := LedgerEngine.driver }
    let rows : List Entry := [⟨1, .text first, .null⟩]
    let s : Session LedgerEngine := { engine := { rows, saved := rows }, held := true }
    ∃ t u files applied added, on (pending db tree folder) s = (.ok [second, third], t) ∧
      discover tree folder = .ok files ∧
      RunEnds db tree folder (isRecorded rows) files u [second, third] applied (on (applyPending db tree folder) t) ∧
      LedgerEngine.ledger.rows (on (applyPending db tree folder) t).2.engine = rows ++ added ∧
      added.map Entry.migration = applied.map .text := by
  intro first second third file tree folder db rows s
  have keeps : KeepsLedger db LedgerEngine.ledger := LedgerEngine.keepsLedger db rfl
  have settled : LedgerEngine.ledger.Settled s.engine := rfl
  have plain : ∀ entry ∈ LedgerEngine.ledger.rows s.engine, memberComplaint? entry.migration = none := by
    intro entry member
    cases List.mem_singleton.mp member
    rfl
  have discovered : discover tree folder = .ok [first, second, third] := by
    have listed : tree.listing folder = .ok [first, second, third] := rfl
    have named : [first, second, third].filter isFileName = [first, second, third] := by decide +kernel
    have sorted : ([first, second, third].mergeSort fun first second => decide (first ≤ second)) =
        [first, second, third] :=
      List.mergeSort_of_pairwise (by decide)
    unfold discover
    rw [listed]
    change Except.ok (([first, second, third].filter isFileName).mergeSort _) = _
    rw [named, sorted]
  have unrecorded : ([first, second, third].filter fun file => !isRecorded rows file) = [second, third] := by
    simp only [isRecorded, rows, List.any_cons, List.any_nil, Value.text_beq_text, Bool.or_false]
    decide
  have harmless : ∀ file ∈ [second, third], Harmless db LedgerEngine.ledger tree folder file := by
    have place : folder.child second = { parts := ["m", second] } :=
      show Path.child { parts := ["m"] } "2025_01_02_000000_second.py" = _ by decide +kernel
    have place' : folder.child third = { parts := ["m", third] } :=
      show Path.child { parts := ["m"] } "2025_01_03_000000_third.py" = _ by decide +kernel
    intro file member
    rcases List.mem_cons.mp member with rfl | member
    · exact harmless_singleClass (by rw [place]; rfl) (by decide)
    · rw [List.mem_singleton.mp member]
      exact harmless_folder (by rw [place']; rfl)
  obtain ⟨t, readable, held, calm⟩ := @LedgerEngine.records_calm db rfl s rfl rfl
  obtain ⟨u, readable', -, -⟩ := @LedgerEngine.records_calm db rfl t held calm
  have announced : on (pending db tree folder) s = (.ok [second, third], t) := by
    rw [← unrecorded]
    exact pending_of_readable keeps settled readable plain discovered
  obtain ⟨files, applied, added, run⟩ := applyPending_announced keeps settled announced readable' harmless
  exact ⟨t, u, files, applied, added, announced, run⟩

end DataLayer.Migration
