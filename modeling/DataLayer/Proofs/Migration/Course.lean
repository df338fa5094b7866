import DataLayer.Proofs.Migration.History
import DataLayer.Proofs.Script.Sent

/-! The course of a whole run. Either nothing is attempted, because the ledger cannot be read or the
folder cannot be listed, or the files that are not recorded are run over; main statement: a run has one of
these courses, and the ledger grows by the names that it applied. -/

namespace DataLayer.Migration

open DataLayer.Action DataLayer.Database DataLayer.Script LedgerTable

variable {σ : Type} {db : Database σ} {table : LedgerTable σ} {tree : Tree Source.File} {folder : Path}

/-- The migrations in all files of a tree leave the ledger alone. -/
def QuietTree (db : Database σ) (table : LedgerTable σ) (tree : Tree Source.File) : Prop :=
  ∀ ⦃place : Place⦄ ⦃file : Source.File⦄, (place, .file file) ∈ tree.nodes → QuietFile db table file

theorem QuietTree.harmless (quiet : QuietTree db table tree) (now : Moment) (folder : Path) (file : String) :
    Harmless { db with now } table tree folder file := by
  intro definition loading
  obtain ⟨place, content, bindings, member, bound, candidate⟩ := Source.instantiate_ok loading
  exact (quiet member now bound candidate).1

theorem QuietTree.harmlessDown (quiet : QuietTree db table tree) (now : Moment) :
    HarmlessDown { db with now } table tree := by
  intro path definition loading
  obtain ⟨place, content, bindings, member, bound, candidate⟩ := Source.instantiate_ok loading
  exact (quiet member now bound candidate).2

/-- The names are known only where the ledger was read. -/
theorem records_of_knownNames {s t : Session σ} {known : List Value} (reading : on (knownNames db) s = (.ok known, t)) :
    ∃ found, on (records db) s = (.ok found, t) := by
  unfold knownNames at reading
  rw [on_bind] at reading
  rcases read : on (records db) s with ⟨fault | found, u⟩
  · rw [read] at reading
    cases reading
  · rw [read] at reading
    dsimp only at reading
    rw [on_check] at reading
    exact ⟨found, congrArg (Except.ok found, ·) (congrArg Prod.snd reading)⟩

theorem isRecorded_append (rows more : List Entry) (file : String) :
    isRecorded (rows ++ more) file = (isRecorded rows file || isRecorded more file) :=
  List.any_append

/-- Among rows that have these names, the files of these names are recorded. -/
theorem isRecorded_named {rows : List Entry} {names : List String} (named : rows.map Entry.migration = names.map .text)
    (file : String) : isRecorded rows file = names.contains file := by
  calc isRecorded rows file = (rows.map Entry.migration).any (Value.text file == ·) := by
        rw [List.any_map]
        rfl
    _ = names.any (file == ·) := by
        rw [named, List.any_map]
        exact List.any_congr rfl fun name => Value.text_beq_text file name
    _ = names.contains file := List.contains_eq_any_beq.symm

/-- Rows that are named by files spoil no reading of the names. -/
theorem plain_append {rows added : List Entry} {names : List String}
    (plain : ∀ entry ∈ rows, memberComplaint? entry.migration = none)
    (named : added.map Entry.migration = names.map .text) :
    ∀ entry ∈ rows ++ added, memberComplaint? entry.migration = none := by
  intro entry member
  rcases List.mem_append.mp member with old | new
  · exact plain entry old
  · have text := List.mem_map_of_mem (f := Entry.migration) new
    rw [named, List.mem_map] at text
    obtain ⟨name, -, text⟩ := text
    rw [← text]
    rfl

theorem map_text_inj {names others : List String} (same : names.map Value.text = others.map .text) : names = others :=
  List.map_injective_iff.mpr (fun _ _ equal => Value.text.inj equal) same

/-- Every new row has a larger number than all rows before it. -/
theorem AppendsAll.largest {before after : List Entry} {files : List String} (appends : AppendsAll before files after)
    {front back : List Entry} {entry : Entry} (split : after = before ++ (front ++ entry :: back)) :
    ∀ other ∈ before ++ front, other.id < entry.id := by
  induction appends generalizing front with
  | nil rows =>
    have empty : front ++ entry :: back = [] := List.append_cancel_left (by rw [← split, List.append_nil])
    exact absurd empty (by simp)
  | @cons before between after file rest first later ih =>
    obtain ⟨new, -, larger, rfl⟩ := first
    obtain ⟨added, rows, -⟩ := later.added
    rw [List.append_assoc] at rows
    have same : [new] ++ added = front ++ entry :: back := List.append_cancel_left (rows.symm.trans split)
    cases front with
    | nil =>
      obtain ⟨rfl, -⟩ := List.cons.inj same
      rwa [List.append_nil]
    | cons head front =>
      obtain ⟨rfl, rest⟩ := List.cons.inj same
      have inner := @ih front (by rw [split, List.append_assoc]; rfl)
      intro other member
      exact inner other (by simpa using member)

/-- What a run over announced files returns names what it applied. -/
theorem RunEnds.result_applied {recorded : String → Bool} {files names applied : List String} {s : Session σ}
    {ended : Except Fault RunResult × Session σ} (ends : RunEnds db tree folder recorded files s names applied ended)
    {result : RunResult} (returned : ended.1 = .ok result) : result.applied = applied := by
  cases ends with
  | finished applies =>
    cases returned
    rfl
  | stopped applies attempt seen =>
    cases returned
    rfl
  | escaped applies attempt unseen => cases returned

/-- A run without an error has applied all announced files, and skipped all recorded ones. -/
theorem RunEnds.flawless {recorded : String → Bool} {files names applied : List String} {s : Session σ}
    {ended : Except Fault RunResult × Session σ} (ends : RunEnds db tree folder recorded files s names applied ended)
    {result : RunResult} (returned : ended.1 = .ok result) (none : result.errors = []) :
    names = applied ∧ result.skipped = files.filter recorded := by
  cases ends with
  | finished applies =>
    cases returned
    exact ⟨rfl, rfl⟩
  | stopped applies attempt seen =>
    cases returned
    cases none
  | escaped applies attempt unseen => cases returned

/-- A run that has applied all announced files is at its end. -/
theorem RunEnds.complete {recorded : String → Bool} {files names applied : List String} {s : Session σ}
    {ended : Except Fault RunResult × Session σ} (ends : RunEnds db tree folder recorded files s names applied ended)
    (all : names.length ≤ applied.length) :
    ended.1 = .ok { applied := names, skipped := files.filter recorded } := by
  have shorter (others : List String) (file : String) : ¬ (applied ++ file :: others).length ≤ applied.length := by
    rw [List.length_append, List.length_cons]
    omega
  cases ends with
  | finished applies => rfl
  | stopped applies attempt seen => exact absurd all (shorter _ _)
  | escaped applies attempt unseen => exact absurd all (shorter _ _)

/-- A recorded file that comes before all announced ones is skipped. -/
theorem RunEnds.skips {recorded : String → Bool} {files names applied : List String} {s : Session σ}
    {ended : Except Fault RunResult × Session σ} (ends : RunEnds db tree folder recorded files s names applied ended)
    {result : RunResult} (returned : ended.1 = .ok result) {name : String} (member : name ∈ files)
    (known : recorded name = true) (earlier : ∀ other ∈ names, name < other) : name ∈ result.skipped := by
  cases ends with
  | finished applies =>
    cases returned
    exact List.mem_filter.mpr ⟨member, known⟩
  | @stopped applied others file fault t u applies attempt seen =>
    cases returned
    have smaller : name < file := earlier file (List.mem_append_right applied List.mem_cons_self)
    exact List.mem_filter.mpr ⟨member, by simp [known, smaller]⟩
  | escaped applies attempt unseen => cases returned

/-- Everything goes well that it takes to apply a file in a session: it can be loaded, and what it does and
the recording of it succeed. -/
def Applicable (db : Database σ) (tree : Tree Source.File) (folder : Path) (file : String) (s : Session σ) : Prop :=
  ∃ definition t u, instantiate tree (folder.child file) = .ok definition ∧
    on (SchemaStep.performAll db (definition.up.getD [])) (bound file s) = (.ok (), t) ∧
    on (recordFile db file) t = (.ok (), u)

/-- An attempt at a file that can be applied does not fail. -/
theorem Attempt.succeeds {file : String} {s t : Session σ} {result : Except Fault Unit}
    (attempt : Attempt db tree folder file s result t) (applicable : Applicable db tree folder file s) :
    result = .ok () := by
  obtain ⟨definition, u, v, loads, does, records⟩ := applicable
  cases attempt with
  | unloaded loading =>
    rw [loads] at loading
    cases loading
  | undone loading changing =>
    rw [loads] at loading
    cases loading
    rw [does] at changing
    cases changing
  | unrecorded loading changing recording =>
    rw [loads] at loading
    cases loading
    rw [does] at changing
    cases changing
    rw [records] at recording
    cases recording
  | applied loading changing recording => rfl

/-- A run gets past the announced files that it meets as ones that can be applied. -/
theorem RunEnds.reaches {recorded : String → Bool} {files names rest applied : List String} {s : Session σ}
    {ended : Except Fault RunResult × Session σ}
    (ends : RunEnds db tree folder recorded files s (names ++ rest) applied ended)
    (applicable : ∀ {done later file u}, names = done ++ file :: later → Applies db tree folder s done u →
      Applicable db tree folder file u) :
    ∃ more, applied = names ++ more := by
  have passes {others : List String} {file : String} {fault : Fault} {t u : Session σ}
      (split : names ++ rest = applied ++ file :: others) (applies : Applies db tree folder s applied t)
      (attempt : Attempt db tree folder file t (.error fault) u) : ∃ more, applied = names ++ more := by
    rcases List.append_eq_append_iff.mp split with ⟨more, reached, -⟩ | ⟨later, left, right⟩
    · exact ⟨more, reached⟩
    · cases later with
      | nil => exact ⟨[], by rw [left, List.append_nil, List.append_nil]⟩
      | cons next later =>
        obtain ⟨rfl, -⟩ := List.cons.inj right
        cases attempt.succeeds (applicable left applies)
  generalize whole : names ++ rest = all at ends
  cases ends with
  | finished applies => exact ⟨rest, whole.symm⟩
  | stopped applies attempt seen => exact passes whole applies attempt
  | escaped applies attempt unseen => exact passes whole applies attempt

/-- The course of a run from a session over some rows of the ledger, with the names that it applies. -/
inductive RunGoes (db : Database σ) (tree : Tree Source.File) (folder : Path) (rows : List Entry) (s : Session σ) :
    List String → Except Fault RunResult × Session σ → Prop where
  /-- Nothing is attempted. -/
  | idle (fault : Fault) (t : Session σ) : RunGoes db tree folder rows s [] (.error fault, t)
  /-- The files that are not recorded are run over. -/
  | ran {files applied : List String} {ended : Except Fault RunResult × Session σ}
      (discovered : discover tree folder = .ok files)
      (plain : ∀ entry ∈ rows, memberComplaint? entry.migration = none)
      (ends : RunEnds db tree folder (isRecorded rows) files (on (records db) s).2
        (files.filter fun file => !isRecorded rows file) applied ended) :
      RunGoes db tree folder rows s applied ended

/-- Where the ledger can be read and the folder can be listed, the files that are not recorded are run over. -/
theorem applyPending_over (keeps : KeepsLedger db table) (harmless : ∀ file, Harmless db table tree folder file)
    {s t : Session σ} {found : List Record} {files : List String} (settled : table.Settled s.engine)
    (readable : on (records db) s = (.ok found, t))
    (plain : ∀ entry ∈ table.rows s.engine, memberComplaint? entry.migration = none)
    (discovered : discover tree folder = .ok files) :
    let ended := on (applyPending db tree folder) s
    ∃ applied, RunEnds db tree folder (isRecorded (table.rows s.engine)) files t
        (files.filter fun file => !isRecorded (table.rows s.engine) file) applied ended ∧
      table.Settled ended.2.engine ∧ AppendsAll (table.rows s.engine) applied (table.rows ended.2.engine) := by
  intro ended
  obtain ⟨known, reading⟩ := knownNames_ok keeps settled readable plain
  obtain ⟨read, members⟩ := knownNames_ledger keeps settled
  rw [reading] at read
  obtain ⟨rests, same⟩ := read
  have unfolded : ended = _ := on_applyPending db tree folder s
  rw [reading, discovered] at unfolded
  rw [unfolded, ← same]
  exact applyFiles_ends keeps (same ▸ (members reading).2) (discover_sorted discovered) (fun file _ _ => harmless file) rests

/-- A reading of the ledger sends one statement. -/
theorem sent_records {s t : Session σ} {found : List Record} (read : on (records db) s = (.ok found, t)) :
    sent (records db) s = [(.text Ledger.selectSql, [])] := by
  have unfolded := on_records db s
  rcases ran : on (run db (.text Ledger.selectSql) []) s with ⟨fault | statement, u⟩
  · rw [ran, read] at unfolded
    cases unfolded
  · rw [← Database.sent_run ran]
    exact sent_congr (by rw [unfolded, ran])

/-- Where every file is recorded nothing is applied, and nothing but the reading of the ledger is sent. -/
theorem applyPending_full (keeps : KeepsLedger db table) (harmless : ∀ file, Harmless db table tree folder file)
    {s t : Session σ} {found : List Record} {files : List String} (settled : table.Settled s.engine)
    (readable : on (records db) s = (.ok found, t))
    (plain : ∀ entry ∈ table.rows s.engine, memberComplaint? entry.migration = none)
    (discovered : discover tree folder = .ok files)
    (full : ∀ file ∈ files, isRecorded (table.rows s.engine) file = true) :
    on (applyPending db tree folder) s = (.ok { skipped := files }, t) ∧
      sent (applyPending db tree folder) s = [(.text Ledger.selectSql, [])] := by
  obtain ⟨applied, ends, -⟩ := applyPending_over keeps harmless settled readable plain discovered
  have none : (files.filter fun file => !isRecorded (table.rows s.engine) file) = [] :=
    List.filter_eq_nil_iff.mpr fun file member => by simp [full file member]
  have all : files.filter (isRecorded (table.rows s.engine)) = files := List.filter_eq_self.mpr full
  rw [none] at ends
  have ended : on (applyPending db tree folder) s = (.ok { skipped := files }, t) := by
    generalize on (applyPending db tree folder) s = ended at ends
    generalize whole : ([] : List String) = names at ends
    cases ends with
    | finished applies =>
      subst whole
      cases applies
      rw [all]
    | stopped applies attempt seen => simp at whole
    | escaped applies attempt unseen => simp at whole
  refine ⟨ended, ?_⟩
  rw [← sent_records readable]
  exact sent_congr (by rw [ended, readable])

/-- A run has one of these courses, and adds a row for each name that it applies. -/
theorem applyPending_goes (keeps : KeepsLedger db table) (harmless : ∀ file, Harmless db table tree folder file)
    {s : Session σ} (settled : table.Settled s.engine) :
    let ended := on (applyPending db tree folder) s
    ∃ applied, RunGoes db tree folder (table.rows s.engine) s applied ended ∧ table.Settled ended.2.engine ∧
      AppendsAll (table.rows s.engine) applied (table.rows ended.2.engine) := by
  intro ended
  obtain ⟨read, members⟩ := knownNames_ledger keeps settled
  obtain ⟨rests, same⟩ := read.same
  have unfolded : ended = _ := on_applyPending db tree folder s
  rcases reading : on (knownNames db) s with ⟨fault | known, u⟩
  · rw [reading] at unfolded rests same
    rw [unfolded]
    exact ⟨[], .idle fault u, rests, same ▸ .nil _⟩
  · cases discovered : discover tree folder with
    | error misuse =>
      rw [reading, discovered] at unfolded
      rw [reading] at rests same
      rw [unfolded]
      exact ⟨[], .idle _ u, rests, same ▸ .nil _⟩
    | ok files =>
      obtain ⟨found, readable⟩ := records_of_knownNames reading
      have plain := (members reading).1
      obtain ⟨applied, ends, after⟩ := applyPending_over keeps harmless settled readable plain discovered
      refine ⟨applied, .ran discovered plain ?_, after⟩
      rw [readable]
      exact ends

namespace RunGoes

variable {rows : List Entry} {s : Session σ} {applied : List String} {ended : Except Fault RunResult × Session σ}

theorem result_applied (goes : RunGoes db tree folder rows s applied ended) {result : RunResult}
    (returned : ended.1 = .ok result) : result.applied = applied := by
  cases goes with
  | idle fault t => cases returned
  | ran discovered plain ends => exact ends.result_applied returned

/-- Every applied file was discovered, and was not recorded. -/
theorem of_mem (goes : RunGoes db tree folder rows s applied ended) {file : String} (member : file ∈ applied) :
    ∃ files, discover tree folder = .ok files ∧ file ∈ files ∧ isRecorded rows file = false ∧
      ∀ entry ∈ rows, memberComplaint? entry.migration = none := by
  cases goes with
  | idle fault t => cases member
  | @ran files _ _ discovered plain ends =>
    obtain ⟨rest, names⟩ := ends.applied_prefix
    have announced : file ∈ files.filter fun file => !isRecorded rows file := by
      rw [names]
      exact List.mem_append_left rest member
    rw [List.mem_filter] at announced
    exact ⟨files, discovered, announced.1, by simpa using announced.2, plain⟩

/-- No file is applied twice. -/
theorem nodup (goes : RunGoes db tree folder rows s applied ended) (distinct : tree.Distinct) : applied.Nodup := by
  cases goes with
  | idle fault t => exact List.nodup_nil
  | ran discovered plain ends =>
    obtain ⟨rest, names⟩ := ends.applied_prefix
    have once := (discover_nodup distinct discovered).filter fun file => !isRecorded rows file
    rw [names] at once
    exact (List.nodup_append.mp once).1

end RunGoes

end DataLayer.Migration
