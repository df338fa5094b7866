import DataLayer.Proofs.Folder.Changing
import DataLayer.Proofs.Migration.CalmEngine
import DataLayer.Proofs.Migration.FileName
import DataLayer.Proofs.Migration.Foresight

/-! Going on after a failed run. What a run has applied is recorded when it fails, so that the next one starts
with the file that failed; main statement: when that file has been replaced by one that works, the two runs
together apply what a single run over the repaired folder would have applied. -/

namespace DataLayer.Migration

open DataLayer.Action DataLayer.Database DataLayer.Script LedgerTable

variable {σ : Type} {db : Database σ} {table : LedgerTable σ} {tree repaired : Tree Source.File} {folder : Path}
  {met : Session σ → Prop}

/-- A run that fails at a file: those announced before it are applied, and the attempt at it is the last thing
that the run does. -/
def FailsAt (db : Database σ) (tree : Tree Source.File) (folder : Path) (rows : List Entry) (file : String)
    (s : Session σ) : Prop :=
  ∃ files before after, discover tree folder = .ok files ∧
    (files.filter fun other => !isRecorded rows other) = before ++ file :: after ∧
    (∀ entry ∈ rows, memberComplaint? entry.migration = none) ∧
    RunEnds db tree folder (isRecorded rows) files (on (records db) s).2 (before ++ file :: after) before
      (on (applyPending db tree folder) s)

/-- A run that returns an error at a file has failed at it. -/
theorem failsAt_of_errors (keeps : KeepsLedger db table) (quiet : QuietTree db table tree) {s : Session σ}
    (settled : table.Settled s.engine) {result : RunResult} (returned : (on (applyPending db tree folder) s).1 = .ok result)
    {file text : String} (failed : result.errors = [(file, text)]) :
    FailsAt db tree folder (table.rows s.engine) file s := by
  obtain ⟨applied, goes, -⟩ := applyPending_goes keeps (fun file => quiet.harmless db.now folder file) settled
  generalize ran : on (applyPending { db with now := db.now } tree folder) s = ended at goes
  change on (applyPending db tree folder) s = ended at ran
  cases goes with
  | idle fault t =>
    rw [ran] at returned
    cases returned
  | @ran files _ _ discovered plain ends =>
    generalize announced : (files.filter fun file => !isRecorded (table.rows s.engine) file) = names at ends
    cases ends with
    | finished applies =>
      rw [ran] at returned
      cases returned
      cases failed
    | escaped applies attempt unseen =>
      rw [ran] at returned
      cases returned
    | stopped applies attempt seen =>
      rw [ran] at returned
      cases returned
      cases failed
      exact ⟨files, _, _, discovered, announced, plain, ran ▸ .stopped applies attempt seen⟩

/-- A folder in which one file was replaced: the names are the same, and so is what every other name stands for. -/
structure Replaces (tree repaired : Tree Source.File) (folder : Path) (file : String) : Prop where
  listed : repaired.listing folder = tree.listing folder
  others : ∀ {other}, isFileName other = true → other ≠ file →
    repaired.find? (folder.child other) = tree.find? (folder.child other)

theorem Replaces.discover {file : String} (replaces : Replaces tree repaired folder file) :
    Migration.discover repaired folder = Migration.discover tree folder := by
  unfold Migration.discover
  rw [replaces.listed]

/-- A file that is put in the place of another one replaces it. -/
theorem replaces_put {file : String} (named : isFileName file = true) {place : Place} {old : Source.File}
    (located : tree.locate (folder.child file) = some place) (there : tree.at? place = some (.file old))
    (new : Source.File) : Replaces tree (tree.put place (.file new)) folder file where
  listed := Tree.listing_replace there new folder
  others named' apart :=
    Tree.find?_replace (isName_of_isFileName named) (isName_of_isFileName named') apart located there new

/-- What is announced after some of the announced files were applied: the others. -/
theorem announced_later {rows added : List Entry} {files before after : List String} (distinct : files.Nodup)
    (announced : (files.filter fun file => !isRecorded rows file) = before ++ after)
    (named : added.map Entry.migration = before.map .text) :
    (files.filter fun file => !isRecorded (rows ++ added) file) = after := by
  have once : (before ++ after).Nodup := announced ▸ distinct.filter _
  have first : (before.filter fun file => !before.contains file) = [] :=
    List.filter_eq_nil_iff.mpr fun file member => by simp [member]
  have rest : (after.filter fun file => !before.contains file) = after :=
    List.filter_eq_self.mpr fun file member => by
      have apart : file ∉ before := fun early => List.disjoint_of_nodup_append once early member
      simp [apart]
  calc (files.filter fun file => !isRecorded (rows ++ added) file)
      = files.filter (fun file => !before.contains file && !isRecorded rows file) :=
        List.filter_congr fun file _ => by
          rw [isRecorded_append, isRecorded_named named, Bool.not_or, Bool.and_comm]
    _ = (files.filter fun file => !isRecorded rows file).filter fun file => !before.contains file :=
        (List.filter_filter ..).symm
    _ = after := by rw [announced, List.filter_append, first, rest, List.nil_append]

/-- What could be applied before can be applied with the file replaced. -/
theorem Replaces.good {file : String} (replaces : Replaces tree repaired folder file)
    {outcome outcome' : String → Except Fault Unit} (decided : ∀ name, Decided db met tree folder name (outcome name))
    (decided' : ∀ name, Decided db met repaired folder name (outcome' name)) {s : Session σ} (holds : met s) {name : String}
    (conform : isFileName name = true) (apart : name ≠ file) (good : outcome name = .ok ()) : outcome' name = .ok () := by
  have same := Source.instantiate_congr (replaces.others conform apart)
  rw [← (decided name).eq (decided' name) same.symm holds]
  exact good

/-- Announced files are announced in the order of their names. -/
theorem announced_lt (distinct : tree.Distinct) {files before after : List String}
    (discovered : discover tree folder = .ok files) {recorded : String → Bool}
    (announced : (files.filter fun file => !recorded file) = before ++ after) {name other : String}
    (early : name ∈ before) (late : other ∈ after) : name < other := by
  have sorted : (before ++ after).Pairwise (· < ·) := announced ▸ (discover_lt distinct discovered).filter _
  exact (List.pairwise_append.mp sorted).2.2 name early other late

/-- After a run without an error every file is recorded. -/
theorem RunEnds.records_all {rows added : List Entry} {files names applied : List String} {s : Session σ}
    {ended : Except Fault RunResult × Session σ}
    (ends : RunEnds db tree folder (isRecorded rows) files s names applied ended)
    (announced : (files.filter fun file => !isRecorded rows file) = names)
    (named : added.map Entry.migration = applied.map .text) {result : RunResult} (returned : ended.1 = .ok result)
    (none : result.errors = []) : ∀ name ∈ files, isRecorded (rows ++ added) name = true := by
  intro name member
  obtain ⟨all, -⟩ := ends.flawless returned none
  rw [isRecorded_append, isRecorded_named named, ← all]
  cases known : isRecorded rows name with
  | true => rfl
  | false =>
    have left : name ∈ files.filter fun file => !isRecorded rows file := List.mem_filter.mpr ⟨member, by rw [known]; rfl⟩
    rw [announced] at left
    simpa using left

/-- Where every file is recorded, a run applies nothing and leaves the ledger as it is. -/
theorem applyPending_idle (keeps : KeepsLedger db table) (obliging : Obliging db met) (quiet : QuietTree db table tree)
    {s : Session σ} (settled : table.Settled s.engine) (holds : met s)
    (plain : ∀ entry ∈ table.rows s.engine, memberComplaint? entry.migration = none) {files : List String}
    (discovered : discover tree folder = .ok files) (full : ∀ name ∈ files, isRecorded (table.rows s.engine) name = true)
    (now : Moment) :
    let ended := on (applyPending { db with now } tree folder) s
    ended.1 = .ok { skipped := files } ∧
      sent (applyPending { db with now } tree folder) s = [(.text Ledger.selectSql, [])] ∧
      table.rows ended.2.engine = table.rows s.engine := by
  intro ended
  obtain ⟨found, t, readable, -⟩ := obliging.reads now holds
  obtain ⟨last, sends⟩ := applyPending_full (keeps.at now) (fun name => quiet.harmless now folder name) settled readable
    plain discovered full
  have kept := (records_ledger (keeps.at now) settled).1
  rw [readable] at kept
  rw [show ended = _ from last]
  exact ⟨rfl, sends, kept.2⟩

/-- A run that failed at a file goes on with it when it has been replaced by one that works. The two runs leave
the names in the ledger that a single run over the repaired folder would have left, and apply one after the
other what it would have applied. What the first one applied the second one skips, the file is recorded now, and
once every file is recorded a further run applies nothing and sends nothing but the reading of the ledger. -/
theorem applyPending_resumes (keeps : KeepsLedger db table) (obliging : Obliging db met)
    (quiet : QuietTree db table tree) (quiet' : QuietTree db table repaired) (steady : SteadyTree db met tree)
    (steady' : SteadyTree db met repaired) (distinct : repaired.Distinct) {file : String}
    (replaces : Replaces tree repaired folder file) {definition : Source.ClassValue}
    (loads : instantiate repaired (folder.child file) = .ok definition)
    (works : Foretold db met (definition.up.getD []) (.ok ())) {s : Session σ} (settled : table.Settled s.engine)
    (holds : met s) (first second third single : Moment)
    (failed : FailsAt { db with now := first } tree folder (table.rows s.engine) file s) :
    let broken := on (applyPending { db with now := first } tree folder) s
    let resumed := on (applyPending { db with now := second } repaired folder) broken.2
    let further := on (applyPending { db with now := third } repaired folder) resumed.2
    let whole := on (applyPending { db with now := single } repaired folder) s
    (table.rows resumed.2.engine).map Entry.migration = (table.rows whole.2.engine).map Entry.migration ∧
    (∃ done added, table.rows broken.2.engine = table.rows s.engine ++ added ∧
      added.map Entry.migration = done.map .text ∧
      (∀ returned, broken.1 = .ok returned → returned.applied = done) ∧
      (whole.1.map RunResult.applied = resumed.1.map fun later => done ++ later.applied) ∧
      ∀ later, resumed.1 = .ok later → ∀ name ∈ done, name ∈ later.skipped) ∧
    isRecorded (table.rows resumed.2.engine) file = true ∧
    ∃ files, discover repaired folder = .ok files ∧
      (∀ later, resumed.1 = .ok later → later.errors = [] →
        ∀ name ∈ files, isRecorded (table.rows resumed.2.engine) name = true) ∧
      ((∀ name ∈ files, isRecorded (table.rows resumed.2.engine) name = true) →
        further.1 = .ok { skipped := files } ∧
          sent (applyPending { db with now := third } repaired folder) resumed.2 = [(.text Ledger.selectSql, [])] ∧
          table.rows further.2.engine = table.rows resumed.2.engine) := by
  intro broken resumed further whole
  obtain ⟨files, before, after, discovered, announced, plain, ends⟩ := failed
  obtain ⟨found, start, read, begun⟩ := obliging.reads first holds
  rw [read] at ends
  have discovered' : discover repaired folder = .ok files := replaces.discover.trans discovered
  have files_once := discover_nodup distinct discovered'
  have once : (before ++ file :: after).Nodup := announced ▸ files_once.filter _
  choose outcome decided using steady.decided obliging folder
  choose outcome' decided' using steady'.decided obliging folder
  -- What was applied before the failure can be applied in the repaired folder, and the file now as well.
  obtain ⟨reaches, -, -⟩ := ends.foretold decided begun
  have good : ∀ name ∈ before, outcome' name = .ok () := by
    intro name member
    have apart : name ≠ file := fun same => List.disjoint_of_nodup_append once member (same ▸ List.mem_cons_self)
    have announcedName : name ∈ files.filter _ := announced ▸ List.mem_append_left _ member
    have conform := isFileName_of_discovered discovered (List.mem_filter.mp announcedName).1
    rw [reaches] at member
    exact replaces.good decided decided' holds conform apart (good_of_reached member)
  have fixed : outcome' file = .ok () := (decided' file).eq (decided_of_foretold obliging loads works) rfl holds
  -- The three runs, one after the other.
  obtain ⟨ends₁, -, met₁, settled₁, added₁, rows₁, named₁⟩ :=
    applyPending_foretold decided keeps obliging quiet settled holds plain discovered first
  obtain ⟨-, comes, -, -, added, rows, named⟩ :=
    applyPending_foretold decided' keeps obliging quiet' settled holds plain discovered' single
  rw [announced, ← reaches] at ends₁ named₁
  have plain₁ := plain_append plain named₁
  have left := announced_later files_once announced named₁
  rw [← rows₁] at plain₁ left
  obtain ⟨ends₂, comes₂, met₂, settled₂, added₂, rows₂, named₂⟩ :=
    applyPending_foretold decided' keeps obliging quiet' settled₁ met₁ plain₁ discovered' second
  rw [left] at ends₂ comes₂ named₂
  have plain₂ := plain_append plain₁ named₂
  rw [← rows₂] at plain₂
  rw [announced] at comes named
  refine ⟨?_, ⟨before, added₁, rows₁, named₁, fun returned ended => ends₁.result_applied ended, ?_, ?_⟩, ?_, files,
    discovered', ?_, fun full => applyPending_idle keeps obliging quiet' settled₂ met₂ plain₂ discovered' full third⟩
  · rw [show table.rows whole.2.engine = _ from rows, show table.rows resumed.2.engine = _ from rows₂, rows₁]
    simp only [List.map_append, named, named₁, named₂, reached_append good, List.append_assoc]
  · rw [show whole.1.map RunResult.applied = _ from comes, foreseen_append good, ← comes₂]
    cases resumed.1 <;> rfl
  · intro later ended name member
    have announcedName : name ∈ files.filter fun file => !isRecorded (table.rows s.engine) file :=
      announced ▸ List.mem_append_left _ member
    have known : isRecorded (table.rows broken.2.engine) name = true := by
      rw [show table.rows broken.2.engine = _ from rows₁, isRecorded_append, isRecorded_named named₁]
      simp [member]
    exact ends₂.skips ended (List.mem_filter.mp announcedName).1 known fun other later =>
      announced_lt distinct discovered' announced member later
  · have further : reached outcome' (file :: after) = file :: reached outcome' after :=
      reached_append (List.forall_mem_singleton.mpr fixed) after
    rw [show table.rows resumed.2.engine = _ from rows₂, isRecorded_append, isRecorded_named named₂, further]
    simp
  · intro later ended none
    rw [show table.rows resumed.2.engine = _ from rows₂]
    exact ends₂.records_all left named₂ ended none

open LedgerEngine in
/-- A run over three files whose second one is broken, which is then replaced. -/
theorem applyPending_resumes_second :
    let tree := three (dropFile "a" "b") brokenFile (dropFile "c" "d")
    let repaired := tree.put ["m", second] (.file (dropFile "e" "f"))
    let now : Moment := ⟨⟨2025, 1, 1⟩, ⟨0, 0, 0, 0, none⟩⟩
    let later : Moment := ⟨⟨2025, 1, 2⟩, ⟨0, 0, 0, 0, none⟩⟩
    let db : Database LedgerEngine := { kind := .sqlite, config := {}, now, driver := LedgerEngine.driver }
    let rows : List Entry := [⟨7, .text "2024_12_31_000000_old.py", .null⟩]
    let s : Session LedgerEngine := { engine := { rows, saved := rows }, held := true }
    let broken := on (applyPending { db with now } tree here) s
    let resumed := on (applyPending { db with now := later } repaired here) broken.2
    let further := on (applyPending { db with now := later } repaired here) resumed.2
    let whole := on (applyPending { db with now } repaired here) s
    resumed.2.engine.rows.map Entry.migration = whole.2.engine.rows.map Entry.migration ∧
    (∃ done added, broken.2.engine.rows = s.engine.rows ++ added ∧ added.map Entry.migration = done.map .text ∧
      (∀ returned, broken.1 = .ok returned → returned.applied = done) ∧
      (whole.1.map RunResult.applied = resumed.1.map fun later => done ++ later.applied) ∧
      ∀ later, resumed.1 = .ok later → ∀ name ∈ done, name ∈ later.skipped) ∧
    isRecorded resumed.2.engine.rows second = true ∧
    ∃ files, discover repaired here = .ok files ∧
      (∀ later, resumed.1 = .ok later → later.errors = [] →
        ∀ name ∈ files, isRecorded resumed.2.engine.rows name = true) ∧
      ((∀ name ∈ files, isRecorded resumed.2.engine.rows name = true) →
        further.1 = .ok { skipped := files } ∧
          sent (applyPending { db with now := later } repaired here) resumed.2 = [(.text Ledger.selectSql, [])] ∧
          further.2.engine.rows = resumed.2.engine.rows) := by
  intro tree repaired now later db rows s
  have same : db.driver = LedgerEngine.driver := rfl
  have keeps : KeepsLedger db ledger := keepsLedger db same
  have obliging : Obliging db Ready := obliging_ready same
  have ready : Ready s := ⟨rfl, rfl⟩
  have settled : ledger.Settled s.engine := rfl
  have located : tree.locate (here.child second) = some ["m", second] := by
    rw [Path.child_name (isName_of_isFileName (named (by decide)))]
    rfl
  have replaces : Replaces tree repaired here second := replaces_put (named (by decide)) located rfl _
  obtain ⟨called, loads⟩ := @instantiate_three (dropFile "a" "b") (dropFile "e" "f") (dropFile "c" "d") second
    [dropStep "e"] [dropStep "f"] (by decide) rfl
  have quiet : QuietTree db ledger tree :=
    three_all (quietFile_drop same "a" "b") (quietFile_broken db) (quietFile_drop same "c" "d")
  have steady : SteadyTree db Ready tree :=
    three_all (steadyFile_drop same "a" "b") (steadyFile_steps (foretold_broken db)) (steadyFile_drop same "c" "d")
  have quiet' : QuietTree db ledger repaired := @quietTree_drops db "a" "b" "e" "f" "c" "d" same
  have steady' : SteadyTree db Ready repaired := @steadyTree_drops db "a" "b" "e" "f" "c" "d" same
  have failed : FailsAt db tree here (ledger.rows s.engine) second s := by
    have plain : ∀ entry ∈ ledger.rows s.engine, memberComplaint? entry.migration = none := by
      intro entry member
      rw [List.mem_singleton.mp member]
      rfl
    have announced : ([first, second, third].filter fun name => !isRecorded (ledger.rows s.engine) name) =
        [first, second, third] := by
      refine List.filter_eq_self.mpr fun name member => ?_
      rw [@isRecorded_named (ledger.rows s.engine) ["2024_12_31_000000_old.py"] rfl]
      revert name
      decide
    obtain ⟨calledFirst, loadsFirst⟩ := @instantiate_three (dropFile "a" "b") brokenFile (dropFile "c" "d") first
      [dropStep "a"] [dropStep "b"] (by decide) rfl
    obtain ⟨calledSecond, loadsSecond⟩ := @instantiate_three (dropFile "a" "b") brokenFile (dropFile "c" "d") second
      [.raise "RuntimeError" (.text "not yet")] [] (by decide) rfl
    choose outcome decided using steady.decided obliging here
    have good := (decided first).eq (decided_of_foretold obliging loadsFirst (foretold_drop same "a")) rfl ready
    have bad := (decided second).eq (decided_of_foretold obliging loadsSecond (foretold_broken db)) rfl ready
    have reaches : reached outcome [first, second, third] = [first] := by
      simp [reached, good, bad, Except.isOk, Except.toBool]
    obtain ⟨ends, -⟩ := applyPending_foretold decided keeps obliging quiet settled ready plain discover_three now
    rw [announced, reaches] at ends
    exact ⟨_, [first], [third], discover_three, announced, plain, ends⟩
  exact applyPending_resumes keeps obliging quiet quiet' steady steady' three_distinct replaces loads
    (foretold_drop same "e") settled ready now later later now failed

end DataLayer.Migration
