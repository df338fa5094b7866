import DataLayer.Proofs.Calendar
import DataLayer.Proofs.Folder.Changing
import DataLayer.Proofs.Migration.Announcement
import DataLayer.Proofs.Migration.CalmEngine
import DataLayer.Proofs.Migration.Creation

/-! The order in which migrations were made. A stamp is a row of columns, so that stamps are ordered as the fields
of their moments; main statement: files that were made at different seconds are announced and applied in the order
of the moments at which they were made. -/

namespace DataLayer.Migration

open DataLayer.Action DataLayer.Source DataLayer.Text

variable {σ : Type} {db : Database σ} {tree after later : Tree File} {name folder : Value} {dir path : Path} {now : Moment}

/-! Stamps. -/

/-- The columns of a stamp, from the year down to the second. -/
def stampLayout : List (Nat × List Char) := [(4, ['_']), (2, ['_']), (2, ['_']), (2, []), (2, []), (2, [])]

/-- A year of four figures fills its column. -/
theorem decimal_year (clock : now.OnClock) (late : 1000 ≤ now.date.year) : decimal now.date.year = padded 4 now.date.year := by
  have length := length_year clock
  rw [if_pos late] at length
  unfold padded
  dsimp only
  rw [length]
  rfl

theorem stamp_columns (clock : now.OnClock) (late : 1000 ≤ now.date.year) :
    now.stamp.toList = inColumns stampLayout now.fields := by
  unfold Moment.stamp
  rw [decimal_year clock late]
  simp [inColumns, stampLayout, Moment.fields]

theorem fits_fields (clock : now.OnClock) : FitsColumns stampLayout now.fields := by
  have year := clock.year
  have month := clock.month
  have day := Nat.le_trans clock.day.2 (Date.daysIn_le _ _)
  have hour := clock.hour
  have minute := clock.minute
  have second := clock.second
  simp only [FitsColumns, stampLayout, Moment.fields, List.forall₂_cons, List.forall₂_nil_right_iff, Nat.reducePow,
    and_true]
  omega

/-! Single files. -/

/-- A migration that was made: the name that it was given, and the moment. -/
structure Making where
  word : String
  now : Moment

namespace Making

variable {making first second : Making}

/-- The name of the file that was made. -/
def file (making : Making) : String := fileName making.now.stamp making.word

/-- Holds of names of basic letters that were given in a year of four figures. -/
structure Dated (making : Making) : Prop where
  clock : making.now.OnClock
  late : 1000 ≤ making.now.date.year
  basic : isBasic making.word = true

/-- Holds of what is made of a name in a folder. -/
structure Writes (making : Making) (name folder : Value) (tree : Tree File) (path : Path) (after : Tree File) : Prop where
  named : usableName name = .ok making.word
  created : create tree name folder making.now = (.ok path, after)

/-- The file that was made earlier comes first, whatever the files are named. -/
theorem Dated.file_lt (dated : first.Dated) (dated' : second.Dated) (earlier : first.now.seconds < second.now.seconds) :
    first.file < second.file := by
  have fields := Moment.fields_lt dated.clock dated'.clock earlier
  unfold file
  apply String.lt_iff.mpr
  rw [fileName_toList, fileName_toList, stamp_columns dated.clock dated.late, stamp_columns dated'.clock dated'.late]
  exact inColumns_lt (fits_fields dated.clock) (fits_fields dated'.clock) fields _ _

/-- The stages of making a file. -/
theorem Writes.stages (writes : making.Writes name folder tree path after) : ∃ dir made,
    pathOf folder = .ok dir ∧ tree.makeFolder dir = .ok made ∧ path = dir.child making.file ∧
      made.look path = .ok none ∧ ∃ place, made.locate path = some place ∧
        after = made.put place (.file (.template making.word)) := by
  have created := writes.created
  unfold create at created
  rw [writes.named] at created
  dsimp only at created
  cases placed : pathOf folder with
  | error misuse =>
    rw [placed] at created
    cases created
  | ok dir =>
    rw [placed] at created
    dsimp only at created
    cases readied : tree.makeFolder dir with
    | error misuse =>
      rw [readied] at created
      cases created
    | ok made =>
      rw [readied] at created
      obtain ⟨own, looking, located⟩ := writeFile_ok created
      exact ⟨dir, made, rfl, readied, own, looking, located⟩

theorem Writes.path_name (writes : making.Writes name folder tree path after) (clock : making.now.OnClock) :
    path.name = making.file := by
  obtain ⟨dir, made, -, -, own, -⟩ := writes.stages
  rw [own]
  exact Path.name_child (isName_fileName clock (usableName_ok writes.named)) dir

/-- The files that were listed in a folder still are when one was made there. -/
theorem Writes.listing (writes : making.Writes name folder tree path after) (sound : tree.Sound) (clock : making.now.OnClock)
    (placed : pathOf folder = .ok dir) {names : List String} (listed : tree.listing dir = .ok names) :
    ∃ names', after.listing dir = .ok names' ∧ names ⊆ names' := by
  obtain ⟨-, -, -, names', listed', -⟩ := create_ok sound clock writes.named placed writes.created
  by_cases folder : tree.find? dir = some .folder
  · obtain ⟨_, made, placed', readied, own, looking, place, located, grown⟩ := writes.stages
    cases placed.symm.trans placed'
    obtain ⟨makes, clean, short⟩ := sound.makeFolder readied
    obtain ⟨base, leads⟩ := makes.leads
    rw [own] at looking located
    obtain ⟨absent, -⟩ := Tree.put_child leads clean short (isName_fileName clock (usableName_ok writes.named)) looking
      located (File.template making.word)
    rw [Tree.makeFolder_idle folder readied] at grown absent
    rw [grown]
    apply Tree.listing_grows _ _ listed
    · exact (Tree.hasFolder_put_file absent _).symm
    · intro key member
      exact Entries.mem_keys_put_of_mem _ member
  · have none : names = [] := by
      cases looked : tree.look dir with
      | error misuse =>
        unfold Tree.listing at listed
        rw [looked] at listed
        cases listed
      | ok node =>
        have other : node ≠ some .folder := by
          rintro rfl
          rcases Tree.look_grows rfl looked with ⟨-, none, -⟩ | ⟨there, -⟩
          · cases none
          · exact folder there.symm
        rw [Tree.listing_other looked other] at listed
        cases listed
        rfl
    rw [none]
    exact ⟨names', listed', List.nil_subset names'⟩

end Making

/-! Rows of files. -/

/-- Migrations are made one after the other in one folder. -/
inductive Makings (folder : Value) : Tree File → List Making → Tree File → Prop where
  | nil (tree : Tree File) : Makings folder tree [] tree
  | cons {tree between after : Tree File} {making : Making} {rest : List Making} {name : Value} {path : Path}
      (first : making.Writes name folder tree path between) (others : Makings folder between rest after) :
      Makings folder tree (making :: rest) after

section

variable {makings : List Making}

/-- What was listed is kept, and every file that was made is listed at the end. -/
theorem Makings.listed (made : Makings folder tree makings after) (placed : pathOf folder = .ok dir)
    (clock : ∀ making ∈ makings, making.now.OnClock) (sound : tree.Sound) :
    (∀ names, tree.listing dir = .ok names → ∃ names', after.listing dir = .ok names' ∧ names ⊆ names') ∧
      ∀ making ∈ makings, ∃ names, after.listing dir = .ok names ∧ making.file ∈ names := by
  induction made with
  | nil tree =>
    refine ⟨?_, nofun⟩
    intro names listed
    exact ⟨names, listed, List.Subset.refl names⟩
  | @cons tree between after making rest name path first others ih =>
    obtain ⟨own, later⟩ := List.forall_mem_cons.mp clock
    obtain ⟨-, sound', -, between', listed', member'⟩ := create_ok sound own first.named placed first.created
    obtain ⟨kept, every⟩ := ih later sound'
    constructor
    · intro names listed
      obtain ⟨names', listed', more⟩ := first.listing sound own placed listed
      obtain ⟨names'', listed'', more'⟩ := kept names' listed'
      exact ⟨names'', listed'', List.Subset.trans more more'⟩
    · intro other member
      rcases List.mem_cons.mp member with rfl | member
      · obtain ⟨names'', listed'', more'⟩ := kept between' listed'
        exact ⟨names'', listed'', more' member'⟩
      · exact every other member

theorem Makings.identifier (made : Makings folder tree makings after) : ∀ making ∈ makings, isIdentifier making.word = true := by
  induction made with
  | nil => exact nofun
  | cons first others ih => exact List.forall_mem_cons.mpr ⟨usableName_ok first.named, ih⟩

/-- Migrations in the order of the moments at which they were made. -/
def byTime (makings : List Making) : List Making :=
  makings.mergeSort fun first second => decide (first.now.seconds ≤ second.now.seconds)

/-- In the order of their moments, files of different seconds are in the order of their names. -/
theorem byTime_sorted (dated : ∀ making ∈ makings, making.Dated)
    (apart : makings.Pairwise fun first second => first.now.seconds ≠ second.now.seconds) :
    ((byTime makings).map Making.file).Pairwise (· < ·) := by
  have perm : (byTime makings).Perm makings := List.mergeSort_perm makings _
  have ordered : (byTime makings).Pairwise fun first second => first.now.seconds ≤ second.now.seconds := by
    have sorted : (byTime makings).Pairwise fun first second => decide (first.now.seconds ≤ second.now.seconds) :=
      List.pairwise_mergeSort (by simp only [decide_eq_true_eq]; omega)
        (by simp only [Bool.or_eq_true, decide_eq_true_eq]; omega) makings
    simpa only [decide_eq_true_eq] using sorted
  have apart' := (perm.pairwise_iff fun different => Ne.symm different).mpr apart
  apply List.pairwise_map.mpr
  apply List.Pairwise.imp_of_mem _ (ordered.and apart')
  intro first second member member' ⟨atMost, different⟩
  exact (dated first (perm.mem_iff.mp member)).file_lt (dated second (perm.mem_iff.mp member')) (by omega)

/-- The files that were made, among those that are discovered, are in the order of their moments. -/
theorem discover_makings (distinct : later.Distinct) (dated : ∀ making ∈ makings, making.Dated)
    (apart : makings.Pairwise fun first second => first.now.seconds ≠ second.now.seconds)
    (identifier : ∀ making ∈ makings, isIdentifier making.word = true) {names files : List String}
    (listed : later.listing dir = .ok names) (there : ∀ making ∈ makings, making.file ∈ names)
    (discovered : discover later dir = .ok files) :
    (files.filter fun file => decide (file ∈ makings.map Making.file)) = (byTime makings).map Making.file := by
  have member {file : String} : file ∈ (byTime makings).map Making.file ↔ file ∈ makings.map Making.file :=
    ((List.mergeSort_perm makings _).map Making.file).mem_iff
  refine ((discover_lt distinct discovered).filter _).eq_of_mem_iff (byTime_sorted dated apart) fun {file} => ?_
  rw [member, List.mem_filter, decide_eq_true_iff]
  refine and_iff_right_of_imp fun made => ?_
  obtain ⟨making, present, rfl⟩ := List.mem_map.mp made
  obtain ⟨_, listed', rfl⟩ := discover_ok discovered
  cases listed.symm.trans listed'
  refine Tree.mem_sortedNames.mpr ⟨there making present, ?_⟩
  rw [Making.file, isFileName_fileName (dated making present).clock (identifier making present)]
  exact Bool.and_eq_true_iff.mpr ⟨decide_eq_true (dated making present).late, (dated making present).basic⟩

/-- A run without errors applies everything that is not recorded. -/
theorem applyPending_flawless {s t u : Session σ} {known : List Value} {files : List String} {result : RunResult}
    (read : on (knownNames db) s = (.ok known, t)) (discovered : discover tree dir = .ok files)
    (ran : on (applyPending db tree dir) s = (.ok result, u)) (flawless : result.errors = []) :
    result.applied = files.filter fun file => !known.contains (.text file) := by
  rw [on_applyPending, read, discovered] at ran
  dsimp only at ran
  obtain ⟨applied, rest, v, split, applies, ended⟩ := applyFiles_runs db tree dir known {} files t
  cases rest with
  | nil =>
    rw [ended] at ran
    cases ran
    rw [split, List.append_nil]
    rfl
  | cons file others =>
    obtain ⟨before, behind, fault, w, -, -, -, ended⟩ := ended
    rw [ended] at ran
    obtain ⟨same, rfl⟩ := Prod.mk.inj ran
    split at same
    · cases same
    · cases same
      exact absurd flawless (List.append_ne_nil_of_right_ne_nil _ (List.cons_ne_nil _ _))

/-- Names of files follow the moments at which the files were made. What was made at the earlier second has the
smaller name; hence files that were made at different seconds in one folder, in any order, are all listed there, and
as long as they are, the unrecorded ones are announced in the order of their moments, and applied in this order by
a run without errors. -/
theorem makings_in_order (sound : tree.Sound) (placed : pathOf folder = .ok dir) (made : Makings folder tree makings after)
    (dated : ∀ making ∈ makings, making.Dated)
    (apart : makings.Pairwise fun first second => first.now.seconds ≠ second.now.seconds) :
    (∀ {first second : Making} {name name' folder folder' : Value} {tree tree' after after' : Tree File} {path path' : Path},
      first.Writes name folder tree path after → second.Writes name' folder' tree' path' after' →
        first.Dated → second.Dated → first.now.seconds < second.now.seconds → path.name < path'.name) ∧
    (∀ making ∈ makings, ∃ names, after.listing dir = .ok names ∧ making.file ∈ names) ∧
    ∀ {later : Tree File} {names : List String}, later.Distinct → later.listing dir = .ok names →
      (∀ making ∈ makings, making.file ∈ names) →
      ∀ {s t : Session σ} {known : List Value}, on (knownNames db) s = (.ok known, t) →
        let own := fun file => decide (file ∈ makings.map Making.file)
        let inOrder := ((byTime makings).map Making.file).filter fun file => !known.contains (.text file)
        (∃ announced, on (pending db later dir) s = (.ok announced, t) ∧ announced.filter own = inOrder) ∧
        ∀ {result u}, on (applyPending db later dir) s = (.ok result, u) → result.errors = [] →
          result.applied.filter own = inOrder := by
  refine ⟨?_, (made.listed placed (fun making member => (dated making member).clock) sound).2, ?_⟩
  · intro first second name name' folder folder' tree tree' after after' path path' writes writes' dated dated' earlier
    rw [writes.path_name dated.clock, writes'.path_name dated'.clock]
    exact dated.file_lt dated' earlier
  · intro later names distinct listed there s t known read own inOrder
    have discovered : discover later dir = .ok ((names.filter isFileName).mergeSort fun first second => decide (first ≤ second)) := by
      unfold discover
      rw [listed]
      rfl
    generalize (names.filter isFileName).mergeSort _ = files at discovered
    have ordered := discover_makings distinct dated apart made.identifier listed there discovered
    have fresh : (files.filter fun file => !known.contains (.text file)).filter own = inOrder := by
      rw [List.filter_comm, ordered]
    constructor
    · refine ⟨_, ?_, fresh⟩
      rw [on_pending, read, discovered]
    · intro result u ran flawless
      rw [applyPending_flawless read discovered ran flawless]
      exact fresh

end

open LedgerEngine

/-- A migration whose name is free is made in the folder. -/
theorem writes_here {made : Tree File} {making : Making} {file : String} (usable : isUsableName making.word = true)
    (spelt : making.file = file) (member : file ∈ [first, second, third]) (readied : tree.makeFolder here = .ok made)
    (folder : made.hasFolder ["m"] = true) (free : made.find? { parts := ["m", file] } = none) :
    making.Writes (.text making.word) (.text "m") tree (here.child file)
      (made.put ["m", file] (.file (.template making.word))) := by
  have place : here.child file = { parts := ["m", file] } := Path.child_name (isName_of_isFileName (named member)) here
  have fits : Path.hasNull { parts := ["m", file] } = false ∧
      ¬ Tree.longestPath < (Path.text { parts := ["m", file] }).utf8ByteSize ∧ ["m", file].any Tree.isLongName = false ∧
      ".." ≠ file := by
    clear place free spelt
    revert file
    decide +kernel
  obtain ⟨clean, short, usual, below⟩ := fits
  refine ⟨usableName_text usable, ?_⟩
  apply create_free (usableName_text usable) rfl readied (congrArg here.child spelt)
  · rw [place]
    simp only [Tree.look, clean, short, usual, free]
    rfl
  · rw [place]
    simp [Tree.locate, Tree.follow, Tree.origin, folder, below]

/-- The later one of two migrations was made first, and a third one was put between them. -/
theorem makings_in_order_backwards :
    let late : Making := ⟨"third", ⟨⟨2025, 1, 3⟩, ⟨0, 0, 0, 0, none⟩⟩⟩
    let early : Making := ⟨"first", ⟨⟨2025, 1, 1⟩, ⟨0, 0, 0, 0, none⟩⟩⟩
    let start : Tree File := { nodes := [(["m"], .folder)] }
    let between := start.put ["m", third] (.file (.template "third"))
    let after := between.put ["m", first] (.file (.template "first"))
    let later := threeDrops "a" "b" "c" "d" "e" "f"
    let db : Database LedgerEngine :=
      { kind := .sqlite, config := {}, now := ⟨⟨2025, 1, 4⟩, ⟨0, 0, 0, 0, none⟩⟩, driver := LedgerEngine.driver }
    let s : Session LedgerEngine := { engine := {}, held := true }
    let own := fun file => decide (file ∈ [third, first])
    late.Writes (.text "third") (.text "m") {} (here.child third) between ∧
    early.Writes (.text "first") (.text "m") between (here.child first) after ∧
    (here.child first).name < (here.child third).name ∧
    (∃ names, after.listing here = .ok names ∧ third ∈ names) ∧
    (∃ announced t, on (pending db later here) s = (.ok announced, t) ∧ announced.filter own = [first, third]) ∧
    ∃ result t, on (applyPending db later here) s = (.ok result, t) ∧ result.applied.filter own = [first, third] := by
  intro late early start between after later db s own
  have spelt : late.file = third := by decide
  have spelt' : early.file = first := by decide
  have writes : late.Writes (.text "third") (.text "m") {} (here.child third) between :=
    writes_here (by decide +kernel) spelt (by decide) rfl rfl rfl
  have writes' : early.Writes (.text "first") (.text "m") between (here.child first) after :=
    writes_here (by decide +kernel) spelt' (by decide) rfl rfl rfl
  have made : Makings (.text "m") {} [late, early] after := .cons writes (.cons writes' (.nil after))
  have dated : ∀ making ∈ [late, early], making.Dated := by
    intro making member
    simp only [List.mem_cons, List.not_mem_nil, or_false] at member
    rcases member with rfl | rfl
    · exact ⟨by constructor <;> decide, by decide, by decide⟩
    · exact ⟨by constructor <;> decide, by decide, by decide⟩
  have apart : [late, early].Pairwise fun first second => first.now.seconds ≠ second.now.seconds := by decide
  have names : [late, early].map Making.file = [third, first] := by
    rw [List.map_cons, List.map_cons, spelt, spelt']
    rfl
  have listed : later.listing here = .ok [first, second, third] := rfl
  have there : ∀ making ∈ [late, early], making.file ∈ [first, second, third] := by
    intro making member
    have own : making.file ∈ [third, first] := names ▸ List.mem_map_of_mem member
    revert own
    generalize making.file = file
    revert file
    decide
  have ordered : (byTime [late, early]).map Making.file = [first, third] := by
    rw [← discover_makings three_distinct dated apart made.identifier listed there discover_three, names]
    decide
  have same : db.driver = LedgerEngine.driver := rfl
  have obliging : Obliging db Ready := obliging_ready same
  have ready : Ready s := ⟨rfl, rfl⟩
  have keeps : KeepsLedger db ledger := keepsLedger db same
  have settled : ledger.Settled s.engine := rfl
  have plain : ∀ entry ∈ ledger.rows s.engine, memberComplaint? entry.migration = none := nofun
  obtain ⟨found, t, readable, -⟩ := records_ready same ready
  obtain ⟨known, read⟩ := knownNames_ok keeps settled readable plain
  have unknown (file : String) : known.contains (.text file) = false := ((knownNames_ledger keeps settled).2 read).2 file
  choose outcome decided using (steadyTree_drops same : SteadyTree db Ready later).decided obliging here
  have reaches : reached outcome [first, second, third] = [first, second, third] := by
    rw [← List.append_nil [first, second, third], reached_append fun name member => decided_drops same decided ready member]
    rfl
  have whole := (applyPending_foretold decided keeps obliging (quietTree_drops same) settled ready plain discover_three db.now).1
  have announced : ([first, second, third].filter fun name => !isRecorded (ledger.rows s.engine) name) =
      [first, second, third] := rfl
  rw [announced, reaches] at whole
  have ran := whole.complete (Nat.le_refl _)
  obtain ⟨inOrder, every, runs⟩ := @makings_in_order _ db _ _ _ _ _ Tree.sound_empty rfl made dated apart
  obtain ⟨⟨announced, announces, own'⟩, applies⟩ := runs three_distinct listed there read
  simp only [names, ordered, unknown, Bool.not_false, List.filter_true] at own' applies
  have earlier := inOrder writes' writes (dated early (by simp)) (dated late (by simp)) (by decide)
  refine ⟨writes, writes', earlier, ?_, ?_, ?_⟩
  · obtain ⟨names', listed', member⟩ := every late List.mem_cons_self
    exact ⟨names', listed', spelt ▸ member⟩
  · exact ⟨announced, t, announces, own'⟩
  · exact ⟨_, _, Prod.ext ran rfl, applies (Prod.ext ran rfl) rfl⟩

end DataLayer.Migration
