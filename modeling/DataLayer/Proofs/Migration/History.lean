import DataLayer.Proofs.Migration.Announcement
import DataLayer.Proofs.Migration.Rollback

/-! What becomes of a ledger over a history of runs, between which files come and go. Nothing but the
names that a run reads at its start keeps a file from being recorded twice; main statement: after any
history the names in the ledger differ and its numbers grow, applying has only added rows at the end,
and taking back has taken out the row of the largest number or none. -/

namespace DataLayer.Migration

open DataLayer.Action DataLayer.Script LedgerTable

variable {σ : Type} {db : Database σ} {table : LedgerTable σ} {tree : Tree Source.File} {folder : Path}

/-- A ledger whose numbers grow, and in which no name is that of an earlier row. -/
structure Tidy (rows : List Entry) : Prop where
  growing : Growing rows
  apart : rows.Pairwise fun first second => (second.migration == first.migration) = false

theorem isRecorded_false {rows : List Entry} {file : String} (fresh : isRecorded rows file = false) :
    ∀ entry ∈ rows, (Value.text file == entry.migration) = false := by
  intro entry member
  simpa using List.any_eq_false.mp fresh entry member

theorem Tidy.appends {rows after : List Entry} {file : String} (tidy : Tidy rows)
    (appends : Appends (.text file) rows after) (fresh : isRecorded rows file = false) : Tidy after := by
  obtain ⟨entry, named, larger, rfl⟩ := appends
  constructor
  · refine List.pairwise_append.mpr ⟨tidy.growing, List.pairwise_singleton _ _, ?_⟩
    intro other member new isNew
    rw [List.mem_singleton.mp isNew]
    exact larger other member
  · refine List.pairwise_append.mpr ⟨tidy.apart, List.pairwise_singleton _ _, ?_⟩
    intro other member new isNew
    rw [List.mem_singleton.mp isNew, named]
    exact isRecorded_false fresh other member

/-- A file is recorded after another one was appended if it was before or is that one. -/
theorem isRecorded_appends {rows after : List Entry} {file other : String} (appends : Appends (.text file) rows after) :
    isRecorded after other = (isRecorded rows other || other == file) := by
  obtain ⟨entry, named, -, rfl⟩ := appends
  simp [isRecorded, named]

/-- Files that are appended once each, and none of which is recorded, keep the ledger tidy. -/
theorem Tidy.appendsAll {rows after : List Entry} {files : List String} (tidy : Tidy rows)
    (appends : AppendsAll rows files after) (distinct : files.Nodup)
    (fresh : ∀ file ∈ files, isRecorded rows file = false) : Tidy after := by
  induction appends with
  | nil rows => exact tidy
  | @cons rows between after file rest first later ih =>
    obtain ⟨absent, distinct⟩ := List.nodup_cons.mp distinct
    refine ih (tidy.appends first (fresh file List.mem_cons_self)) distinct fun other member => ?_
    have different : other ≠ file := fun same => absent (same ▸ member)
    rw [isRecorded_appends first, fresh other (List.mem_cons_of_mem file member), Bool.false_or]
    exact beq_false_of_ne different

theorem Tidy.init {rows : List Entry} {last : Entry} (tidy : Tidy (rows ++ [last])) : Tidy rows :=
  ⟨(List.pairwise_append.mp tidy.growing).1, (List.pairwise_append.mp tidy.apart).1⟩

theorem RunEnds.applied_prefix {recorded : String → Bool} {files names applied : List String} {s : Session σ}
    {ended : Except Fault RunResult × Session σ} (ends : RunEnds db tree folder recorded files s names applied ended) :
    ∃ rest, names = applied ++ rest := by
  cases ends with
  | finished applies => exact ⟨[], (List.append_nil _).symm⟩
  | stopped applies attempt seen => exact ⟨_, rfl⟩
  | escaped applies attempt unseen => exact ⟨_, rfl⟩

/-- Applying adds rows at the end of the ledger, however it ends, and keeps it tidy. -/
theorem applyPending_ledger (keeps : KeepsLedger db table) (distinct : tree.Distinct)
    (harmless : ∀ file, Harmless db table tree folder file) {s : Session σ} (settled : table.Settled s.engine)
    (tidy : Tidy (table.rows s.engine)) :
    let t := (on (applyPending db tree folder) s).2
    table.Settled t.engine ∧ Tidy (table.rows t.engine) ∧ ∃ added, table.rows t.engine = table.rows s.engine ++ added := by
  obtain ⟨read, members⟩ := knownNames_ledger keeps settled
  dsimp only
  rw [on_applyPending]
  rcases reading : on (knownNames db) s with ⟨result, u⟩
  rw [reading] at read
  obtain ⟨rests, same⟩ := read.same
  rw [← same] at tidy members ⊢
  cases result with
  | error fault => exact ⟨rests, tidy, [], (List.append_nil _).symm⟩
  | ok known =>
    cases discovered : discover tree folder with
    | error misuse => exact ⟨rests, tidy, [], (List.append_nil _).symm⟩
    | ok files =>
      obtain ⟨applied, ends, after, appends⟩ := applyFiles_ends keeps (members reading).2
        (discover_sorted discovered) (fun file _ _ => harmless file) rests
      obtain ⟨rest, names⟩ := ends.applied_prefix
      obtain ⟨added, rows, -⟩ := appends.added
      have fresh : ∀ file ∈ applied, isRecorded (table.rows u.engine) file = false := by
        intro file member
        have announced : file ∈ applied ++ rest := List.mem_append_left rest member
        rw [← names, List.mem_filter] at announced
        simpa using announced.2
      have once : applied.Nodup := by
        have pendingOnce := (discover_nodup distinct discovered).filter fun file =>
          !isRecorded (table.rows u.engine) file
        rw [names] at pendingOnce
        exact (List.nodup_append.mp pendingOnce).1
      exact ⟨after, tidy.appendsAll appends once fresh, added, rows⟩

/-- The changes that the migrations of a file make and undo have nothing to do with the ledger. -/
def QuietFile (db : Database σ) (table : LedgerTable σ) (file : Source.File) : Prop :=
  ∀ (now : Moment) {path : Path} {bindings : Source.Bindings} {definition : Source.ClassValue},
    file.bindings path = .ok bindings → definition ∈ bindings.candidates .migration →
      Action.Moves table.Rests (SchemaStep.performAll { db with now } (definition.up.getD [])) ∧
        Action.Moves table.Rests (SchemaStep.performAll { db with now } (definition.down.getD []))

/-- A file with a single migration leaves the ledger alone as far as its steps do. -/
theorem quietFile_steps {up down : List SchemaStep}
    (ups : ∀ now, Action.Moves table.Rests (SchemaStep.performAll { db with now } up))
    (downs : ∀ now, Action.Moves table.Rests (SchemaStep.performAll { db with now } down)) :
    QuietFile db table (Source.singleClass up down) := by
  intro now path bindings definition bound candidate
  rw [Source.eq_onlyClass bound candidate]
  exact ⟨ups now, downs now⟩

/-- A migration that changes nothing leaves the ledger alone. -/
theorem quietFile_singleClass (db : Database σ) (table : LedgerTable σ) :
    QuietFile db table (Source.singleClass [] []) :=
  quietFile_steps (fun _ => moves_pure ()) fun _ => moves_pure ()

/-- What a history goes on in: the files, a session, and what the clock shows. -/
structure World (σ : Type) where
  tree : Tree Source.File
  session : Session σ
  now : Moment

/-- What can be done in a history: making the ledger as a runner does first, applying, taking back and
announcing in some folder, and changes of the files and of the clock. -/
inductive Operation where
  | construct
  | apply (folder : Path)
  | rollback (folder : Path)
  | announce (folder : Path)
  | write (place : Place) (node : Node Source.File)
  | remove (place : Place)
  | wait (now : Moment)

/-- What comes of an operation. -/
inductive Outcome where
  | done
  | ran (result : RunResult)
  | tookBack (name : Option Value)
  | announced (names : List String)

/-- Does some work on the session. -/
def World.work {α : Type} (w : World σ) (action : Action σ α) (outcome : α → Outcome) :
    Except Fault Outcome × World σ :=
  ((on action w.session).1.map outcome, { w with session := (on action w.session).2 })

namespace Operation

/-- Does what an operation says. -/
def perform (db : Database σ) (w : World σ) : Operation → Except Fault Outcome × World σ
  | construct => w.work (ensureLedger { db with now := w.now }) fun _ => .done
  | apply folder => w.work (applyPending { db with now := w.now } w.tree folder) .ran
  | rollback folder => w.work (rollbackLast { db with now := w.now } w.tree folder) .tookBack
  | announce folder => w.work (pending { db with now := w.now } w.tree folder) .announced
  | write place node => (.ok .done, { w with tree := w.tree.put place node })
  | remove place => (.ok .done, { w with tree := w.tree.remove place })
  | wait now => (.ok .done, { w with now })

/-- The world after operations one after the other. -/
def performAll (db : Database σ) (w : World σ) (history : List Operation) : World σ :=
  history.foldl (fun w operation => (operation.perform db w).2) w

/-- Holds of operations that write no migrations which change the ledger themselves. -/
def Quiet (db : Database σ) (table : LedgerTable σ) : Operation → Prop
  | write _ (.file file) => QuietFile db table file
  | _ => True

/-- What an operation may do to the ledger, by what comes of it. -/
def Changes (before after : List Entry) : Operation → Except Fault Outcome → Prop
  | apply _, _ => ∃ added, after = before ++ added
  | rollback _, .ok (.tookBack (some name)) => ∃ last, before = after ++ [last] ∧ last.migration = name ∧
      ∀ entry ∈ after, entry.id < last.id
  | _, _ => after = before

end Operation

/-- A world whose ledger is tidy, with no change of it open, and whose files stand at distinct places
and leave the ledger alone. -/
structure Sound (db : Database σ) (table : LedgerTable σ) (w : World σ) : Prop where
  settled : table.Settled w.session.engine
  tidy : Tidy (table.rows w.session.engine)
  distinct : w.tree.Distinct
  quiet : ∀ {place : Place} {file : Source.File}, (place, .file file) ∈ w.tree.nodes → QuietFile db table file

theorem KeepsLedger.at (keeps : KeepsLedger db table) (now : Moment) : KeepsLedger { db with now } table :=
  { keeps with }

/-- Every migration that can be loaded leaves the ledger alone, whether it is made or undone. -/
theorem Sound.loaded {w : World σ} (sound : Sound db table w) {path : Path} {definition : Source.ClassValue}
    (loading : instantiate w.tree path = .ok definition) (now : Moment) :
    Action.Moves table.Rests (SchemaStep.performAll { db with now } (definition.up.getD [])) ∧
      Action.Moves table.Rests (SchemaStep.performAll { db with now } (definition.down.getD [])) := by
  obtain ⟨place, file, bindings, member, bound, candidate⟩ := Source.instantiate_ok loading
  exact sound.quiet member now bound candidate

/-- Work on the session that leaves the ledger tidy leaves the world sound. -/
theorem Sound.worked {w : World σ} (sound : Sound db table w) {t : Session σ} (settled : table.Settled t.engine)
    (tidy : Tidy (table.rows t.engine)) : Sound db table { w with session := t } :=
  ⟨settled, tidy, sound.distinct, sound.quiet⟩

/-- Work that changes no rows leaves the world sound. -/
theorem Sound.spared {α : Type} {w : World σ} (sound : Sound db table w) {action : Action σ α} (outcome : α → Outcome)
    (done : table.Done (fun before after => after = before) w.session (on action w.session)) :
    Sound db table (w.work action outcome).2 ∧
      table.rows (w.work action outcome).2.session.engine = table.rows w.session.engine := by
  obtain ⟨settled, same⟩ := done.same
  refine ⟨sound.worked settled ?_, same⟩
  rw [same]
  exact sound.tidy

/-- Taking back leaves the world sound. -/
theorem Sound.tookBack {w : World σ} (sound : Sound db table w) {action : Action σ (Option Value)}
    (taken : TakesBack table (table.rows w.session.engine) (on action w.session)) {folder : Path} :
    Sound db table (w.work action .tookBack).2 ∧
      (Operation.rollback folder).Changes (table.rows w.session.engine)
        (table.rows (w.work action .tookBack).2.session.engine) (w.work action .tookBack).1 := by
  unfold World.work
  have tidy := sound.tidy
  generalize on action w.session = ended at taken ⊢
  rcases ended with ⟨fault | (_ | name), t⟩
  · obtain ⟨settled, same⟩ := taken
    exact ⟨sound.worked settled (same ▸ tidy), same⟩
  · obtain ⟨settled, same⟩ := taken
    exact ⟨sound.worked settled (same ▸ tidy), same⟩
  · obtain ⟨settled, last, split, named, largest⟩ := taken
    rw [split] at tidy
    exact ⟨sound.worked settled tidy.init, last, split, named, largest⟩

/-- One operation on a sound world leaves it sound, and does to the ledger what it may. -/
theorem Operation.perform_sound (keeps : KeepsLedger db table) {w : World σ} (sound : Sound db table w)
    {operation : Operation} (quiet : operation.Quiet db table) :
    Sound db table (operation.perform db w).2 ∧
      operation.Changes (table.rows w.session.engine) (table.rows (operation.perform db w).2.session.engine)
        (operation.perform db w).1 := by
  have keeps' := keeps.at w.now
  cases operation with
  | construct => exact sound.spared _ (ensureLedger_ledger keeps' sound.settled)
  | announce folder => exact sound.spared _ (pending_ledger keeps' sound.settled)
  | apply folder =>
    have harmless (file : String) : Harmless { db with now := w.now } table w.tree folder file :=
      fun loading => (sound.loaded loading w.now).1
    obtain ⟨settled, tidy, added, rows⟩ :=
      applyPending_ledger keeps' sound.distinct harmless sound.settled sound.tidy
    exact ⟨sound.worked settled tidy, added, rows⟩
  | rollback folder =>
    have harmless : HarmlessDown { db with now := w.now } table w.tree :=
      fun _ _ loading => (sound.loaded loading w.now).2
    exact sound.tookBack (rollbackLast_ledger keeps' harmless sound.settled sound.tidy.growing)
  | write place node =>
    refine ⟨⟨sound.settled, sound.tidy, sound.distinct.put place node, fun member => ?_⟩, rfl⟩
    rcases Entries.mem_put member with before | new
    · exact sound.quiet before
    · cases new
      exact quiet
  | remove place =>
    refine ⟨⟨sound.settled, sound.tidy, sound.distinct.remove place, fun member => ?_⟩, rfl⟩
    exact sound.quiet (List.mem_filter.mp member).1
  | wait now => exact ⟨⟨sound.settled, sound.tidy, sound.distinct, sound.quiet⟩, rfl⟩

/-- A history leaves a sound world sound. -/
theorem Operation.performAll_sound (keeps : KeepsLedger db table) {w : World σ} (sound : Sound db table w)
    {history : List Operation} (quiet : ∀ operation ∈ history, operation.Quiet db table) :
    Sound db table (performAll db w history) := by
  induction history generalizing w with
  | nil => exact sound
  | cons operation rest ih =>
    obtain ⟨after, -⟩ := perform_sound keeps sound (quiet operation List.mem_cons_self)
    exact ih after fun other member => quiet other (List.mem_cons_of_mem operation member)

/-- At every point of a history the ledger is tidy, and the operation at that point does to it only what
it may: applying adds rows at the end, taking back takes out the row of the largest number and gives
back its name, and whatever fails or does something else leaves all rows. -/
theorem Operation.performAll_tidy (keeps : KeepsLedger db table) {w : World σ} (sound : Sound db table w)
    {history : List Operation} (quiet : ∀ operation ∈ history, operation.Quiet db table) :
    Tidy (table.rows (performAll db w history).session.engine) ∧
      ∀ {earlier later : List Operation} {operation : Operation}, history = earlier ++ operation :: later →
        let before := performAll db w earlier
        Tidy (table.rows before.session.engine) ∧
          operation.Changes (table.rows before.session.engine)
            (table.rows (operation.perform db before).2.session.engine) (operation.perform db before).1 := by
  refine ⟨(performAll_sound keeps sound quiet).tidy, ?_⟩
  intro earlier later operation split before
  rw [split] at quiet
  have reached : Sound db table before :=
    performAll_sound keeps sound fun other member => quiet other (List.mem_append_left _ member)
  have own : operation.Quiet db table := quiet operation (List.mem_append_right earlier List.mem_cons_self)
  exact ⟨reached.tidy, (perform_sound keeps reached own).2⟩

/-- A history in which a statement fails, and a file goes and comes back. -/
theorem Operation.performAll_tidy_restored :
    let file : Node Source.File := .file (Source.singleClass [] [])
    let folder : Path := { parts := ["m"] }
    let place : Place := ["m", "2025_01_01_000000_first.py"]
    let db : Database LedgerEngine :=
      { kind := .sqlite, config := {}, now := ⟨⟨2025, 1, 1⟩, ⟨0, 0, 0, 0, none⟩⟩, driver := LedgerEngine.driver }
    let rows : List Entry := [⟨1, .text "2024_12_31_000000_lost.py", .null⟩]
    let engine : LedgerEngine := { rows, saved := rows, complaints := [none, none, none, some ⟨.integrity, "busy"⟩] }
    let w : World LedgerEngine :=
      { tree := { nodes := [(["m"], .folder), (place, file)] }, session := { engine }, now := db.now }
    let history : List Operation :=
      [.construct, .apply folder, .remove place, .rollback folder, .write place file, .apply folder, .rollback folder]
    Tidy (performAll db w history).session.engine.rows ∧
      ∀ {earlier later : List Operation} {operation : Operation}, history = earlier ++ operation :: later →
        let before := performAll db w earlier
        Tidy before.session.engine.rows ∧
          operation.Changes before.session.engine.rows (operation.perform db before).2.session.engine.rows
            (operation.perform db before).1 := by
  intro file folder place db rows engine w history
  have keeps : KeepsLedger db LedgerEngine.ledger := LedgerEngine.keepsLedger db rfl
  have quietFile : QuietFile db LedgerEngine.ledger (Source.singleClass [] []) := quietFile_singleClass db _
  have sound : Sound db LedgerEngine.ledger w := by
    refine ⟨rfl, ⟨List.pairwise_singleton _ _, List.pairwise_singleton _ _⟩, ?_, ?_⟩
    · change [["m"], ["m", "2025_01_01_000000_first.py"]].Nodup
      decide
    · intro other content member
      rcases List.mem_cons.mp member with same | member
      · cases same
      · have own : content = Source.singleClass [] [] :=
          Node.file.inj (congrArg Prod.snd (List.mem_singleton.mp member))
        rw [own]
        exact quietFile
  have quiet : ∀ operation ∈ history, operation.Quiet db LedgerEngine.ledger := by
    intro operation member
    simp only [history, List.mem_cons, List.not_mem_nil, or_false] at member
    rcases member with rfl | rfl | rfl | rfl | rfl | rfl | rfl
    · trivial
    · trivial
    · trivial
    · trivial
    · exact quietFile
    · trivial
    · trivial
  -- What the history comes to is not needed for what holds of it.
  clear_value history w db
  exact performAll_tidy keeps sound quiet

end DataLayer.Migration
