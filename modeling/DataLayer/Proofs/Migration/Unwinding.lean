import DataLayer.Proofs.Migration.CalmEngine

/-! Applying and taking back as a stack. Files are applied in the order of their names and taken back in
the order of the ledger's numbers, and older files may be applied late, so that the two orders meet only in
the rows that one run has added. Main statement: what a run has applied is taken back from its last file on,
one file a call, and after as many calls the ledger is what it was. -/

namespace DataLayer.Migration

open DataLayer.Action DataLayer.Database DataLayer.Script LedgerTable

variable {σ : Type} {db : Database σ} {table : LedgerTable σ} {tree : Tree Source.File} {folder : Path}

theorem records_moves {relation : Session σ → Session σ → Prop} [Progress relation] (serves : Serves db relation) :
    Action.Moves relation (records db) := by
  refine moves_bind (Query.finish_moves serves _ _) fun ending => ?_
  cases ending with
  | rows rows => exact moves_check _
  | _ => exact moves_pure _

theorem eraseRecord_moves {relation : Session σ → Session σ → Prop} [Progress relation] (serves : Serves db relation)
    (id : Value) : Action.Moves relation (eraseRecord db id) :=
  moves_bind (Query.finish_moves serves _ _) fun _ => moves_pure _

theorem sent_eraseRecord {s t : Session σ} {id : Value} (erased : on (eraseRecord db id) s = (.ok (), t)) :
    sent (eraseRecord db id) s = [(.text Ledger.deleteSql, [id])] := by
  have unfolded := on_eraseRecord db id s
  rcases ran : on (run db (.text Ledger.deleteSql) [id]) s with ⟨fault | statement, u⟩
  · rw [ran, erased] at unfolded
    cases unfolded
  · rw [← Database.sent_run ran]
    exact sent_congr (by rw [unfolded, ran])

theorem on_reverseFile (migration : Value) {path : Path} {definition : Source.ClassValue} {s t : Session σ}
    (loading : instantiate tree path = .ok definition)
    (undoing : on (SchemaStep.performAll db (definition.down.getD [])) s = (.ok (), t)) :
    on (reverseFile db tree path migration) s = (.ok (), t) := by
  have worked : on (do
      let definition ← Action.ofExcept (instantiate tree path)
      SchemaStep.performAll db (definition.down.getD [])) s = (.ok (), t) := by
    rw [on_bind, on_ofExcept, loading]
    exact undoing
  unfold reverseFile
  dsimp only
  rw [on_bind, on_ofState]
  unfold Action.on at worked
  rw [worked]
  rfl

/-- Everything goes well that it takes to take a file back from a session: the ledger is read, the file
stands in its place and can be loaded, and what it undoes and the erasing of its record succeed. -/
structure Reversible (db : Database σ) (tree : Tree Source.File) (folder : Path) (file : String) (id : Int)
    (definition : Source.ClassValue) (s : Session σ) : Prop where
  reads : ∃ found, (on (records db) s).1 = .ok found
  stays : tree.isFile (folder.child file) = .ok true
  loads : instantiate tree (folder.child file) = .ok definition
  undoes : (on (SchemaStep.performAll db (definition.down.getD [])) (on (records db) s).2).1 = .ok ()
  erases : (on (eraseRecord db (.int id))
    (on (SchemaStep.performAll db (definition.down.getD [])) (on (records db) s).2).2).1 = .ok ()

/-- What taking back a file sends: what it undoes stands between the reading of the ledger and the erasing
of its record. -/
def reversal (db : Database σ) (definition : Source.ClassValue) (id : Int) (s : Session σ) : List (Value × List Value) :=
  (.text Ledger.selectSql, []) ::
    sent (SchemaStep.performAll db (definition.down.getD [])) (on (records db) s).2 ++
      [(.text Ledger.deleteSql, [.int id])]

/-- Taking back a record whose file is reversible gives back its name, and sends what the file undoes
before the erasing of the record. -/
theorem takeBack_sends (last : Record) {file : String} {definition : Source.ClassValue} {s t u : Session σ}
    (named : last.migration = .text file) (stays : tree.isFile (folder.child file) = .ok true)
    (loading : instantiate tree (folder.child file) = .ok definition)
    (undoing : on (SchemaStep.performAll db (definition.down.getD [])) s = (.ok (), t))
    (erasing : on (eraseRecord db last.id) t = (.ok (), u)) :
    (on (takeBack db tree folder last) s).1 = .ok (some last.migration) ∧
      sent (takeBack db tree folder last) s =
        sent (SchemaStep.performAll db (definition.down.getD [])) s ++ [(.text Ledger.deleteSql, [last.id])] := by
  have serves := serves_grows db
  have undone := on_reverseFile last.migration loading undoing
  have ended : Action.Moves Session.Grows (do
      Action.note (.rolledBack last.migration)
      return some last.migration : Action σ (Option Value)) :=
    moves_bind (moves_note fun s => serves.noted s _) fun _ => moves_pure _
  have grows := SchemaStep.performAll_moves serves (definition.down.getD []) s
  have grows' := eraseRecord_moves serves last.id t
  rw [undoing] at grows
  rw [erasing] at grows'
  rw [takeBack_stays named stays]
  constructor
  · rw [on_bind, undone]
    dsimp only
    rw [on_bind, erasing]
    rfl
  · have down : sent (reverseFile db tree (folder.child file) last.migration) s =
        sent (SchemaStep.performAll db (definition.down.getD [])) s := sent_congr (by rw [undone, undoing])
    have silent : sent (do
        Action.note (.rolledBack last.migration)
        return some last.migration : Action σ (Option Value)) u = [] := sent_nil rfl
    rw [sent_bind undone grows fun t => moves_bind (eraseRecord_moves serves _) (fun _ => ended) t,
      sent_bind erasing grows' ended, silent, List.append_nil, down, sent_eraseRecord erasing]

/-- Taking back the last migration of a ledger, where its file is reversible, takes out its row alone, gives
back its name, and sends what the file undoes between the two statements on the ledger. -/
theorem rollbackLast_reverses (keeps : KeepsLedger db table) (harmless : HarmlessDown db table tree) {s : Session σ}
    (settled : table.Settled s.engine) {rows : List Entry} {last : Entry} (split : table.rows s.engine = rows ++ [last])
    (largest : ∀ entry ∈ rows, entry.id < last.id) {file : String} (named : last.migration = .text file)
    {definition : Source.ClassValue} (reversible : Reversible db tree folder file last.id definition s) :
    let ended := on (rollbackLast db tree folder) s
    ended.1 = .ok (some last.migration) ∧ sent (rollbackLast db tree folder) s = reversal db definition last.id s ∧
      table.Settled ended.2.engine ∧ table.rows ended.2.engine = rows := by
  intro ended
  obtain ⟨found, read⟩ := reversible.reads
  have undoes := reversible.undoes
  have erases := reversible.erases
  unfold reversal
  have unfolded : ended = _ := on_rollbackLast db tree folder s
  rcases reading : on (records db) s with ⟨result, t⟩
  rw [reading] at read undoes erases unfolded
  obtain rfl : result = .ok found := read
  obtain ⟨rests, inOrder⟩ := records_ledger keeps settled
  obtain ⟨ordered, inOrder, rfl⟩ := inOrder reading
  rw [reading] at rests
  obtain ⟨rests, same⟩ := rests
  rw [split] at inOrder same
  have final : (ordered.map Entry.record).getLast? = some last.record := by
    rw [List.getLast?_map, inOrder.getLast?_largest largest]
    rfl
  simp only [final] at unfolded
  have taken : TakesBack table (rows ++ [last]) (on (takeBack db tree folder last.record) t) :=
    takeBack_ledger keeps harmless rests same largest
  rcases undoing : on (SchemaStep.performAll db (definition.down.getD [])) t with ⟨result, u⟩
  rw [undoing] at undoes erases
  obtain rfl : result = .ok () := undoes
  rcases erasing : on (eraseRecord db (.int last.id)) u with ⟨result, v⟩
  rw [erasing] at erases
  obtain rfl : result = .ok () := erases
  obtain ⟨returned, down⟩ :=
    takeBack_sends last.record named reversible.stays reversible.loads undoing erasing
  have serves := serves_grows db
  have grows := records_moves serves s
  rw [reading] at grows
  refine ⟨by rw [unfolded]; exact returned, ?_, ?_⟩
  · have grows' : Action.Moves Session.Grows (takeBack db tree folder last.record) :=
      takeBack_moves serves.noted (fun _ _ _ => SchemaStep.performAll_moves serves _) (eraseRecord_moves serves) _ _
    have next : takeBackLast db tree folder (ordered.map Entry.record).getLast? = takeBack db tree folder last.record := by
      rw [final]
      rfl
    have continued : sent (rollbackLast db tree folder) s =
        sent (records db) s ++ sent (takeBack db tree folder last.record) t := by
      rw [rollbackLast_eq, sent_bind reading grows (next ▸ grows'), next]
    rw [continued, sent_records reading, down]
    rfl
  · rw [← unfolded] at taken
    rcases ended with ⟨result, w⟩
    obtain rfl : result = .ok (some last.record.migration) := by
      rw [Prod.mk.injEq] at unfolded
      exact unfolded.1.trans returned
    obtain ⟨settled', final, same, -⟩ := taken
    exact ⟨settled', (List.append_inj' same rfl).1.symm⟩

/-- The session after the last migration was taken back some number of times in a row, at the times of a
clock. -/
def rolledBack (db : Database σ) (tree : Tree Source.File) (folder : Path) (clock : ℕ → Moment) (s : Session σ) :
    ℕ → Session σ
  | 0 => s
  | count + 1 => (on (rollbackLast { db with now := clock count } tree folder) (rolledBack db tree folder clock s count)).2

/-- Every row is taken back without hindrance, from the last one on. -/
def Retreats (db : Database σ) (tree : Tree Source.File) (folder : Path) (clock : ℕ → Moment) (added : List Entry)
    (s : Session σ) : Prop :=
  ∀ {front : List Entry} {entry : Entry} {back : List Entry}, added = front ++ entry :: back →
    ∃ file definition, entry.migration = .text file ∧
      Reversible { db with now := clock back.length } tree folder file entry.id definition
        (rolledBack db tree folder clock s back.length)

/-- Taking back as many times as there are rows behind leaves the rows in front. -/
theorem rolledBack_ledger (keeps : KeepsLedger db table) (quiet : QuietTree db table tree) {clock : ℕ → Moment}
    {s : Session σ} (settled : table.Settled s.engine) {old added : List Entry}
    (grown : table.rows s.engine = old ++ added)
    (largest : ∀ {front entry back}, added = front ++ entry :: back → ∀ other ∈ old ++ front, other.id < entry.id)
    (retreats : Retreats db tree folder clock added s) {front back : List Entry} (split : added = front ++ back) :
    let u := rolledBack db tree folder clock s back.length
    table.Settled u.engine ∧ table.rows u.engine = old ++ front := by
  induction back generalizing front with
  | nil =>
    rw [List.append_nil] at split
    exact ⟨settled, split ▸ grown⟩
  | cons entry back ih =>
    have before : added = (front ++ [entry]) ++ back := by rw [split, List.append_assoc, List.singleton_append]
    obtain ⟨settled', rows⟩ := ih before
    obtain ⟨file, definition, named, reversible⟩ := retreats split
    rw [← List.append_assoc] at rows
    exact (rollbackLast_reverses (keeps.at _) (quiet.harmlessDown _) settled' rows (largest split) named reversible).2.2

/-- Everything goes well that is run while rows are taken back and their files are applied again. -/
structure Unhindered (db : Database σ) (tree : Tree Source.File) (folder : Path) (clock : ℕ → Moment)
    (names : List String) (added : List Entry) (s : Session σ) : Prop where
  retreats : Retreats db tree folder clock added s
  reads : ∃ found, (on (records { db with now := clock added.length })
    (rolledBack db tree folder clock s added.length)).1 = .ok found
  advances : ∀ {done file later u}, names = done ++ file :: later →
    Applies { db with now := clock added.length } tree folder
      (on (records { db with now := clock added.length }) (rolledBack db tree folder clock s added.length)).2 done u →
    Applicable { db with now := clock added.length } tree folder file u

/-- The ledger can be read each time. -/
theorem Unhindered.readable {clock : ℕ → Moment} {names : List String} {added front back : List Entry} {s : Session σ}
    (unhindered : Unhindered db tree folder clock names added s) (split : added = front ++ back) :
    let now := clock back.length
    let u := rolledBack db tree folder clock s back.length
    ∃ found, on (records { db with now }) u = (.ok found, (on (records { db with now }) u).2) := by
  intro now u
  have paired {α : Type} {work : Action σ α} {s : Session σ} (ended : ∃ value, (on work s).1 = .ok value) :
      ∃ value, on work s = (.ok value, (on work s).2) := by
    obtain ⟨value, ended⟩ := ended
    exact ⟨value, Prod.ext ended rfl⟩
  rcases List.eq_nil_or_concat' front with rfl | ⟨earlier, entry, rfl⟩
  · obtain rfl : added = back := split
    exact paired unhindered.reads
  · rw [List.append_assoc] at split
    obtain ⟨file, definition, -, reversible⟩ := unhindered.retreats split
    exact paired reversible.reads

/-- A file that is not recorded among the rows is announced. -/
theorem mem_pending (keeps : KeepsLedger db table) {u v : Session σ} (settled : table.Settled u.engine)
    {old front : List Entry} (rows : table.rows u.engine = old ++ front)
    (plain : ∀ entry ∈ old, memberComplaint? entry.migration = none) {kept : List String}
    (named : front.map Entry.migration = kept.map .text) {found : List Record} (read : on (records db) u = (.ok found, v))
    {files : List String} (discovered : discover tree folder = .ok files) {file : String} (there : file ∈ files)
    (fresh : isRecorded old file = false) (absent : file ∉ kept) :
    ∃ listed v, on (pending db tree folder) u = (.ok listed, v) ∧ file ∈ listed := by
  have plain' := plain_append plain named
  rw [← rows] at plain'
  refine ⟨_, _, pending_of_readable keeps settled read plain' discovered, ?_⟩
  rw [List.mem_filter, rows, isRecorded_append, fresh, isRecorded_named named]
  exact ⟨there, by simpa using absent⟩

/-- A further run over the same rows applies the files that an earlier one applied, where they can be applied;
after a run without an error it comes to the same. -/
theorem applyPending_again (keeps : KeepsLedger db table) (harmless : ∀ file, Harmless db table tree folder file)
    {earlier : Database σ} {s u v : Session σ} {ended : Except Fault RunResult × Session σ}
    (settled : table.Settled u.engine) {found : List Record} (read : on (records db) u = (.ok found, v))
    {names : List String} (goes : RunGoes earlier tree folder (table.rows u.engine) s names ended)
    (applicable : ∀ {done file later w}, names = done ++ file :: later → Applies db tree folder v done w →
      Applicable db tree folder file w) :
    ∃ more again,
      let last := on (applyPending db tree folder) u
      table.rows last.2.engine = table.rows u.engine ++ again ∧ again.map Entry.migration = (names ++ more).map .text ∧
        (∀ returned, last.1 = .ok returned → returned.applied = names ++ more) ∧
        (∀ returned, ended.1 = .ok returned → returned.errors = [] →
          last.1 = .ok { applied := names, skipped := returned.skipped }) := by
  cases goes with
  | idle fault t =>
    obtain ⟨applied, goes, -, appends⟩ := applyPending_goes keeps harmless settled
    obtain ⟨again, grown, named⟩ := appends.added
    exact ⟨applied, again, grown, named, fun returned ended => goes.result_applied ended, nofun⟩
  | @ran files _ _ discovered plain ends =>
    obtain ⟨rest, announced⟩ := ends.applied_prefix
    obtain ⟨applied, ends', -, appends⟩ := applyPending_over keeps harmless settled read plain discovered
    obtain ⟨again, grown, named⟩ := appends.added
    obtain ⟨more, rfl⟩ : ∃ more, applied = names ++ more := by
      rw [announced] at ends'
      exact ends'.reaches applicable
    refine ⟨more, again, grown, named, fun returned ended => ends'.result_applied ended, ?_⟩
    intro returned ended none
    obtain ⟨all, skipped⟩ := ends.flawless ended none
    rw [all] at ends'
    rw [skipped]
    exact ends'.complete (by simp)

/-- What a run has applied is taken back from its last file on: each call gives back the next name, sends
what that file undoes, and leaves the row of the file before as the last one, and the names that were taken
back are announced again. After as many calls the ledger is what it was before the run, and another run
applies the same files in the same order. -/
theorem applyPending_unwinds (keeps : KeepsLedger db table) (distinct : tree.Distinct) (quiet : QuietTree db table tree)
    {s t : Session σ} {result : Except Fault RunResult} (settled : table.Settled s.engine)
    (ran : on (applyPending db tree folder) s = (result, t)) {added : List Entry} {names : List String}
    (grown : table.rows t.engine = table.rows s.engine ++ added)
    (named : added.map Entry.migration = names.map .text) {clock : ℕ → Moment}
    (unhindered : Unhindered db tree folder clock names added t) :
    (∀ returned, result = .ok returned → returned.applied = names) ∧
    (∀ {front entry back}, added = front ++ entry :: back →
      let now := clock back.length
      let u := rolledBack db tree folder clock t back.length
      (on (rollbackLast { db with now } tree folder) u).1 = .ok (some entry.migration) ∧
        ∃ file definition, entry.migration = .text file ∧
          instantiate tree (folder.child file) = .ok definition ∧
          sent (rollbackLast { db with now } tree folder) u = reversal { db with now } definition entry.id u) ∧
    (∀ {front back}, added = front ++ back →
      let now := clock back.length
      let u := rolledBack db tree folder clock t back.length
      table.rows u.engine = table.rows s.engine ++ front ∧
        ∀ {file}, Value.text file ∈ back.map Entry.migration →
          ∃ listed v, on (pending { db with now } tree folder) u = (.ok listed, v) ∧ file ∈ listed) ∧
    ∃ more again,
      let ended := on (applyPending { db with now := clock added.length } tree folder)
        (rolledBack db tree folder clock t added.length)
      table.rows ended.2.engine = table.rows s.engine ++ again ∧
        again.map Entry.migration = (names ++ more).map .text ∧
        (∀ returned, ended.1 = .ok returned → returned.applied = names ++ more) ∧
        (∀ returned, result = .ok returned → returned.errors = [] →
          ended.1 = .ok { applied := names, skipped := returned.skipped }) := by
  obtain ⟨applied, goes, settled', appends⟩ :=
    applyPending_goes keeps (fun file => quiet.harmless db.now folder file) settled
  rw [ran] at goes settled' appends
  -- The rows that were added are those of the applied names.
  obtain rfl : applied = names := by
    obtain ⟨rows, grown', named'⟩ := appends.added
    rw [List.append_cancel_left (grown.symm.trans grown')] at named
    exact map_text_inj (named'.symm.trans named)
  have largest {front back : List Entry} {entry : Entry} (split : added = front ++ entry :: back) :
      ∀ other ∈ table.rows s.engine ++ front, other.id < entry.id :=
    appends.largest (by rw [grown, split])
  have reached {front back : List Entry} (split : added = front ++ back) :=
    rolledBack_ledger keeps quiet settled' grown largest unhindered.retreats split
  refine ⟨fun returned ended => goes.result_applied ended, ?_, ?_, ?_⟩
  · intro front entry back split now u
    obtain ⟨file, definition, named, reversible⟩ := unhindered.retreats split
    have before : added = (front ++ [entry]) ++ back := by rw [split, List.append_assoc, List.singleton_append]
    obtain ⟨settled, rows⟩ := reached before
    rw [← List.append_assoc] at rows
    obtain ⟨returned, sends, -⟩ := rollbackLast_reverses (keeps.at _) (quiet.harmlessDown _) settled rows
      (largest split) named reversible
    exact ⟨returned, file, definition, named, reversible.loads, sends⟩
  · intro front back split now u
    obtain ⟨settled, rows⟩ := reached split
    refine ⟨rows, fun {file} taken => ?_⟩
    obtain ⟨found, read⟩ := unhindered.readable split
    have apart : front.map Entry.migration ++ back.map Entry.migration = applied.map .text := by
      rw [← List.map_append, ← split, named]
    obtain ⟨kept, gone, rfl, front_named, back_named⟩ := List.append_eq_map_iff.mp apart
    rw [← back_named, List.mem_map_of_injective fun _ _ same => Value.text.inj same] at taken
    obtain ⟨files, discovered, there, fresh, plain⟩ := goes.of_mem (List.mem_append_right kept taken)
    have absent : file ∉ kept := fun early => List.disjoint_of_nodup_append (goes.nodup distinct) early taken
    exact mem_pending (keeps.at now) settled rows plain front_named.symm read discovered there fresh absent
  · obtain ⟨settled, rows⟩ := @reached [] added rfl
    rw [List.append_nil] at rows
    obtain ⟨found, read⟩ := unhindered.readable (List.nil_append added).symm
    rw [← rows] at goes ⊢
    exact applyPending_again (keeps.at _) (fun file => quiet.harmless _ folder file) settled read goes
      fun names applies => unhindered.advances names applies

section

open LedgerEngine

variable {a b c d e f : String} {db : Database LedgerEngine} (same : db.driver = LedgerEngine.driver)

include same

theorem rolledBack_ready (clock : ℕ → Moment) {s : Session LedgerEngine} (ready : Ready s) (count : ℕ) :
    Ready (rolledBack db (threeDrops a b c d e f) here clock s count) := by
  induction count with
  | zero => exact ready
  | succ count ih => exact @rollbackLast_drops { db with now := clock count } a b c d e f same _ ih

/-- A file that drops tables can be taken back and applied as often as one likes. -/
theorem unhindered_drops (clock : ℕ → Moment) {s : Session LedgerEngine} (ready : Ready s) {names : List String}
    {added : List Entry} (named : added.map Entry.migration = names.map .text)
    (known : ∀ name ∈ names, name ∈ [first, second, third]) :
    Unhindered db (threeDrops a b c d e f) here clock names added s := by
  have obliging : Obliging db Ready := obliging_ready same
  have kept := rolledBack_ready (a := a) (b := b) (c := c) (d := d) (e := e) (f := f) same clock ready
  obtain ⟨found, start, read, begun⟩ := obliging.reads (clock added.length) (kept added.length)
  refine ⟨?_, ⟨found, by rw [read]⟩, ?_⟩
  · intro front entry back split
    have text : entry.migration ∈ names.map Value.text := by
      rw [← named, split]
      exact List.mem_map_of_mem (List.mem_append_right front List.mem_cons_self)
    obtain ⟨file, own, text⟩ := List.mem_map.mp text
    obtain ⟨up, down, called, loading⟩ := @instantiate_drops a b c d e f file (known file own)
    obtain ⟨found, u, read, after⟩ := obliging.reads (clock back.length) (kept back.length)
    obtain ⟨v, dropped, after⟩ := foretold_drop same down (clock back.length) after
    obtain ⟨w, erased, -⟩ := @eraseRecord_ready { db with now := clock back.length } v same after (.int entry.id)
    exact ⟨file, _, text.symm, {
      reads := ⟨found, by rw [read]⟩
      stays := isFile_three (known file own)
      loads := loading
      undoes := by
        rw [read]
        exact congrArg Prod.fst dropped
      erases := by
        rw [read]
        change (on (eraseRecord _ _) (on (SchemaStep.performAll _ [dropStep down]) u).2).1 = _
        rw [dropped, erased] }⟩
  · intro done file later u split applies
    choose outcome decided using (@steadyTree_drops db a b c d e f same).decided obliging here
    have own : file ∈ names := split ▸ List.mem_append_right done List.mem_cons_self
    obtain ⟨up, down, called, loading⟩ := @instantiate_drops a b c d e f file (known file own)
    rw [read] at applies
    obtain ⟨-, begun⟩ := applies.foretold decided begun
    have inside : Ready (bound file u) := obliging.aside u.log _ begun
    obtain ⟨v, dropped, after⟩ := foretold_drop same up (clock added.length) inside
    obtain ⟨w, recorded, -⟩ := obliging.writes (clock added.length) file after
    exact ⟨_, v, w, loading, dropped, recorded⟩

end

open LedgerEngine in
/-- A run that applies two files, one of which is older than a file that was applied before. -/
theorem applyPending_unwinds_late :
    let tree := threeDrops "a" "b" "c" "d" "e" "f"
    let clock : ℕ → Moment := fun count => ⟨⟨2025, 1, 2 + count⟩, ⟨0, 0, 0, 0, none⟩⟩
    let db : Database LedgerEngine :=
      { kind := .sqlite, config := {}, now := ⟨⟨2025, 1, 1⟩, ⟨0, 0, 0, 0, none⟩⟩, driver := LedgerEngine.driver }
    let rows : List Entry := [⟨7, .text second, .null⟩]
    let s : Session LedgerEngine := { engine := { rows, saved := rows }, held := true }
    let ran := on (applyPending db tree here) s
    ∃ added, ran.2.engine.rows = rows ++ added ∧ added.map Entry.migration = [first, third].map .text ∧
    (∀ returned, ran.1 = .ok returned → returned.applied = [first, third]) ∧
    (∀ {front entry back}, added = front ++ entry :: back →
      let now := clock back.length
      let u := rolledBack db tree here clock ran.2 back.length
      (on (rollbackLast { db with now } tree here) u).1 = .ok (some entry.migration) ∧
        ∃ file definition, entry.migration = .text file ∧
          instantiate tree (here.child file) = .ok definition ∧
          sent (rollbackLast { db with now } tree here) u = reversal { db with now } definition entry.id u) ∧
    (∀ {front back}, added = front ++ back →
      let now := clock back.length
      let u := rolledBack db tree here clock ran.2 back.length
      u.engine.rows = rows ++ front ∧
        ∀ {file}, Value.text file ∈ back.map Entry.migration →
          ∃ listed v, on (pending { db with now } tree here) u = (.ok listed, v) ∧ file ∈ listed) ∧
    ∃ more again,
      let ended := on (applyPending { db with now := clock added.length } tree here)
        (rolledBack db tree here clock ran.2 added.length)
      ended.2.engine.rows = rows ++ again ∧ again.map Entry.migration = ([first, third] ++ more).map .text ∧
        (∀ returned, ended.1 = .ok returned → returned.applied = [first, third] ++ more) ∧
        (∀ returned, ran.1 = .ok returned → returned.errors = [] →
          ended.1 = .ok { applied := [first, third], skipped := returned.skipped }) := by
  intro tree clock db rows s ran
  have same : db.driver = LedgerEngine.driver := rfl
  have obliging : Obliging db Ready := obliging_ready same
  have ready : Ready s := ⟨rfl, rfl⟩
  have settled : ledger.Settled s.engine := rfl
  have plain : ∀ entry ∈ ledger.rows s.engine, memberComplaint? entry.migration = none := by
    intro entry member
    rw [List.mem_singleton.mp member]
    rfl
  have announced : ([first, second, third].filter fun name => !isRecorded (ledger.rows s.engine) name) =
      [first, third] := by
    have recorded (name : String) : isRecorded (ledger.rows s.engine) name = [second].contains name :=
      isRecorded_named rfl name
    simp only [recorded]
    decide
  have known : ∀ name ∈ [first, third], name ∈ [first, second, third] := by
    intro name member
    revert name
    decide
  choose outcome decided using (steadyTree_drops same : SteadyTree db Ready tree).decided obliging here
  have reaches : reached outcome [first, third] = [first, third] := by
    have good : ∀ name ∈ [first, third], outcome name = .ok () := fun name member =>
      decided_drops same decided ready (known name member)
    rw [← List.append_nil [first, third], reached_append good]
    rfl
  obtain ⟨-, -, ready', -, added, grown, named⟩ :=
    applyPending_foretold decided (keepsLedger db same) obliging (quietTree_drops same) settled ready plain
      discover_three db.now
  rw [announced, reaches] at named
  have unhindered : Unhindered db tree here clock [first, third] added ran.2 :=
    unhindered_drops same clock ready' named known
  have whole : on (applyPending db tree here) s = (ran.1, ran.2) := rfl
  exact ⟨added, grown, named, applyPending_unwinds (keepsLedger db same) three_distinct (quietTree_drops same) settled whole
    grown named unhindered⟩

end DataLayer.Migration
