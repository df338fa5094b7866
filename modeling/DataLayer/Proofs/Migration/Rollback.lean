import DataLayer.Migration.Runner
import DataLayer.Proofs.Migration.LedgerWork
import Mathlib.Data.List.Nodup

/-! Taking back the last migration. Where the numbers of a ledger grow, the last record that is read is
the last row; main statement: taking back takes out that row alone, or leaves every row. -/

namespace DataLayer.Migration

open DataLayer.Action DataLayer.Script LedgerTable

variable {σ : Type} {db : Database σ} {table : LedgerTable σ} {tree : Tree Source.File} {folder : Path}

/-- The numbers of the rows grow from each row to the next. -/
def Growing (rows : List Entry) : Prop := rows.Pairwise fun first second => first.id < second.id

theorem Growing.eq_of_id_eq {rows : List Entry} (growing : Growing rows) {first second : Entry} (member : first ∈ rows)
    (member' : second ∈ rows) (same : first.id = second.id) : first = second := by
  have distinct : (rows.map Entry.id).Nodup :=
    List.pairwise_map.mpr (growing.imp fun smaller equal => by omega)
  exact List.inj_on_of_nodup_map distinct member member' same

/-- Rows whose numbers grow are read as they stand. -/
theorem InOrder.eq_of_growing {rows ordered : List Entry} (inOrder : InOrder rows ordered) (growing : Growing rows) :
    ordered = rows := by
  have antisymmetric (first second : Entry) (member : first ∈ ordered) (member' : second ∈ rows)
      (atMost : first.id ≤ second.id) (atLeast : second.id ≤ first.id) : first = second :=
    growing.eq_of_id_eq (inOrder.perm.mem_iff.mp member) member' (Int.le_antisymm atMost atLeast)
  exact List.Perm.eq_of_pairwise antisymmetric inOrder.sorted (growing.imp Int.le_of_lt) inOrder.perm

/-- The number of the last row is the largest. -/
theorem Growing.lt_last {rows : List Entry} {last : Entry} (growing : Growing (rows ++ [last])) :
    ∀ entry ∈ rows, entry.id < last.id := by
  intro entry member
  exact (List.pairwise_append.mp growing).2.2 entry member last List.mem_cons_self

/-- Only the last row has its number where that is the largest. -/
theorem filter_largest {rows : List Entry} {last : Entry} (largest : ∀ entry ∈ rows, entry.id < last.id) :
    ((rows ++ [last]).filter fun entry => entry.id ≠ last.id) = rows := by
  have kept : (rows.filter fun entry => entry.id ≠ last.id) = rows := by
    refine List.filter_eq_self.mpr fun entry member => ?_
    have smaller := largest entry member
    simp only [ne_eq, decide_not, Bool.not_eq_eq_eq_not, Bool.not_true, decide_eq_false_iff_not]
    omega
  have gone : ([last].filter fun entry => entry.id ≠ last.id) = [] :=
    List.filter_cons_of_neg (by simp)
  rw [List.filter_append, kept, gone, List.append_nil]

/-- The row of the largest number is read last, wherever else the rows stand. -/
theorem InOrder.getLast?_largest {rows ordered : List Entry} {last : Entry} (inOrder : InOrder (rows ++ [last]) ordered)
    (largest : ∀ entry ∈ rows, entry.id < last.id) : ordered.getLast? = some last := by
  rcases List.eq_nil_or_concat' ordered with rfl | ⟨front, final, rfl⟩
  · exact absurd inOrder.perm.symm.eq_nil (List.append_ne_nil_of_right_ne_nil rows (List.cons_ne_nil last []))
  · rw [List.getLast?_concat]
    have final_mem : final ∈ rows ++ [last] :=
      inOrder.perm.mem_iff.mp (List.mem_append_right front List.mem_cons_self)
    rcases List.mem_append.mp final_mem with earlier | isLast
    · have last_mem : last ∈ front ++ [final] :=
        inOrder.perm.mem_iff.mpr (List.mem_append_right rows List.mem_cons_self)
      have smaller := largest final earlier
      rcases List.mem_append.mp last_mem with before | same
      · have atMost := (List.pairwise_append.mp inOrder.sorted).2.2 last before final List.mem_cons_self
        omega
      · rw [List.mem_singleton.mp same] at smaller
        omega
    · rw [List.mem_singleton.mp isLast]

/-- The changes that the files of a tree undo have nothing to do with the ledger. -/
def HarmlessDown (db : Database σ) (table : LedgerTable σ) (tree : Tree Source.File) : Prop :=
  ∀ (path : Path) {definition : Source.ClassValue}, instantiate tree path = .ok definition →
    Action.Moves table.Rests (SchemaStep.performAll db (definition.down.getD []))

/-- Undoing a file stays within what its changes and the notices stay within. -/
theorem reverseFile_moves {relation : Session σ → Session σ → Prop} [Progress relation]
    (noted : ∀ (s : Session σ) notice, relation s (s.noted notice)) {path : Path}
    (undoes : ∀ {definition : Source.ClassValue}, instantiate tree path = .ok definition →
      Action.Moves relation (SchemaStep.performAll db (definition.down.getD []))) (migration : Value) :
    Action.Moves relation (reverseFile db tree path migration) := by
  have undone : Action.Moves relation (do
      let definition ← Action.ofExcept (instantiate tree path)
      SchemaStep.performAll db (definition.down.getD [])) := by
    intro s
    rw [on_bind, on_ofExcept]
    cases loading : instantiate tree path with
    | error fault => exact Progress.refl s
    | ok definition => exact undoes loading s
  refine moves_bind (moves_ofState undone) fun result => ?_
  cases result with
  | ok nothing => exact moves_pure ()
  | error fault =>
    dsimp only
    split
    · exact moves_bind (moves_note fun s => noted s _) fun _ => moves_fail fault
    · exact moves_fail fault

theorem reverseFile_rests (keeps : KeepsLedger db table) (harmless : HarmlessDown db table tree) (path : Path)
    (migration : Value) : Action.Moves table.Rests (reverseFile db tree path migration) :=
  reverseFile_moves (opens_rests keeps).noted (harmless path) migration

/-- What becomes of the ledger when the last migration is taken back: the row of the largest number is
gone when its name is given back, and nothing has changed otherwise. -/
def TakesBack (table : LedgerTable σ) (before : List Entry) : Except Fault (Option Value) × Session σ → Prop
  | (.ok (some name), t) => table.Settled t.engine ∧ ∃ last, before = table.rows t.engine ++ [last] ∧
      last.migration = name ∧ ∀ entry ∈ table.rows t.engine, entry.id < last.id
  | (.ok none, t) => table.Settled t.engine ∧ table.rows t.engine = before
  | (.error _, t) => table.Settled t.engine ∧ table.rows t.engine = before

/-- Takes back the migration of a record. -/
def takeBack (db : Database σ) (tree : Tree Source.File) (folder : Path) (last : Record) : Action σ (Option Value) := do
  let path ← Action.check (recordedPath folder last.migration)
  if ← Action.check (tree.isFile path) then
    reverseFile db tree path last.migration
    eraseRecord db last.id
    Action.note (.rolledBack last.migration)
    return some last.migration
  else Action.refuse (fileMissing last.migration)

/-- Takes back the migration of a record, if there is one. -/
def takeBackLast (db : Database σ) (tree : Tree Source.File) (folder : Path) : Option Record → Action σ (Option Value)
  | none => return none
  | some last => takeBack db tree folder last

theorem rollbackLast_eq (db : Database σ) (tree : Tree Source.File) (folder : Path) :
    rollbackLast db tree folder = (do takeBackLast db tree folder (← records db).getLast?) := rfl

theorem on_rollbackLast (db : Database σ) (tree : Tree Source.File) (folder : Path) (s : Session σ) :
    on (rollbackLast db tree folder) s = match on (records db) s with
      | (.ok found, t) => (match found.getLast? with
        | none => (.ok none, t)
        | some last => on (takeBack db tree folder last) t)
      | (.error fault, t) => (.error fault, t) := by
  rw [rollbackLast_eq, on_bind]
  rcases on (records db) s with ⟨fault | found, t⟩
  · rfl
  · dsimp only
    cases found.getLast? <;> rfl

section

variable {relation : Session σ → Session σ → Prop} [Progress relation]

/-- Taking back a record stays within what its three parts stay within. -/
theorem takeBack_moves (noted : ∀ (s : Session σ) notice, relation s (s.noted notice))
    (undoes : ∀ ⦃path definition⦄, instantiate tree path = .ok definition →
      Action.Moves relation (SchemaStep.performAll db (definition.down.getD [])))
    (erases : ∀ id, Action.Moves relation (eraseRecord db id)) (folder : Path) (last : Record) :
    Action.Moves relation (takeBack db tree folder last) := by
  refine moves_bind (moves_check _) fun path => moves_bind (moves_check _) fun present => ?_
  split
  · refine moves_bind (reverseFile_moves noted (fun loading => undoes loading) _) fun _ => ?_
    refine moves_bind (erases _) fun _ => ?_
    exact moves_bind (moves_note fun s => noted s _) fun _ => moves_pure _
  · exact moves_refuse _

theorem rollbackLast_moves (noted : ∀ (s : Session σ) notice, relation s (s.noted notice))
    (reads : Action.Moves relation (records db))
    (undoes : ∀ ⦃path definition⦄, instantiate tree path = .ok definition →
      Action.Moves relation (SchemaStep.performAll db (definition.down.getD [])))
    (erases : ∀ id, Action.Moves relation (eraseRecord db id)) (folder : Path) :
    Action.Moves relation (rollbackLast db tree folder) := by
  rw [rollbackLast_eq]
  refine moves_bind reads fun found => ?_
  cases found.getLast? with
  | none => exact moves_pure _
  | some last => exact takeBack_moves noted undoes erases folder last

end

/-- Erasing the record of the last row takes out this row alone, or changes nothing. -/
theorem eraseLast_ledger (keeps : KeepsLedger db table) {s : Session σ} (settled : table.Settled s.engine)
    {rows : List Entry} {last : Entry} (split : table.rows s.engine = rows ++ [last])
    (largest : ∀ entry ∈ rows, entry.id < last.id) :
    table.Done (fun _ after => after = rows) s (on (eraseRecord db last.record.id) s) := by
  have erased := eraseRecord_ledger keeps last.id settled
  change table.Done _ s (on (eraseRecord db last.record.id) s) at erased
  rcases erasing : on (eraseRecord db last.record.id) s with ⟨result, t⟩
  rw [erasing] at erased
  cases result with
  | error fault => exact erased
  | ok nothing =>
    obtain ⟨rests, left⟩ := erased
    rw [split, filter_largest largest] at left
    exact ⟨rests, left⟩

/-- The ways in which taking back a record can go, with what it ends with. -/
inductive TakeBack (db : Database σ) (tree : Tree Source.File) (last : Record) (s : Session σ) :
    Except Fault (Option Value) × Session σ → Prop where
  /-- No path leads to its file. -/
  | unplaced (misuse : Misuse) : TakeBack db tree last s (.error (.misuse misuse), s)
  | missing : TakeBack db tree last s (.error (.report (fileMissing last.migration)), s)
  | unreversed {path : Path} {fault : Fault} {t : Session σ}
      (undoing : on (reverseFile db tree path last.migration) s = (.error fault, t)) :
      TakeBack db tree last s (.error fault, t)
  | unerased {path : Path} {fault : Fault} {t u : Session σ}
      (undoing : on (reverseFile db tree path last.migration) s = (.ok (), t))
      (erasing : on (eraseRecord db last.id) t = (.error fault, u)) : TakeBack db tree last s (.error fault, u)
  | taken {path : Path} {t u : Session σ} (undoing : on (reverseFile db tree path last.migration) s = (.ok (), t))
      (erasing : on (eraseRecord db last.id) t = (.ok (), u)) :
      TakeBack db tree last s (.ok (some last.migration), u.noted (.rolledBack last.migration))

/-- Taking back a record always goes one of these ways. -/
theorem takeBack_goes (db : Database σ) (tree : Tree Source.File) (folder : Path) (last : Record) (s : Session σ) :
    TakeBack db tree last s (on (takeBack db tree folder last) s) := by
  unfold takeBack
  rw [on_bind]
  cases recordedPath folder last.migration with
  | error misuse => exact .unplaced misuse
  | ok path =>
    rw [on_check_ok]
    dsimp only
    rw [on_bind]
    cases tree.isFile path with
    | error misuse => exact .unplaced misuse
    | ok there =>
      cases there with
      | false => exact .missing
      | true =>
        simp only [on_check_ok, ↓reduceIte]
        rw [on_bind]
        rcases undoing : on (reverseFile db tree path last.migration) s with ⟨fault | nothing, t⟩
        · exact .unreversed undoing
        · dsimp only
          rw [on_bind]
          rcases erasing : on (eraseRecord db last.id) t with ⟨fault | nothing, u⟩
          · exact .unerased undoing erasing
          · exact .taken undoing erasing

/-- Where the file of a record stands in its place, it is reversed and its record is erased. -/
theorem takeBack_stays {file : String} {last : Record} (named : last.migration = .text file)
    (stays : tree.isFile (folder.child file) = .ok true) :
    takeBack db tree folder last = (do
      reverseFile db tree (folder.child file) last.migration
      eraseRecord db last.id
      Action.note (.rolledBack last.migration)
      return some last.migration) := by
  have path : recordedPath folder last.migration = .ok (folder.child file) := by
    rw [named]
    rfl
  have checked {α : Type} (value : α) : (Action.check (.ok value) : Action σ α) = pure value := rfl
  unfold takeBack
  rw [path, checked, pure_bind, stays, checked, pure_bind, if_pos rfl]

/-- Where no file of a record stands in its place, that is reported. -/
theorem takeBack_missing {file : String} {last : Record} (named : last.migration = .text file)
    (missing : tree.isFile (folder.child file) = .ok false) :
    takeBack db tree folder last = Action.refuse (fileMissing last.migration) := by
  have path : recordedPath folder last.migration = .ok (folder.child file) := by
    rw [named]
    rfl
  have checked {α : Type} (value : α) : (Action.check (.ok value) : Action σ α) = pure value := rfl
  unfold takeBack
  rw [path, checked, pure_bind, missing, checked, pure_bind, if_neg Bool.false_ne_true]

/-- Taking back the last row takes out this row, at the very end of the work, or leaves it. -/
theorem takeBack_ledger (keeps : KeepsLedger db table) (harmless : HarmlessDown db table tree) {s : Session σ}
    (settled : table.Settled s.engine) {rows : List Entry} {last : Entry} (split : table.rows s.engine = rows ++ [last])
    (largest : ∀ entry ∈ rows, entry.id < last.id) :
    TakesBack table (rows ++ [last]) (on (takeBack db tree folder last.record) s) := by
  have reversed {path : Path} {result : Except Fault Unit} {t : Session σ}
      (undoing : on (reverseFile db tree path last.record.migration) s = (result, t)) :
      table.Settled t.engine ∧ table.rows t.engine = rows ++ [last] := by
    have undone := reverseFile_rests keeps harmless path last.record.migration s settled
    rwa [undoing, split] at undone
  have goes := takeBack_goes db tree folder last.record s
  generalize on (takeBack db tree folder last.record) s = ended at goes
  cases goes with
  | unplaced misuse => exact ⟨settled, split⟩
  | missing => exact ⟨settled, split⟩
  | unreversed undoing => exact reversed undoing
  | unerased undoing erasing =>
    obtain ⟨rests, same⟩ := reversed undoing
    have erased := eraseLast_ledger keeps rests same largest
    rw [erasing] at erased
    exact ⟨erased.1, erased.2.trans same⟩
  | taken undoing erasing =>
    obtain ⟨rests, same⟩ := reversed undoing
    have erased := eraseLast_ledger keeps rests same largest
    rw [erasing] at erased
    obtain ⟨after, left⟩ := erased
    refine ⟨after, last, ?_, rfl, ?_⟩
    · exact congrArg (· ++ [last]) left.symm
    · exact left ▸ largest

/-- Taking back the last migration takes out the row of the largest number and gives back its name, or
it fails or finds nothing and leaves the ledger as it was. -/
theorem rollbackLast_ledger (keeps : KeepsLedger db table) (harmless : HarmlessDown db table tree)
    {s : Session σ} (settled : table.Settled s.engine) (growing : Growing (table.rows s.engine)) :
    TakesBack table (table.rows s.engine) (on (rollbackLast db tree folder) s) := by
  obtain ⟨read, inOrder⟩ := records_ledger keeps settled
  rw [on_rollbackLast]
  rcases reading : on (records db) s with ⟨result, t⟩
  rw [reading] at read
  cases result with
  | error fault => exact read
  | ok found =>
    obtain ⟨ordered, inOrder, rfl⟩ := inOrder reading
    obtain ⟨rests, same⟩ := read
    dsimp only
    rw [inOrder.eq_of_growing growing, List.getLast?_map]
    rcases List.eq_nil_or_concat' (table.rows s.engine) with empty | ⟨rows, last, split⟩
    · rw [empty] at same ⊢
      exact ⟨rests, same⟩
    · rw [split] at same growing ⊢
      rw [List.getLast?_concat]
      exact takeBack_ledger keeps harmless rests same growing.lt_last

end DataLayer.Migration
