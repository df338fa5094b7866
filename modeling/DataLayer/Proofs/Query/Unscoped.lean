import DataLayer.Proofs.Database.Course
import DataLayer.Proofs.Query.Parity

/-! What a database logs on its own. Main statement: running a statement logs that the connection was opened and how
the statement went, and nothing else. -/

namespace DataLayer

open DataLayer.Action

variable {σ : Type} {among : Notice → Prop} {s t : Session σ}

/-- Holds of the notices that a connection was opened and how a statement went. -/
def Notice.OfDatabase : Notice → Prop
  | .connected _ _ _ => True
  | .executed _ _ _ _ => True
  | .failed _ _ _ => True
  | _ => False

namespace Session

/-- The log goes on under the same context, and only with some notices. -/
def Logs (among : Notice → Prop) (s t : Session σ) : Prop :=
  t.context = s.context ∧ ∃ notices : List Notice, t.log = s.log ++ notices.map (⟨·, s.context⟩) ∧
    ∀ notice ∈ notices, among notice

instance : Progress (Logs (σ := σ) among) where
  refl s := ⟨rfl, [], by simp, by simp⟩
  trans := by
    rintro r s t ⟨context, notices, grown, own⟩ ⟨context', more, grown', own'⟩
    refine ⟨context'.trans context, notices ++ more, ?_, fun notice member => ?_⟩
    · rw [grown', grown, context, List.map_append, List.append_assoc]
    · exact (List.mem_append.mp member).elim (own notice) (own' notice)

theorem logs_past (events : List EngineEvent) (engine : σ) : Logs among s (s.past events engine) :=
  ⟨rfl, [], (List.append_nil _).symm, by simp⟩

theorem logs_noted {notice : Notice} (own : among notice) : Logs among s (s.noted notice) :=
  ⟨rfl, [notice], rfl, fun _ member => List.mem_singleton.mp member ▸ own⟩

end Session

namespace Database

open DataLayer.Session

/-- Opening a handle logs only that the connection is open. -/
theorem handles_logs (db : Database σ) : Handles db (Logs Notice.OfDatabase) where
  connect _ _ _ := logs_past _ _
  setup _ _ := logs_past _ _
  openCursor _ _ := logs_past _ _
  closeCursor _ := logs_past _ _
  close _ := logs_past _ _
  flags _ _ _ := ⟨rfl, [], (List.append_nil _).symm, by simp⟩
  opened _ _ _ _ := logs_noted trivial

theorem conclude_logs (db : Database σ) (sql : Value) (params : List Value) (s : Session σ)
    (result : Except EngineFault Statement) : Logs Notice.OfDatabase s (conclude db sql params s result).2 := by
  cases result with
  | ok statement => exact Progress.trans (logs_past [.closeCursor] _) (logs_noted trivial)
  | error fault =>
    unfold conclude
    dsimp only
    split
    · have rolled : Logs Notice.OfDatabase s (s.past [.rollback] (db.driver.rollback s.engine)) := logs_past _ _
      refine Progress.trans rolled (Progress.trans (logs_noted ?_) (logs_past [.closeCursor] _))
      exact trivial
    · exact logs_past [.closeCursor] _

/-- Running a statement logs nothing but that the connection was opened and how the statement went. -/
theorem run_logs (db : Database σ) (sql : Value) (params : List Value) :
    Action.Moves (Logs Notice.OfDatabase) (run db sql params) := by
  intro s
  have opening {opened : Session σ} {result : Except Fault Unit}
      (ended : Action.on (ensureHandle db) s = (result, opened)) : Logs Notice.OfDatabase s opened := by
    have logs := connect_handles (handles_logs db) s
    rwa [← on_ensureHandle, ended] at logs
  have runs := run_runs db sql params s
  generalize Action.on (run db sql params) s = ended at runs ⊢
  cases runs with
  | unopened ended => exact opening ended
  | refused ended cursor => exact Progress.trans (opening ended) (logs_past _ _)
  | performed ended cursor performs =>
    exact Progress.trans (opening ended) (Progress.trans (logs_past _ _) (conclude_logs db sql params _ _))

end Database
end DataLayer

/-! Changes of rows, and the predicates that restrict them. Nothing of a query but its table and its predicates goes
into a change; main statement: a change without predicates touches every row, and along all calls exactly these
changes are announced, each before the engine is asked for anything. -/

namespace DataLayer

open DataLayer.Action

variable {σ : Type} {db : Database σ}

namespace Query

variable {q other : Query} {terminal : Terminal} {operation : String} {prepared : Prepared}

/-- Holds of the ends of a query that are to change rows. -/
def Terminal.IsChange : Terminal → Prop
  | .update _ => True
  | .delete => True
  | _ => False

/-- The change of rows that an end is, by its name. An update with nothing to write is none. -/
def Terminal.change? : Terminal → Option String
  | .update (.map entries) => if entries.isEmpty then none else some "update"
  | .delete => some "delete"
  | _ => none

/-- The values that a change writes. -/
def Terminal.written : Terminal → List Value
  | .update (.map entries) => entries.map Prod.snd
  | _ => []

/-- What a change of rows begins with, before its condition. -/
def changeText (q : Query) : Terminal → String
  | .update (.map entries) => "UPDATE " ++ q.table.display ++ " SET "
      ++ ", ".intercalate (entries.map fun entry => entry.1.display ++ " = ?")
  | .delete => "DELETE FROM " ++ q.table.display
  | _ => ""

/-- The change of every row that a query would end in, if it is one: a change without predicates. -/
def unscoped? (q : Query) (terminal : Terminal) : Option String :=
  if q.predicates.isEmpty then terminal.change? else none

/-- The conditions of a query without their values. -/
def conditions (q : Query) : List Value := q.predicates.map Predicate.fragment

section Compiling

theorem restricted_bare (bare : q.predicates = []) (sql : String) (values : List Value) :
    q.restricted operation sql values = .ok { sql, params := values, unscoped := some operation } := by
  unfold restricted
  rw [bare]
  rfl

/-- Where there are predicates, all of them stand behind the change, and their values behind its own. -/
theorem restricted_scoped (some : q.predicates ≠ []) {sql : String} {values : List Value}
    (compiled : q.restricted operation sql values = .ok prepared) :
    prepared = { sql := sql ++ " WHERE " ++ " AND ".intercalate (q.conditions.map Value.word),
                 params := values ++ q.params } := by
  unfold restricted whereClause at compiled
  rw [if_neg (by simpa using some)] at compiled
  cases joined : Value.joinTexts " AND " (q.predicates.map Predicate.fragment) with
  | error misuse => rw [joined] at compiled; cases compiled
  | ok text =>
    rw [joined] at compiled
    obtain ⟨-, rfl⟩ := Value.joinTexts_eq_ok.mp joined
    rw [← Except.ok.inj compiled, String.append_assoc, String.append_assoc]
    rfl

theorem restricted_congr (conditions : other.conditions = q.conditions) (params : other.params = q.params)
    (operation sql : String) (values : List Value) :
    other.restricted operation sql values = q.restricted operation sql values := by
  have empty : other.predicates.isEmpty = q.predicates.isEmpty := by
    simpa [Query.conditions] using congrArg List.isEmpty conditions
  have text : other.whereClause = q.whereClause :=
    congrArg (fun fragments => (do return "WHERE " ++ (← Value.joinTexts " AND " fragments))) conditions
  unfold restricted
  rw [empty, text, params]

theorem prepare_change (q : Query) (changes : terminal.change? = some operation) :
    q.prepare terminal = q.restricted operation (q.changeText terminal) terminal.written := by
  cases terminal with
  | delete => cases changes; rfl
  | update row =>
    cases row with
    | map entries =>
      change q.updateStatement _ = _
      rw [updateStatement_map]
      change (if entries.isEmpty then none else some "update") = _ at changes
      split at changes
      next => cases changes
      next filled =>
        cases changes
        rw [if_neg filled]
        rfl
    | _ => cases changes
  | _ => cases changes

/-- A change with nothing to write, or with something else than a row, does not compile. -/
theorem prepare_changeless (isChange : terminal.IsChange) (changes : terminal.change? = none) :
    ∃ fault, q.prepare terminal = .error fault := by
  cases terminal with
  | delete => cases changes
  | update row =>
    cases compiled : q.prepare (.update row) with
    | error fault => exact ⟨fault, rfl⟩
    | ok prepared =>
      obtain ⟨entries, rfl, -⟩ := updateStatement_eq_ok compiled
      change q.updateStatement _ = _ at compiled
      rw [updateStatement_map] at compiled
      change (if entries.isEmpty then none else some "update") = _ at changes
      split at changes
      next empty =>
        rw [if_pos empty] at compiled
        cases compiled
      next => cases changes
  | _ => exact isChange.elim

/-- A change of every row always compiles. -/
theorem prepare_unscoped (unscoped : q.unscoped? terminal = some operation) :
    q.prepare terminal =
      .ok { sql := q.changeText terminal, params := terminal.written, unscoped := some operation } := by
  unfold unscoped? at unscoped
  split at unscoped
  next bare =>
    rw [prepare_change q unscoped]
    exact restricted_bare (List.isEmpty_iff.mp bare) _ _
  next => cases unscoped

/-- Every other change that compiles has its condition. -/
theorem prepare_scoped (isChange : terminal.IsChange) (narrow : q.unscoped? terminal = none)
    (compiled : q.prepare terminal = .ok prepared) :
    prepared = { sql := q.changeText terminal ++ " WHERE " ++ " AND ".intercalate (q.conditions.map Value.word),
                 params := terminal.written ++ q.params } := by
  cases changes : terminal.change? with
  | none =>
    obtain ⟨fault, refused⟩ := prepare_changeless (q := q) isChange changes
    rw [refused] at compiled
    cases compiled
  | some operation =>
    rw [prepare_change q changes] at compiled
    refine restricted_scoped (fun bare => ?_) compiled
    rw [unscoped?, bare, changes] at narrow
    cases narrow

/-- A statement is marked as touching every row when it is a change of every row. -/
theorem prepare_marked (compiled : q.prepare terminal = .ok prepared) : prepared.unscoped = q.unscoped? terminal := by
  cases unscoped : q.unscoped? terminal with
  | some operation =>
    rw [prepare_unscoped unscoped] at compiled
    rw [← Except.ok.inj compiled]
  | none =>
    have select {selection : String} {limit : Option Nat} (compiled : (do
        return { sql := ← Misuse.lift (q.selectWith selection limit), params := q.params } : Except Fault Prepared) =
          .ok prepared) : prepared.unscoped = none := by
      cases selected : q.selectWith selection limit with
      | error misuse => rw [selected] at compiled; cases compiled
      | ok sql => rw [selected] at compiled; cases compiled; rfl
    cases terminal with
    | get => exact select compiled
    | first => exact select compiled
    | «exists» => exact select compiled
    | insert row =>
      obtain ⟨entries, columns, -, -, rfl⟩ := insertStatement_eq_ok compiled
      rfl
    | update row =>
      have isChange : (Terminal.update row).IsChange := trivial
      rw [prepare_scoped isChange unscoped compiled]
    | delete =>
      have isChange : Terminal.delete.IsChange := trivial
      rw [prepare_scoped isChange unscoped compiled]

/-- What a change compiles to depends on the table, the predicates and their values alone. -/
theorem prepare_congr (table : other.table = q.table) (conditions : other.conditions = q.conditions)
    (params : other.params = q.params) (isChange : terminal.IsChange) :
    other.prepare terminal = q.prepare terminal := by
  have restricted := restricted_congr conditions params
  cases terminal with
  | delete =>
    change other.restricted "delete" ("DELETE FROM " ++ other.table.display) [] = _
    rw [restricted, table]
    rfl
  | update row =>
    change other.updateStatement row = q.updateStatement row
    simp only [updateStatement, malformed, restricted, table]
  | _ => exact isChange.elim

/-- So does what it comes to. -/
theorem finish_congr (table : other.table = q.table) (conditions : other.conditions = q.conditions)
    (params : other.params = q.params) (isChange : terminal.IsChange) (db : Database σ) :
    other.finish db terminal = q.finish db terminal := by
  have sent : send db other = send db q := by
    unfold send
    rw [table]
  rw [finish_eq, finish_eq, prepare_congr table conditions params isChange, sent]

end Compiling

end Query

section Announcing

/-- The warnings in a log that a change touches every row. -/
def unscopedWrites (log : List Logged) : List Notice :=
  (log.map Logged.notice).filter fun notice => notice.event = "query.unscoped_write"

variable {s t : Session σ}

theorem unscopedWrites_noted (s : Session σ) (operation : String) (table : Value) :
    unscopedWrites (s.noted (.unscopedWrite operation table)).log =
      unscopedWrites s.log ++ [.unscopedWrite operation table] := by
  simp [unscopedWrites, Session.noted, Notice.event]

/-- Running a statement warns of nothing. -/
theorem unscopedWrites_run (db : Database σ) (sql : Value) (params : List Value) (s : Session σ) :
    unscopedWrites (on (db.run sql params) s).2.log = unscopedWrites s.log := by
  obtain ⟨-, notices, grown, own⟩ := Database.run_logs db sql params s
  have silent : (notices.map (⟨·, s.context⟩)).map Logged.notice = notices := List.map_map.trans (List.map_id _)
  have none : notices.filter (fun notice => notice.event = "query.unscoped_write") = [] := by
    refine List.filter_eq_nil_iff.mpr fun notice member => ?_
    have ofDatabase := own notice member
    cases notice with
    | connected kind target offset => simp [Notice.event]
    | executed sql params rows rowcount => simp [Notice.event]
    | failed sql kind message => simp [Notice.event]
    | _ => exact ofDatabase.elim
  simp only [unscopedWrites, grown, List.map_append, List.filter_append, silent, none, List.append_nil]

namespace Query

variable {q : Query} {terminal : Terminal} {operation : String}

/-- A change of every row is announced, and then its statement runs. -/
theorem finish_unscoped (unscoped : q.unscoped? terminal = some operation) (db : Database σ) (s : Session σ) :
    on (q.finish db terminal) s =
      let ran := on (db.run (.text (q.changeText terminal)) terminal.written)
        (s.noted (.unscopedWrite operation q.table))
      (ran.1.map fun _ => .flag true, ran.2) := by
  have answers (statement : Statement) : (ended terminal statement : Action σ Ending) = pure (.flag true) := by
    unfold unscoped? at unscoped
    split at unscoped
    next =>
      cases terminal with
      | update row => rfl
      | delete => rfl
      | _ => cases unscoped
    next => cases unscoped
  let prepared : Prepared := { sql := q.changeText terminal, params := terminal.written, unscoped := some operation }
  have sent : on (send db q prepared) s =
      on (db.run (.text (q.changeText terminal)) terminal.written) (s.noted (.unscopedWrite operation q.table)) := rfl
  rw [finish_eq, on_bind, on_ofExcept, prepare_unscoped unscoped]
  dsimp only
  rw [on_bind, sent]
  rcases on (db.run _ _) _ with ⟨fault | statement, after⟩
  · rfl
  · simp only [answers, on_pure]
    rfl

/-- An end of a query warns exactly when it is a change of every row. -/
theorem unscopedWrites_finish (db : Database σ) (q : Query) (terminal : Terminal) (s : Session σ) :
    unscopedWrites (on (q.finish db terminal) s).2.log =
      unscopedWrites s.log ++ (q.unscoped? terminal).toList.map (.unscopedWrite · q.table) := by
  cases unscoped : q.unscoped? terminal with
  | some operation =>
    rw [finish_unscoped unscoped]
    dsimp only
    rw [unscopedWrites_run, unscopedWrites_noted]
    rfl
  | none =>
    rw [Option.toList_none, List.map_nil, List.append_nil]
    cases compiled : q.prepare terminal with
    | error fault => rw [finish_eq, on_bind, on_ofExcept, compiled]
    | ok prepared =>
      have unmarked : prepared.unscoped = none := (prepare_marked compiled).trans unscoped
      have ran := unscopedWrites_run db (.text prepared.sql) prepared.params s
      rw [on_finish compiled unmarked]
      generalize on (db.run _ _) s = ended at ran ⊢
      rcases ended with ⟨fault | statement, after⟩
      · exact ran
      · dsimp only
        rw [on_ended]
        exact ran

end Query

namespace Script.QueryStep

open Query

/-- The change of every row that a call on a query asks for, if it asks for one. -/
def unscoped? (q : Query) (call : Call) : Option String :=
  match ofCall call with
  | .ok (.terminal ending) => q.unscoped? ending
  | _ => none

/-- The changes of every row that calls in turn ask for. -/
def unscopedCalls (q : Query) : List Call → List String
  | [] => []
  | call :: rest => (unscoped? q call).toList ++ unscopedCalls (traced q call).1 rest

theorem performCall_query (db : Database σ) (q : Query) (call : Call) (s : Session σ) :
    (performCall db q call s).1.2 = (traced q call).1 := by
  unfold performCall traced
  cases ofCall call with
  | error misuse => rfl
  | ok step => exact perform_query db q step s

theorem apply_table (q : Query) (clause : Clause) : (q.apply clause).2.table = q.table := by
  cases clause with
  | fragment sql => rfl
  | compare column operator value => rfl
  | reset => rfl
  | select columns =>
    simp only [apply, Query.select]
    split
    · rfl
    · split <;> rfl
  | join kind table condition =>
    simp only [apply, Query.join]
    split <;> rfl
  | raw sql params =>
    simp only [apply, Query.raw]
    split
    · rfl
    · split
      · rfl
      · split <;> rfl
  | orderBy column direction =>
    simp only [apply, Query.orderBy]
    split
    · rfl
    · split
      · split <;> rfl
      · rfl
  | limit count =>
    simp only [apply]
    split <;> rfl
  | offset count =>
    simp only [apply]
    split <;> rfl

theorem traced_table (q : Query) (call : Call) : (traced q call).1.table = q.table := by
  unfold traced
  cases ofCall call with
  | error misuse => rfl
  | ok step =>
    dsimp only
    cases step.clause? with
    | none => rfl
    | some change => exact apply_table q change

theorem performCalls_query (db : Database σ) (q : Query) (calls : List Call) (s : Session σ) :
    (performCalls db q calls s).1.2 = calls.foldl (fun q call => (traced q call).1) q := by
  induction calls generalizing q s with
  | nil => rfl
  | cons call rest ih =>
    rw [performCalls_cons]
    dsimp only
    rw [ih, performCall_query]
    rfl

/-- A call warns exactly when it asks for a change of every row. -/
theorem unscopedWrites_performCall (db : Database σ) (q : Query) (call : Call) (s : Session σ) :
    unscopedWrites (performCall db q call s).2.log =
      unscopedWrites s.log ++ (unscoped? q call).toList.map (.unscopedWrite · q.table) := by
  have quiet : unscopedWrites s.log =
      unscopedWrites s.log ++ (none : Option String).toList.map (.unscopedWrite · q.table) := (List.append_nil _).symm
  unfold performCall unscoped?
  cases ofCall call with
  | error misuse => exact quiet
  | ok step =>
    cases step with
    | terminal ending => exact unscopedWrites_finish db q ending s
    | _ => exact quiet

/-- So do calls one after the other, whatever becomes of each. -/
theorem unscopedWrites_performCalls (db : Database σ) (q : Query) (calls : List Call) (s : Session σ) :
    unscopedWrites (performCalls db q calls s).2.log =
      unscopedWrites s.log ++ (unscopedCalls q calls).map (.unscopedWrite · q.table) := by
  induction calls generalizing q s with
  | nil => exact (List.append_nil _).symm
  | cons call rest ih =>
    rw [performCalls_cons]
    dsimp only
    rw [ih, performCall_query, unscopedWrites_performCall, traced_table, unscopedCalls, List.map_append,
      List.append_assoc]

/-- How a call stands to the changes of every row. -/
structure Announces (db : Database σ) (q : Query) (call : Call) (s : Session σ) : Prop where
  /-- A change of every row compiles. It is announced, and what the engine sees of the call comes after that. -/
  first : ∀ operation, unscoped? q call = some operation → ∃ ending, ofCall call = .ok (.terminal ending) ∧
    ending.change? = some operation ∧
    q.prepare ending = .ok { sql := q.changeText ending, params := ending.written, unscoped := some operation } ∧
    let ran := on (db.run (.text (q.changeText ending)) ending.written) (s.noted (.unscopedWrite operation q.table))
    performCall db q call s = ((ran.1.map fun _ => .flag true, q), ran.2) ∧
      unscopedWrites ran.2.log = unscopedWrites s.log ++ [.unscopedWrite operation q.table]
  /-- No other call is announced. -/
  silent : unscoped? q call = none → unscopedWrites (performCall db q call s).2.log = unscopedWrites s.log
  /-- Of the changes, exactly those of every row compile to a statement without a condition. -/
  bare : ∀ ending, ofCall call = .ok (.terminal ending) → ending.IsChange →
    ((∃ prepared, q.prepare ending = .ok prepared ∧ prepared.sql = q.changeText ending) ↔ (unscoped? q call).isSome)
  /-- All others have the condition of the query, with its values behind their own. -/
  narrow : ∀ ending prepared, ofCall call = .ok (.terminal ending) → ending.IsChange →
    q.prepare ending = .ok prepared → unscoped? q call = none →
    prepared.sql = q.changeText ending ++ " WHERE " ++ " AND ".intercalate (q.conditions.map Value.word) ∧
      prepared.params = ending.written ++ q.params

theorem performCall_announces (db : Database σ) (q : Query) (call : Call) (s : Session σ) :
    Announces db q call s := by
  have asked {ending : Terminal} (asks : ofCall call = .ok (.terminal ending)) :
      unscoped? q call = q.unscoped? ending := by
    unfold unscoped?
    rw [asks]
  refine ⟨fun operation unscoped => ?_, fun quiet => ?_, fun ending asks isChange => ⟨?_, fun marked => ?_⟩, ?_⟩
  · cases asks : ofCall call with
    | error misuse => simp [unscoped?, asks] at unscoped
    | ok step =>
      cases step with
      | terminal ending =>
        rw [asked asks] at unscoped
        have changes : ending.change? = some operation := by
          unfold Query.unscoped? at unscoped
          split at unscoped
          · exact unscoped
          · cases unscoped
        refine ⟨ending, rfl, changes, prepare_unscoped unscoped, ?_, ?_⟩
        · unfold performCall
          rw [asks]
          change (((on (q.finish db ending) s).1.map _, q), (on (q.finish db ending) s).2) = _
          rw [finish_unscoped unscoped]
          dsimp only
          rcases on (db.run _ _) _ with ⟨fault | statement, after⟩ <;> rfl
        · rw [unscopedWrites_run, unscopedWrites_noted]
      | _ => simp [unscoped?, asks] at unscoped
  · rw [unscopedWrites_performCall, quiet]
    exact List.append_nil _
  · rintro ⟨prepared, compiled, whole⟩
    by_contra unmarked
    rw [asked asks, Bool.not_eq_true, Option.isSome_eq_false_iff, Option.isNone_iff_eq_none] at unmarked
    -- A condition makes the statement longer.
    rw [prepare_scoped isChange unmarked compiled] at whole
    have longer := congrArg String.length whole
    simp only [String.length_append] at longer
    have word : " WHERE ".length = 7 := rfl
    omega
  · obtain ⟨operation, unscoped⟩ := Option.isSome_iff_exists.mp marked
    exact ⟨_, prepare_unscoped ((asked asks).symm.trans unscoped), rfl⟩
  · intro ending prepared asks isChange compiled unmarked
    rw [prepare_scoped isChange ((asked asks).symm.trans unmarked) compiled]
    exact ⟨rfl, rfl⟩

end Script.QueryStep

end Announcing

end DataLayer
