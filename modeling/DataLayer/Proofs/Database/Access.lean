import DataLayer.Proofs.Database.Opening
import DataLayer.Proofs.Database.Protocol
import DataLayer.Proofs.Query.Terminal
import DataLayer.Proofs.Schema.Build
import DataLayer.Schema.Change

/-! Which complaints of an engine get out as they are. What an engine says when a handle is opened and when a
statement runs is reported; what it says when it refuses the cursor is not. Main statement: where an engine only
complains, everything else that ends an access is a report, a value that could not be used, or what a caller
raised. -/

namespace DataLayer

open DataLayer.Action

variable {σ : Type}

/-- Holds of engines all of whose failures are complaints about a statement or a connection. -/
structure Driver.OnlyComplains (driver : Driver σ) : Prop where
  connect : ∀ ⦃s fault t⦄, driver.connect s = (.error fault, t) → fault.kind.isDriverError = true
  setup : ∀ ⦃sql s fault t⦄, driver.setup sql s = (.error fault, t) → fault.kind.isDriverError = true
  openCursor : ∀ ⦃prepared s fault t⦄, driver.openCursor prepared s = (.error fault, t) →
    fault.kind.isDriverError = true
  execute : ∀ ⦃sql params s fault t⦄, driver.execute sql params s = (.error fault, t) →
    fault.kind.isDriverError = true
  fetchAll : ∀ ⦃s fault t⦄, driver.fetchAll s = (.error fault, t) → fault.kind.isDriverError = true
  commit : ∀ ⦃s fault t⦄, driver.commit s = (.error fault, t) → fault.kind.isDriverError = true

namespace Database

variable {db : Database σ} {driver : Driver σ} {sql : Value} {params : List Value} {s t : Session σ} {fault : Fault}

/-- On an engine that only complains, an attempt to connect fails with a report, or before the engine was asked
for anything. -/
theorem connect_fault (complains : db.driver.OnlyComplains) (failed : Action.on (connect db) s = (.error fault, t)) :
    (∃ report, fault = .report report) ∨ ∃ misuse, fault = .misuse misuse ∧ t = s := by
  have reported {complaint : EngineFault} (complaining : complaint.kind.isDriverError = true) :
      ∃ report, openingFault db.kind complaint = .report report := by
    simp [openingFault, complaining]
  have readied {sql : String} {fresh after : σ} {complaint : EngineFault} {events : List EngineEvent}
      (readies : Readies db sql fresh (.error complaint) events after) : complaint.kind.isDriverError = true := by
    cases readies with
    | embedded kind setup => exact complains.setup setup
    | bare kind cursor => exact complains.openCursor cursor
    | server kind cursor setup => exact complains.setup setup
  have connects := connect_connects db s
  rw [failed] at connects
  cases connects with
  | unasked free own =>
    cases fault with
    | report report => exact .inl ⟨report, rfl⟩
    | misuse misuse => exact .inr ⟨misuse, rfl, rfl⟩
    | _ => exact own.elim
  | refused free connect => exact .inl (reported (complains.connect connect))
  | abandoned free connect readies gives => exact .inl (reported (readied readies))
  | halfway free connect readies keeps => exact .inl (reported (readied readies))

theorem performs_complains (complains : driver.OnlyComplains) {complaint : EngineFault} {engine after : σ}
    {events : List EngineEvent} (performs : Performs driver sql params engine (.error complaint) events after) :
    complaint.kind.isDriverError = true := by
  cases performs with
  | refused execute => exact complains.execute execute
  | unfetched execute fetch =>
    cases fetch with
    | rows wide fetched => exact complains.fetchAll fetched
  | uncommitted execute fetch commit => exact complains.commit commit

/-- Holds when the engine has a handle for a statement and refuses the cursor with this complaint. -/
def CursorRefused (db : Database σ) (params : List Value) (s : Session σ) (complaint : EngineFault) : Prop :=
  ∃ opened, Action.on (connect db) s = (.ok (), opened) ∧
    (db.driver.openCursor (db.isPrepared params) opened.engine).1 = .error complaint

/-- What a statement fails with on an engine that only complains. -/
inductive FailsWith (db : Database σ) (params : List Value) (s : Session σ) : Fault → Prop where
  | reported (report : Report) : FailsWith db params s (.report report)
  | unusable {misuse : Misuse} (unasked : Action.on (connect db) s = (.error (.misuse misuse), s)) :
      FailsWith db params s (.misuse misuse)
  | untranslated {complaint : EngineFault} (refused : CursorRefused db params s complaint) :
      FailsWith db params s (.engine complaint)

theorem run_fails (complains : db.driver.OnlyComplains) (failed : Action.on (run db sql params) s = (.error fault, t)) :
    FailsWith db params s fault := by
  have runs := run_runs db sql params s
  rw [failed] at runs
  generalize ended : ((.error fault, t) : Except Fault Statement × Session σ) = last at runs
  cases runs with
  | unopened opening =>
    cases ended
    rw [on_ensureHandle] at opening
    rcases connect_fault complains opening with ⟨report, rfl⟩ | ⟨misuse, rfl, rfl⟩
    · exact .reported report
    · exact .unusable opening
  | refused opening cursor =>
    cases ended
    rw [on_ensureHandle] at opening
    exact .untranslated ⟨_, opening, congrArg Prod.fst cursor⟩
  | @performed opened ready after result events opening cursor performs =>
    cases result with
    | ok statement => cases ended
    | error complaint =>
      simp only [conclude, performs_complains complains performs, ↓reduceIte] at ended
      cases ended
      exact .reported _

/-- A refused cursor ends the statement with the complaint of the engine itself. -/
theorem run_untranslated {complaint : EngineFault} (sql : Value) (refused : CursorRefused db params s complaint) :
    ∃ t, Action.on (run db sql params) s = (.error (.engine complaint), t) := by
  obtain ⟨opened, opening, cursor⟩ := refused
  rw [← on_ensureHandle] at opening
  have runs := run_runs db sql params s
  generalize Action.on (run db sql params) s = ended at runs
  cases runs with
  | unopened failing =>
    rw [opening] at failing
    cases failing
  | refused again answer =>
    rw [opening] at again
    cases again
    rw [answer] at cursor
    cases cursor
    exact ⟨_, rfl⟩
  | performed again answer performs =>
    rw [opening] at again
    cases again
    rw [answer] at cursor
    cases cursor

end Database
end DataLayer

/-! The ways into a database. Each of them compiles a statement, or none, runs it, and reads what came of it.
Main statement: where an engine only complains, what ends an access is a report, a value that could not be used, a
fault that a caller raised, or the complaint about a cursor, which is not translated. -/

namespace DataLayer

open DataLayer.Action

variable {σ : Type}

open Fault

/-- A query is compiled to a statement, or it is told here why it cannot be. -/
theorem Query.prepare_owned (q : Query) (terminal : Query.Terminal) : Owned (q.prepare terminal) := by
  have restricted (operation sql : String) (values : List Value) : Owned (q.restricted operation sql values) := by
    unfold Query.restricted
    split
    · exact owned_ok _
    · exact owned_bind (owned_lift _) fun condition => owned_ok _
  cases terminal with
  | get => exact owned_bind (owned_lift _) fun sql => owned_ok _
  | first => exact owned_bind (owned_lift _) fun sql => owned_ok _
  | «exists» => exact owned_bind (owned_lift _) fun sql => owned_ok _
  | delete => exact restricted _ _ _
  | insert row =>
    change Owned (q.insertStatement row)
    unfold Query.insertStatement
    split
    · exact owned_refuse _
    · exact owned_bind (owned_lift _) fun entries => owned_bind (owned_lift _) fun columns => owned_ok _
  | update row =>
    change Owned (q.updateStatement row)
    unfold Query.updateStatement
    split
    · exact owned_refuse _
    · exact owned_bind (owned_lift _) fun columns => owned_bind (owned_lift _) fun entries => restricted _ _ _

namespace Schema

theorem Blueprint.start_owned (table : Value) (isCreate : Bool) (dialect : Dialect) :
    Owned (Blueprint.start table isCreate dialect) := by
  refine owned_bind (owned_lift _) fun blank => ?_
  cases blank with
  | true => exact owned_refuse _
  | false => exact owned_ok _

theorem Blueprint.build_owned (b : Blueprint) : Owned b.build := by
  unfold Blueprint.build
  split
  · have created : Owned b.createStatement := by
      unfold Blueprint.createStatement
      split
      · exact owned_refuse _
      · exact owned_bind (owned_lift _) fun columns => owned_bind (owned_lift _) fun table => owned_ok _
    exact owned_map created some
  · refine owned_bind (owned_lift _) fun fragments => ?_
    cases fragments with
    | nil => exact owned_ok _
    | cons fragment rest => exact owned_bind (owned_lift _) fun table => owned_ok _

/-- A description that does not compile was refused here or by its author. -/
theorem compile_fault {dialect : Dialect} {table : Value} {isCreate : Bool} {describe : Describe} {fault : Fault}
    (failed : compile dialect table isCreate describe = .error fault) :
    fault.IsOwn ∨ ∃ started, describe started = .error fault := by
  unfold compile at failed
  cases begun : Blueprint.start table isCreate dialect with
  | error refused =>
    rw [begun] at failed
    cases failed
    exact .inl (Blueprint.start_owned table isCreate dialect _ begun)
  | ok started =>
    rw [begun] at failed
    cases described : describe started with
    | error raised =>
      change (describe started >>= _) = _ at failed
      rw [described] at failed
      cases failed
      exact .inr ⟨started, described⟩
    | ok blueprint =>
      change (describe started >>= _) = _ at failed
      rw [described] at failed
      exact .inl (blueprint.build_owned _ failed)

end Schema

/-- A leading word is there to be read. -/
theorem Database.returnsRows_word {c : Char} (solid : Text.isBlank c = false) (body : Database.isLead c = false)
    (rest : List Char) : ∃ yields, Database.returnsRowsValue (.text (String.ofList (c :: rest))) = .ok yields := by
  unfold Database.returnsRowsValue Database.returnsRows
  simp [Value.text?, body, Text.firstWord, solid]

/-- A way into a database. -/
inductive Access where
  | run (sql : Value) (params : List Value)
  | query (sql : Value) (params : List Value)
  | queryOne (sql : Value) (params : List Value)
  | execute (sql : Value) (params : List Value)
  | finish (q : Query) (terminal : Query.Terminal)
  | create (table : Value) (describe : Schema.Describe)
  | alter (table : Value) (describe : Schema.Describe)
  | rename (source target : Value)
  | drop (table : Value)
  | dropIfExists (table : Value)
  | hasTable (table : Value)

namespace Access

variable {db : Database σ} {s t : Session σ} {fault : Fault}

/-- Takes a way into a database, whatever it leads to. -/
def perform (db : Database σ) : Access → Action σ Unit
  | .run sql params => do let _ ← db.run sql params
  | .query sql params => do let _ ← db.query sql params
  | .queryOne sql params => do let _ ← db.queryOne sql params
  | .execute sql params => do let _ ← db.execute sql params
  | .finish q terminal => do let _ ← q.finish db terminal
  | .create table describe => do let _ ← Schema.create db table describe
  | .alter table describe => do let _ ← Schema.alter db table describe
  | .rename source target => do let _ ← Schema.rename db source target
  | .drop table => do let _ ← Schema.drop db table
  | .dropIfExists table => do let _ ← Schema.dropIfExists db table
  | .hasTable table => do let _ ← Schema.hasTable db table

/-- The statement that an access runs, with its values. -/
def statement (db : Database σ) : Access → Except Fault (Option (Value × List Value))
  | .run sql params => .ok (some (sql, params))
  | .query sql params => .ok (some (sql, params))
  | .queryOne sql params => .ok (some (sql, params))
  | .execute sql params => .ok (some (sql, params))
  | .finish q terminal => (q.prepare terminal).map fun prepared => some (.text prepared.sql, prepared.params)
  | .create table describe =>
    (Schema.compile db.dialect table true describe).map (Option.map fun sql => (.text sql, []))
  | .alter table describe =>
    (Schema.compile db.dialect table false describe).map (Option.map fun sql => (.text sql, []))
  | .rename source target =>
    (Misuse.lift (db.dialect.renameTable source target)).map fun sql => some (.text sql, [])
  | .drop table =>
    (Misuse.lift (Dialect.quoteIdentifier table)).map fun name => some (.text ("DROP TABLE " ++ name), [])
  | .dropIfExists table =>
    (Misuse.lift (Dialect.quoteIdentifier table)).map fun name => some (.text ("DROP TABLE IF EXISTS " ++ name), [])
  | .hasTable table => .ok (some (.text db.dialect.tableExistsQuery, [table]))

/-- The session in which the statement runs: a change of every row is announced first. -/
def announced (s : Session σ) : Access → Session σ
  | .finish q terminal =>
    match q.prepare terminal with
    | .ok { unscoped := some operation, .. } => s.noted (.unscopedWrite operation q.table)
    | _ => s
  | _ => s

/-- Reading what came of the statement. -/
def reading : Access → Statement → Except Misuse Unit
  | .execute sql _, _ => (Database.returnsRowsValue sql).map fun _ => ()
  | .finish _ .exists, statement => (Query.countsSome statement.rows.head?).map fun _ => ()
  | _, _ => .ok ()

/-- The description that a caller gave for a table. -/
def describe? : Access → Option Schema.Describe
  | .create _ describe => some describe
  | .alter _ describe => some describe
  | _ => none

/-- What an access ends with when its statement runs, from what the statement came to. -/
def ended (access : Access) : Except Fault Statement → Except Fault Unit
  | .error fault => .error fault
  | .ok statement => (access.reading statement).mapError Fault.misuse

/-- What an access ends with: with its statement where that cannot be compiled, and otherwise as the statement
goes. -/
def result (db : Database σ) (s : Session σ) (access : Access) : Except Fault Unit :=
  match access.statement db with
  | .error fault => .error fault
  | .ok none => .ok ()
  | .ok (some (sql, params)) => access.ended (on (db.run sql params) (access.announced s)).1

/-- Holds of texts that start with a word, as every change of a table does. -/
def StartsWithWord (sql : String) : Prop :=
  ∃ c rest, sql = String.ofList (c :: rest) ∧ Text.isBlank c = false ∧ Database.isLead c = false

theorem startsWithWord_append {first : String} (starts : StartsWithWord first) (rest : String) :
    StartsWithWord (first ++ rest) := by
  obtain ⟨c, chars, rfl, solid, body⟩ := starts
  refine ⟨c, chars ++ rest.toList, ?_, solid, body⟩
  simp [← String.toList_inj]

/-- A change of a table goes as its statement does. -/
theorem on_change {sql : String} (starts : StartsWithWord sql) (s : Session σ) :
    on (Schema.change db sql) s =
      ((on (db.run (.text sql) []) s).1.map fun _ => sql, (on (db.run (.text sql) []) s).2) := by
  obtain ⟨c, rest, rfl, solid, body⟩ := starts
  obtain ⟨yields, reads⟩ := Database.returnsRows_word solid body rest
  unfold Schema.change Database.execute
  simp only [on_bind, reads, on_check_ok, on_pure]
  rcases on (db.run (.text (String.ofList (c :: rest))) []) s with ⟨result, t⟩
  cases result <;> rfl

theorem compile_startsWithWord {dialect : Dialect} {table : Value} {isCreate : Bool} {describe : Schema.Describe}
    {sql : String} (compiled : Schema.compile dialect table isCreate describe = .ok (some sql)) :
    StartsWithWord sql := by
  have create : StartsWithWord "CREATE TABLE IF NOT EXISTS " := ⟨'C', _, rfl, rfl, rfl⟩
  have alter : StartsWithWord "ALTER TABLE " := ⟨'A', _, rfl, rfl, rfl⟩
  unfold Schema.compile at compiled
  cases begun : Schema.Blueprint.start table isCreate dialect with
  | error fault =>
    rw [begun] at compiled
    cases compiled
  | ok started =>
    rw [begun] at compiled
    change (describe started >>= _) = _ at compiled
    cases described : describe started with
    | error fault =>
      rw [described] at compiled
      cases compiled
    | ok b =>
      rw [described] at compiled
      change b.build = .ok (some sql) at compiled
      unfold Schema.Blueprint.build at compiled
      split at compiled
      · cases built : b.createStatement with
        | error fault =>
          rw [built] at compiled
          cases compiled
        | ok own =>
          rw [built] at compiled
          cases compiled
          obtain ⟨columns, name, -, -, -, rfl⟩ := Schema.Blueprint.createStatement_eq_ok built
          simp only [String.append_assoc]
          exact startsWithWord_append create _
      · obtain ⟨columns, name, -, -, -, rfl⟩ := Schema.Blueprint.alterStatement_eq_ok compiled
        simp only [String.append_assoc]
        exact startsWithWord_append alter _

theorem renameTable_startsWithWord {dialect : Dialect} {source target : Value} {sql : String}
    (renamed : dialect.renameTable source target = .ok sql) : StartsWithWord sql := by
  have rename : StartsWithWord "RENAME TABLE " := ⟨'R', _, rfl, rfl, rfl⟩
  have alter : StartsWithWord "ALTER TABLE " := ⟨'A', _, rfl, rfl, rfl⟩
  unfold Dialect.renameTable at renamed
  cases first : Dialect.quoteIdentifier source with
  | error misuse =>
    rw [first] at renamed
    cases renamed
  | ok source =>
    rw [first] at renamed
    cases second : Dialect.quoteIdentifier target with
    | error misuse =>
      rw [second] at renamed
      cases renamed
    | ok target =>
      rw [second] at renamed
      cases dialect with
      | mysql =>
        cases renamed
        simp only [String.append_assoc]
        exact startsWithWord_append rename _
      | sqlite =>
        cases renamed
        simp only [String.append_assoc]
        exact startsWithWord_append alter _

/-- Work whose value is only passed on in another form. -/
theorem on_map {α β : Type} (work : Action σ α) (form : α → β) (s : Session σ) :
    (on (work >>= fun value => pure (form value)) s).1 = (on work s).1.map form := by
  rw [on_bind]
  rcases on work s with ⟨fault | value, t⟩ <;> rfl

theorem map_map {ε α β γ : Type} (result : Except ε α) (form : α → β) (next : β → γ) :
    (result.map form).map next = result.map (next ∘ form) := by
  cases result <;> rfl

/-- A described table ends with its statement where that cannot be compiled, and otherwise as the statement
goes. -/
theorem on_applyBlueprint (db : Database σ) (table : Value) (isCreate : Bool) (describe : Schema.Describe)
    (s : Session σ) :
    on (Schema.applyBlueprint db table isCreate describe) s =
      match Schema.compile db.dialect table isCreate describe with
      | .error fault => (.error fault, s)
      | .ok none => (.ok none, s.noted (.noChange table))
      | .ok (some sql) =>
        ((on (db.run (.text sql) []) s).1.map fun _ => some sql, (on (db.run (.text sql) []) s).2) := by
  unfold Schema.applyBlueprint
  rw [on_bind, on_ofExcept]
  cases compiled : Schema.compile db.dialect table isCreate describe with
  | error fault => rfl
  | ok sql? =>
    cases sql? with
    | none => rfl
    | some sql =>
      dsimp only
      rw [on_bind, on_change (compile_startsWithWord compiled)]
      rcases on (db.run (.text sql) []) s with ⟨result, t⟩
      cases result <;> rfl

/-- Where nothing is read, an access ends as its statement does. -/
theorem ended_map {access : Access} (silent : ∀ statement, access.reading statement = .ok ())
    (result : Except Fault Statement) : result.map (fun _ => ()) = access.ended result := by
  cases result with
  | error fault => rfl
  | ok statement =>
    simp only [ended, silent]
    rfl

/-- Reading what came of the statement of a query. -/
theorem on_reading (q : Query) (terminal : Query.Terminal) (statement : Statement) (s : Session σ) :
    (on (Query.ended terminal statement) s).1.map (fun _ => ()) =
      (reading (.finish q terminal) statement).mapError Fault.misuse := by
  cases terminal with
  | «exists» =>
    simp only [Query.ended, reading, on_bind, on_check]
    cases Query.countsSome statement.rows.head? <;> rfl
  | _ => rfl

/-- The statement of a query runs after the announcement of a change of every row. -/
theorem on_send (db : Database σ) {q : Query} {terminal : Query.Terminal} {prepared : Prepared}
    (compiled : q.prepare terminal = .ok prepared) (s : Session σ) :
    on (q.send db prepared) s = on (db.run (.text prepared.sql) prepared.params) ((finish q terminal).announced s) := by
  unfold Query.send announced
  obtain ⟨sql, params, unscoped⟩ := prepared
  simp only [compiled]
  cases unscoped <;> rfl

theorem on_described {table : Value} {describe : Schema.Describe} {isCreate : Bool} {access : Access}
    (compiles : access.statement db =
      (Schema.compile db.dialect table isCreate describe).map (Option.map fun sql => (.text sql, [])))
    (silent : ∀ statement, access.reading statement = .ok ()) (unannounced : access.announced s = s) :
    (on (Schema.applyBlueprint db table isCreate describe) s).1.map (fun _ => ()) = access.result db s := by
  unfold result
  rw [on_applyBlueprint, compiles]
  rcases Schema.compile db.dialect table isCreate describe with fault | _ | sql
  · rfl
  · rfl
  · dsimp only [Except.map, Option.map]
    rw [← ended_map silent, unannounced]
    exact map_map _ _ _

theorem on_changed {α : Type} {checked : Except Misuse α} {form : α → String} {access : Access}
    (compiles : access.statement db = (Misuse.lift checked).map fun value => some (.text (form value), []))
    (words : ∀ value, checked = .ok value → StartsWithWord (form value))
    (silent : ∀ statement, access.reading statement = .ok ()) (unannounced : access.announced s = s) :
    (on (do Schema.change db (form (← Action.check checked))) s).1.map (fun _ => ()) = access.result db s := by
  unfold result
  rw [compiles, on_bind, on_check]
  cases checked with
  | error misuse => rfl
  | ok value =>
    change (on (Schema.change db (form value)) s).1.map _ = access.ended (on (db.run _ []) (access.announced s)).1
    rw [on_change (words value rfl), unannounced]
    exact (map_map _ _ _).trans (ended_map silent _)

theorem on_perform (access : Access) (s : Session σ) :
    (on (access.perform db) s).1 = access.result db s := by
  cases access with
  | run sql params => exact (on_map _ _ s).trans (ended_map (fun _ => rfl) _)
  | query sql params =>
    refine (on_map _ _ s).trans ?_
    unfold Database.query
    rw [on_map, map_map]
    exact ended_map (fun _ => rfl) _
  | queryOne sql params =>
    refine (on_map _ _ s).trans ?_
    unfold Database.queryOne Database.query
    rw [on_map, on_map, map_map, map_map]
    exact ended_map (fun _ => rfl) _
  | hasTable table =>
    refine (on_map _ _ s).trans ?_
    unfold Schema.hasTable Database.queryOne Database.query
    rw [on_map, on_map, on_map, map_map, map_map, map_map]
    exact ended_map (fun _ => rfl) _
  | execute sql params =>
    refine (on_map _ _ s).trans ?_
    unfold Database.execute
    simp only [on_bind, on_check]
    change _ = Access.ended _ (on (db.run sql params) s).1
    rcases on (db.run sql params) s with ⟨fault | statement, t⟩
    · rfl
    · simp only [ended, reading]
      cases Database.returnsRowsValue sql <;> rfl
  | finish q terminal =>
    refine (on_map _ _ s).trans ?_
    rw [Query.finish_eq, on_bind, on_ofExcept]
    cases compiled : q.prepare terminal with
    | error fault =>
      simp only [result, statement, compiled]
      rfl
    | ok prepared =>
      simp only [result, statement, compiled, Except.map]
      rw [on_bind, on_send db compiled]
      rcases on (db.run (.text prepared.sql) prepared.params) _ with ⟨fault | outcome, t⟩
      · rfl
      · exact on_reading q terminal outcome t
  | create table describe => exact (on_map _ _ s).trans (on_described rfl (fun _ => rfl) rfl)
  | alter table describe => exact (on_map _ _ s).trans (on_described rfl (fun _ => rfl) rfl)
  | rename source target =>
    refine (on_map _ _ s).trans (on_changed rfl (fun sql renamed => ?_) (fun _ => rfl) rfl)
    exact renameTable_startsWithWord renamed
  | drop table =>
    have drop : StartsWithWord "DROP TABLE " := ⟨'D', _, rfl, rfl, rfl⟩
    exact (on_map _ _ s).trans (on_changed rfl (fun name _ => startsWithWord_append drop name) (fun _ => rfl) rfl)
  | dropIfExists table =>
    have drop : StartsWithWord "DROP TABLE IF EXISTS " := ⟨'D', _, rfl, rfl, rfl⟩
    exact (on_map _ _ s).trans (on_changed rfl (fun name _ => startsWithWord_append drop name) (fun _ => rfl) rfl)

/-- What an access fails with on an engine that only complains: it could not be compiled, its author raised a
fault, its statement failed, or what came of the statement could not be read. -/
inductive FailsWith (db : Database σ) (s : Session σ) (access : Access) : Fault → Prop where
  | uncompiled {fault : Fault} (statement : access.statement db = .error fault) (own : fault.IsOwn) :
      FailsWith db s access fault
  | raised {fault : Fault} {describe : Schema.Describe} {started : Schema.Blueprint}
      (described : access.describe? = some describe) (raised : describe started = .error fault) :
      FailsWith db s access fault
  | sent {fault : Fault} {sql : Value} {params : List Value}
      (compiled : access.statement db = .ok (some (sql, params)))
      (fails : db.FailsWith params (access.announced s) fault) : FailsWith db s access fault
  | unread {misuse : Misuse} {statement : Statement} (reading : access.reading statement = .error misuse) :
      FailsWith db s access (.misuse misuse)

theorem statement_fails (access : Access) (failed : access.statement db = .error fault) :
    access.FailsWith db s fault := by
  have own (owned : Owned (access.statement db)) : access.FailsWith db s fault :=
    .uncompiled failed (owned fault failed)
  have described {table : Value} {isCreate : Bool} {describe : Schema.Describe}
      (given : access.describe? = some describe)
      (compiles : Schema.compile db.dialect table isCreate describe = .error fault) : access.FailsWith db s fault := by
    rcases Schema.compile_fault compiles with owned | ⟨started, raised⟩
    · exact .uncompiled failed owned
    · exact .raised given raised
  cases access with
  | finish q terminal => exact own (owned_map (q.prepare_owned terminal) _)
  | create table describe => exact described rfl (map_eq_error.mp failed)
  | alter table describe => exact described rfl (map_eq_error.mp failed)
  | rename source target => exact own (owned_map (owned_lift _) _)
  | drop table => exact own (owned_map (owned_lift _) _)
  | dropIfExists table => exact own (owned_map (owned_lift _) _)
  | run sql params => cases failed
  | query sql params => cases failed
  | queryOne sql params => cases failed
  | execute sql params => cases failed
  | hasTable table => cases failed

/-- Where an engine only complains, an access fails with a report, with something that could not be used or with
what a caller raised, unless the cursor is refused; then it fails with the words of the engine itself. -/
theorem perform_fails (complains : db.driver.OnlyComplains) (access : Access) (s : Session σ) :
    (∀ fault, (on (access.perform db) s).1 = .error fault → access.FailsWith db s fault) ∧
    ∀ sql params complaint, access.statement db = .ok (some (sql, params)) →
      db.CursorRefused params (access.announced s) complaint →
      (on (access.perform db) s).1 = .error (.engine complaint) := by
  rw [on_perform]
  constructor
  · intro fault failed
    unfold result at failed
    rcases compiled : access.statement db with refused | _ | ⟨sql, params⟩
    · rw [compiled] at failed
      cases failed
      exact statement_fails access compiled
    · rw [compiled] at failed
      cases failed
    · rw [compiled] at failed
      dsimp only at failed
      rcases ran : on (db.run sql params) (access.announced s) with ⟨refused | statement, t⟩
      · rw [ran] at failed
        cases failed
        exact .sent compiled (Database.run_fails complains ran)
      · rw [ran] at failed
        change (access.reading statement).mapError Fault.misuse = .error fault at failed
        cases reading : access.reading statement with
        | ok nothing =>
          rw [reading] at failed
          cases failed
        | error misuse =>
          rw [reading] at failed
          cases failed
          exact .unread reading
  · intro sql params complaint compiled refused
    obtain ⟨t, ran⟩ := Database.run_untranslated sql refused
    simp only [result, compiled, ran, ended]

/-- An engine that has one thing to say about every cursor and one about every statement. -/
def setEngine (cursor : Except EngineFault Unit) (answer : Except EngineFault Answer) : Driver Unit where
  connect engine := (.ok (), engine)
  setup _ engine := (.ok (), engine)
  openCursor _ engine := (cursor, engine)
  execute _ _ engine := (answer, engine)
  fetchAll engine := (.ok [], engine)
  commit engine := (.ok (), engine)
  rollback engine := engine

theorem setEngine_complains {cursor : Except EngineFault Unit} {answer : Except EngineFault Answer}
    (first : ∀ fault, cursor = .error fault → fault.kind.isDriverError = true)
    (later : ∀ fault, answer = .error fault → fault.kind.isDriverError = true) :
    (setEngine cursor answer).OnlyComplains where
  connect _ _ _ failed := by cases failed
  setup _ _ _ _ failed := by cases failed
  openCursor _ _ fault _ failed := first fault (congrArg Prod.fst failed)
  execute _ _ _ fault _ failed := later fault (congrArg Prod.fst failed)
  fetchAll _ _ _ failed := by cases failed
  commit _ _ _ failed := by cases failed

/-- A row that is already there. -/
theorem perform_fails_locked :
    let twice : EngineFault := ⟨.integrity, "UNIQUE constraint failed: t.a"⟩
    let driver := setEngine (.ok ()) (.error twice)
    let db : Database Unit := { kind := .sqlite, config := {}, now := ⟨⟨2025, 1, 1⟩, ⟨0, 0, 0, 0, none⟩⟩, driver }
    let access : Access := .finish { table := .text "t" } (.insert (.map [(.text "a", .int 1)]))
    let s : Session Unit := { engine := () }
    driver.OnlyComplains ∧ (∃ report, (on (access.perform db) s).1 = .error (.report report)) ∧
      (∀ fault, (on (access.perform db) s).1 = .error fault → access.FailsWith db s fault) ∧
      ∀ sql params complaint, access.statement db = .ok (some (sql, params)) →
        db.CursorRefused params (access.announced s) complaint →
        (on (access.perform db) s).1 = .error (.engine complaint) := by
  intro twice driver db access s
  have complains : driver.OnlyComplains := by
    refine setEngine_complains nofun ?_
    rintro fault ⟨⟩
    rfl
  exact ⟨complains, ⟨_, rfl⟩, perform_fails complains access s⟩

/-- A complaint about a cursor gets out as the engine made it. -/
theorem refused_cursor_escapes :
    let broken : EngineFault := ⟨.operational, "disk I/O error"⟩
    let driver := setEngine (.error broken) (.ok {})
    let db : Database Unit := { kind := .sqlite, config := {}, now := ⟨⟨2025, 1, 1⟩, ⟨0, 0, 0, 0, none⟩⟩, driver }
    let access : Access := .run (.text "SELECT 1") []
    driver.OnlyComplains ∧ (on (access.perform db) { engine := () }).1 = .error (.engine broken) := by
  intro broken driver db access
  refine ⟨setEngine_complains ?_ nofun, rfl⟩
  rintro fault ⟨⟩
  rfl

end Access
end DataLayer
