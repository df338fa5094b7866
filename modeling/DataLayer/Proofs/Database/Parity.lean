import DataLayer.Proofs.Database.Couple
import DataLayer.Proofs.Session.Couple
import DataLayer.Engine.Scripted

/-! An embedded database and a server on engines that answer alike. Main statement: on open handles a statement ends
alike on both, with the same trace in the log, and the engines see the same of it but for the kind of the cursor. -/

namespace DataLayer

variable {σ τ : Type} {related : σ → τ → Prop}

/-- What an engine is asked for, whatever kind of cursor it is to open. -/
def EngineEvent.plain : EngineEvent → EngineEvent
  | .openCursor _ => .openCursor false
  | event => event

/-- Two engines with the same answers and complaints, one of which is asked for plain cursors only. -/
structure Driver.Parallels (related : σ → τ → Prop) (driver : Driver σ) (other : Driver τ) : Prop where
  openCursor : ∀ prepared, Agree related (driver.openCursor false) (other.openCursor prepared)
  execute : ∀ sql params, Agree related (driver.execute sql params) (other.execute sql params)
  fetchAll : Agree related driver.fetchAll other.fetchAll
  commit : Agree related driver.commit other.commit
  rollback : ∀ ⦃s t⦄, related s t → related (driver.rollback s) (other.rollback t)

namespace Session

/-- Two sessions with open handles on engines that answer alike. -/
structure Twins (related : σ → τ → Prop) (s : Session σ) (t : Session τ) : Prop where
  engine : related s.engine t.engine
  held : s.held = true
  otherHeld : t.held = true
  context : s.context = t.context

/-- Two sessions that have gone the same way since the start. -/
structure Parallel (related : σ → τ → Prop) (start : Session σ) (otherStart : Session τ) (s : Session σ)
    (t : Session τ) : Prop extends Twins related s t where
  events : ∃ seen others, s.events = start.events ++ seen ∧ t.events = otherStart.events ++ others ∧
    seen.map EngineEvent.plain = others.map EngineEvent.plain
  log : ∃ logged, s.log = start.log ++ logged ∧ t.log = otherStart.log ++ logged

variable {start s : Session σ} {otherStart t : Session τ}

theorem Twins.parallel (twins : Twins related s t) : Parallel related s t s t :=
  { twins with
    events := ⟨[], [], (List.append_nil _).symm, (List.append_nil _).symm, rfl⟩
    log := ⟨[], (List.append_nil _).symm, (List.append_nil _).symm⟩ }

theorem Parallel.past (parallel : Parallel related start otherStart s t) {event other : EngineEvent}
    (same : event.plain = other.plain) {engine : σ} {otherEngine : τ} (after : related engine otherEngine) :
    Parallel related start otherStart (s.past [event] engine) (t.past [other] otherEngine) := by
  obtain ⟨seen, others, left, right, plain⟩ := parallel.events
  refine { parallel with engine := after, events := ⟨seen ++ [event], others ++ [other], ?_, ?_, ?_⟩ }
  · simp only [Session.past, left, List.append_assoc]
  · simp only [Session.past, right, List.append_assoc]
  · simp only [List.map_append, List.map_cons, List.map_nil, plain, same]

theorem Parallel.noted (parallel : Parallel related start otherStart s t) (notice : Notice) :
    Parallel related start otherStart (s.noted notice) (t.noted notice) := by
  obtain ⟨logged, left, right⟩ := parallel.log
  refine { parallel with log := ⟨logged ++ [⟨notice, s.context⟩], ?_, ?_⟩ }
  · simp only [Session.noted, left, List.append_assoc]
  · simp only [Session.noted, right, List.append_assoc, parallel.context]

end Session

namespace Database

open DataLayer.Action
open DataLayer.Session (Parallel Twins)

/-- An embedded database and a server that show the same of the complaints of their engines, on engines that answer
alike. -/
structure Peers (related : σ → τ → Prop) (db : Database σ) (other : Database τ) : Prop where
  embedded : db.kind = .sqlite
  server : other.kind = .mysql
  exposes : db.exposeErrors.isTruthy = other.exposeErrors.isTruthy
  driver : db.driver.Parallels related other.driver

variable {db : Database σ} {other : Database τ} {start s : Session σ} {otherStart t : Session τ}

theorem isPrepared_embedded (embedded : db.kind = .sqlite) (params : List Value) : db.isPrepared params = false := by
  simp [isPrepared, embedded]

theorem isPrepared_server (server : db.kind = .mysql) (params : List Value) :
    db.isPrepared params = !params.isEmpty := by
  simp [isPrepared, server]

theorem Peers.speaksAlike (peers : Peers related db other) :
    SpeaksAlike db other (Parallel related start otherStart) id id Eq where
  noted notice _ _ parallel := parallel.noted notice
  length _ _ same := congrArg List.length same
  openCursor params others same s t parallel := by
    subst same
    rw [isPrepared_embedded peers.embedded]
    obtain ⟨answer, after⟩ := peers.driver.openCursor (other.isPrepared params) parallel.engine
    have plain : (EngineEvent.openCursor false).plain = (EngineEvent.openCursor (other.isPrepared params)).plain := rfl
    exact ⟨congrArg (Except.mapError id) answer, parallel.past plain after⟩
  execute sql params others same s t parallel := by
    subst same
    obtain ⟨answer, after⟩ := peers.driver.execute sql params parallel.engine
    exact ⟨congrArg (Except.mapError id) answer, parallel.past rfl after⟩
  fetchAll _ _ parallel :=
    ⟨congrArg (Except.mapError id) (peers.driver.fetchAll parallel.engine).1,
      parallel.past rfl (peers.driver.fetchAll parallel.engine).2⟩
  commit _ _ parallel :=
    ⟨congrArg (Except.mapError id) (peers.driver.commit parallel.engine).1,
      parallel.past rfl (peers.driver.commit parallel.engine).2⟩
  rollback _ _ parallel := ⟨rfl, parallel.past rfl (peers.driver.rollback parallel.engine)⟩
  closeCursor _ _ parallel := ⟨rfl, parallel.past rfl parallel.engine⟩
  statement _ _ same := congrArg EngineFault.kind same
  failed _ _ complaint complaint' same s t parallel := by
    obtain rfl : complaint = complaint' := same
    exact parallel.noted _

/-- A statement ends alike on both databases, and both sessions go the same way. -/
theorem Peers.run_couples (peers : Peers related db other) (sql : Value) (params : List Value) :
    Couples (Parallel related start otherStart) id (run db sql params) (run other sql params) := by
  have opens : Couples (Parallel related start otherStart) id (ensureHandle db) (ensureHandle other) := by
    intro s t parallel
    have left : (ensureHandle db).run s = _ := ensureHandle_held db parallel.held
    have right : (ensureHandle other).run t = _ := ensureHandle_held other parallel.otherHeld
    change Except.mapError id ((ensureHandle db).run s).1 = Except.mapError id ((ensureHandle other).run t).1 ∧
      Parallel related start otherStart ((ensureHandle db).run s).2 ((ensureHandle other).run t).2
    rw [left, right]
    exact ⟨rfl, parallel⟩
  exact run_couples_of peers.speaksAlike opens (shows_whole peers.exposes) sql rfl

end Database

end DataLayer

/-! Scripted engines whose complaints have words. Main statement: such an engine answers a server as it answers an
embedded database, and its complaints keep their words. -/

namespace DataLayer

namespace Scripted

/-- Holds of responses whose complaint has words, as every complaint of a server does. -/
def Response.Worded (response : Response) : Prop :=
  ∀ point complaint, response.complaint = some (point, complaint) → complaint.worded = complaint

/-- Holds of engines all of whose complaints have words. -/
structure Engine.Worded (engine : Engine) : Prop where
  rules : ∀ rule ∈ engine.rules, rule.response.Worded
  script : ∀ response ∈ engine.script, response.Worded
  fallback : engine.fallback.Worded
  pending : ∀ complaint, engine.pending = .error complaint → complaint.worded = complaint
  atCommit : ∀ complaint, engine.atCommit = some complaint → complaint.worded = complaint

theorem Response.Worded.complaintAt {response : Response} (worded : response.Worded) {point : Point}
    {complaint : EngineFault} (found : response.complaintAt? point = some complaint) :
    complaint.worded = complaint := by
  unfold Response.complaintAt? at found
  split at found
  · next place fault known =>
    split at found
    · cases found
      exact worded _ _ known
    · cases found
  · cases found

theorem useRule_worded {sql : List Char} {rules after : List Rule} {response : Response}
    (worded : ∀ rule ∈ rules, rule.response.Worded) (used : useRule sql rules = some (response, after)) :
    response.Worded ∧ ∀ rule ∈ after, rule.response.Worded := by
  induction rules generalizing after with
  | nil => cases used
  | cons rule rest ih =>
    have others : ∀ rule ∈ rest, rule.response.Worded := fun rule among => worded rule (.tail _ among)
    unfold useRule at used
    split at used
    · cases used
      refine ⟨worded rule List.mem_cons_self, fun spent among => ?_⟩
      rcases List.mem_cons.mp among with rfl | among
      · exact worded rule List.mem_cons_self
      · exact others spent among
    · obtain ⟨⟨found, left⟩, among, same⟩ := Option.map_eq_some_iff.mp used
      cases same
      obtain ⟨first, later⟩ := ih others among
      refine ⟨first, fun spent kept => ?_⟩
      rcases List.mem_cons.mp kept with rfl | kept
      · exact worded _ List.mem_cons_self
      · exact later spent kept

theorem useScript_worded {engine : Engine} (worded : engine.Worded) :
    (useScript engine).1.Worded ∧ (useScript engine).2.Worded := by
  have script := worded.script
  unfold useScript
  split
  · next response rest known =>
    rw [known] at script
    obtain ⟨first, others⟩ := List.forall_mem_cons.mp script
    exact ⟨first, { worded with script := others }⟩
  · exact ⟨worded.fallback, worded⟩

theorem useLedger_worded {sql : String} {params : List Value} {ledger after : Ledger} {response : Response}
    (used : useLedger sql params ledger = some (response, after)) : response.Worded := by
  have silent : response.complaint = none := by
    unfold useLedger at used
    split at used
    · cases used
      rfl
    · split at used
      · cases used
        rfl
      · split at used
        · cases used
          rfl
        · cases used
  intro point complaint raised
  rw [silent] at raised
  cases raised

theorem respond_worded (sql : Value) (params : List Value) {engine : Engine} (worded : engine.Worded) :
    (respond sql params engine).1.Worded ∧ (respond sql params engine).2.Worded := by
  unfold respond
  split
  · exact useScript_worded worded
  · split
    · next used =>
      obtain ⟨response, rules⟩ := useRule_worded worded.rules used
      exact ⟨response, { worded with rules }⟩
    · split
      · next used =>
        obtain ⟨ledger, -, used⟩ := Option.bind_eq_some_iff.mp used
        exact ⟨useLedger_worded used, { worded with }⟩
      · exact useScript_worded worded

theorem openCursor_worded {engine : Engine} (worded : engine.Worded) :
    (∀ complaint, (openCursor engine).1 = .error complaint → complaint.worded = complaint) ∧
      (openCursor engine).2.Worded := by
  have script := worded.script
  unfold openCursor
  split
  · exact ⟨nofun, worded⟩
  · next response rest known =>
    rw [known] at script
    split
    · next found =>
      refine ⟨fun complaint same => ?_, { worded with script := fun later among => script later (.tail _ among) }⟩
      cases same
      exact (script response List.mem_cons_self).complaintAt found
    · exact ⟨nofun, worded⟩

theorem execute_worded (sql : Value) (params : List Value) {engine : Engine} (worded : engine.Worded) :
    (∀ complaint, (execute sql params engine).1 = .error complaint → complaint.worded = complaint) ∧
      (execute sql params engine).2.Worded := by
  obtain ⟨response, after⟩ := respond_worded sql params worded
  unfold execute
  generalize respond sql params engine = responded at response after ⊢
  dsimp only
  split
  · next found =>
    refine ⟨fun complaint same => ?_, after⟩
    cases same
    exact response.complaintAt found
  · refine ⟨nofun, { after with pending := fun complaint waits => ?_, atCommit := fun complaint waits => ?_ }⟩
    · dsimp only at waits
      split at waits
      · next found =>
        cases waits
        exact response.complaintAt found
      · cases waits
    · rcases Option.or_eq_some_iff.mp waits with found | ⟨-, earlier⟩
      · exact response.complaintAt found
      · exact after.atCommit complaint earlier

theorem commit_worded {engine : Engine} (worded : engine.Worded) :
    (∀ complaint, (commit engine).1 = .error complaint → complaint.worded = complaint) ∧
      (commit engine).2.Worded := by
  have atCommit := worded.atCommit
  have settled : { engine with atCommit := none }.Worded := { worded with atCommit := nofun }
  unfold commit
  cases known : engine.atCommit with
  | none => exact ⟨nofun, settled⟩
  | some complaint =>
    refine ⟨fun raised same => ?_, settled⟩
    cases same
    exact atCommit complaint known

theorem mapError_worded {α : Type} {result : Except EngineFault α}
    (worded : ∀ complaint, result = .error complaint → complaint.worded = complaint) :
    result.mapError EngineFault.worded = result := by
  cases result with
  | ok value => rfl
  | error complaint => exact congrArg Except.error (worded complaint rfl)

/-- The same script is answered alike by an embedded database and by a server. -/
theorem driver_parallels :
    driver.Parallels (fun engine other => engine = other ∧ engine.Worded) driver.worded where
  openCursor _ := by
    rintro engine _ ⟨rfl, worded⟩
    exact ⟨(mapError_worded (openCursor_worded worded).1).symm, rfl, (openCursor_worded worded).2⟩
  execute sql params := by
    rintro engine _ ⟨rfl, worded⟩
    exact ⟨(mapError_worded (execute_worded sql params worded).1).symm, rfl, (execute_worded sql params worded).2⟩
  fetchAll := by
    rintro engine _ ⟨rfl, worded⟩
    exact ⟨(mapError_worded worded.pending).symm, rfl, worded⟩
  commit := by
    rintro engine _ ⟨rfl, worded⟩
    exact ⟨(mapError_worded (commit_worded worded).1).symm, rfl, (commit_worded worded).2⟩
  rollback _ _ alike := alike

end Scripted
end DataLayer
