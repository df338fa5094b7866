import DataLayer.Proofs.Database.Couple
import DataLayer.Proofs.Session.Couple

/-! Two sessions of which the same is seen. What is seen of a request to the engine and of a notice in the log is left
open, and so is what counts of a complaint and which passwords the two databases have. Main statement: on engines that
answer alike, every single step on one session is matched by the same step on the other. -/

namespace DataLayer

open DataLayer.Action

variable {σ τ α : Type} {related : σ → τ → Prop} {told words : EngineFault → EngineFault}
  {values : List Value → List Value → Prop}

/-- Requests to two engines are answered alike, as far as complaints are told apart, and leave them related. -/
def AgreeUpTo (told : EngineFault → EngineFault) (related : σ → τ → Prop) (request : σ → Except EngineFault α × σ)
    (other : τ → Except EngineFault α × τ) : Prop :=
  ∀ ⦃s t⦄, related s t → (request s).1.mapError told = (other t).1.mapError told ∧ related (request s).2 (other t).2

/-- Two engines that answer alike, whatever else they are. `told` is what counts of a complaint about a handle or a
cursor, `words` what counts of one about a statement, and `values` says which values may stand for each other. -/
structure Driver.Concurs (related : σ → τ → Prop) (told words : EngineFault → EngineFault)
    (values : List Value → List Value → Prop) (driver : Driver σ) (other : Driver τ) : Prop where
  connect : AgreeUpTo told related driver.connect other.connect
  setup : ∀ sql, AgreeUpTo told related (driver.setup sql) (other.setup sql)
  openCursor : ∀ prepared, AgreeUpTo told related (driver.openCursor prepared) (other.openCursor prepared)
  execute : ∀ sql ⦃params others⦄, values params others →
    AgreeUpTo words related (driver.execute sql params) (other.execute sql others)
  fetchAll : AgreeUpTo words related driver.fetchAll other.fetchAll
  commit : AgreeUpTo words related driver.commit other.commit
  rollback : ∀ ⦃s t⦄, related s t → related (driver.rollback s) (other.rollback t)

/-- An engine answers as it does itself. -/
theorem Driver.concurs_self (driver : Driver σ) : driver.Concurs Eq id id Eq driver where
  connect := by
    rintro s _ rfl
    exact ⟨rfl, rfl⟩
  setup sql := by
    rintro s _ rfl
    exact ⟨rfl, rfl⟩
  openCursor prepared := by
    rintro s _ rfl
    exact ⟨rfl, rfl⟩
  execute sql := by
    rintro params _ rfl s _ rfl
    exact ⟨rfl, rfl⟩
  fetchAll := by
    rintro s _ rfl
    exact ⟨rfl, rfl⟩
  commit := by
    rintro s _ rfl
    exact ⟨rfl, rfl⟩
  rollback _ _ same := congrArg driver.rollback same

/-- A line of the log as it is seen. -/
def Logged.seen (notice : Notice → Notice) (line : Logged) : Logged := { line with notice := notice line.notice }

namespace Session

/-- Two sessions that look the same to whom `event` shows a request to the engine and `notice` what is logged. -/
structure Resembles (related : σ → τ → Prop) (event : EngineEvent → EngineEvent) (notice : Notice → Notice)
    (s : Session σ) (t : Session τ) : Prop where
  engine : related s.engine t.engine
  held : s.held = t.held
  connected : s.connected = t.connected
  events : s.events.map event = t.events.map event
  log : s.log.map (Logged.seen notice) = t.log.map (Logged.seen notice)
  context : s.context = t.context

variable {event : EngineEvent → EngineEvent} {notice : Notice → Notice} {s : Session σ} {t : Session τ}

theorem Resembles.past (same : Resembles related event notice s t) {request request' : EngineEvent}
    (seen : event request = event request') {engine : σ} {other : τ} (after : related engine other) :
    Resembles related event notice (s.past [request] engine) (t.past [request'] other) :=
  { same with
    engine := after
    events := by simp only [Session.past, List.map_append, same.events, List.map_cons, List.map_nil, seen] }

theorem Resembles.noted (same : Resembles related event notice s t) {entry entry' : Notice}
    (seen : notice entry = notice entry') : Resembles related event notice (s.noted entry) (t.noted entry') :=
  { same with
    log := by simp only [Session.noted, List.map_append, same.log, List.map_cons, List.map_nil, Logged.seen,
      same.context, seen] }

/-- Where all of a notice is seen, the logs are the same. -/
theorem Resembles.log_eq (same : Resembles related event id s t) : s.log = t.log := by
  have whole (log : List Logged) : log.map (Logged.seen id) = log := List.map_id log
  rw [← whole s.log, same.log, whole t.log]

theorem Resembles.bound (same : Resembles related event notice s t) (change : LogContext → LogContext) :
    Resembles related event notice { s with context := change s.context } { t with context := change t.context } :=
  { same with context := congrArg change same.context }

theorem send_resembles {request request' : EngineEvent} (seen : event request = event request')
    {ask : σ → Except EngineFault α × σ} {other : τ → Except EngineFault α × τ} (agree : AgreeUpTo told related ask other) :
    Couples (Resembles related event notice) (Except.mapError told) (send request ask) (send request' other) :=
  fun _ _ same => ⟨(agree same.engine).1, same.past seen (agree same.engine).2⟩

theorem record_resembles (request : EngineEvent) :
    Couples (Resembles related event notice) id (record request) (record request) :=
  fun _ _ same => ⟨rfl, same.past rfl same.engine⟩

end Session

namespace Database

open DataLayer.Session (Resembles send_resembles record_resembles)

/-- The same database with another password. -/
def withPassword (db : Database σ) (password : Value) : Database σ :=
  { db with config := { db.config with password } }

variable {db : Database σ} {other : Driver τ} {password : Value} {event : EngineEvent → EngineEvent}
  {notice : Notice → Notice}

/-- All that a target shows of a password is whether there is one. -/
theorem target_withPassword (both : db.config.password.isTruthy = password.isTruthy) :
    db.target = (db.withPassword password).target := by
  have server : db.config.serverTarget = Config.serverTarget { db.config with password } := by
    unfold Config.serverTarget
    rw [both]
  unfold target withPassword
  dsimp only
  cases db.kind with
  | sqlite => rfl
  | mysql => exact server

/-- The same database on two engines, with two passwords or one. -/
theorem opensAlike_resembles (concurs : db.driver.Concurs related told words values other)
    (both : db.config.password.isTruthy = password.isTruthy)
    (keyed : event (.connect .mysql (serverKeywords db.config ++ db.config.options)) =
      event (.connect .mysql (serverKeywords { db.config with password } ++ db.config.options)))
    (complaint : ∀ ⦃complaint complaint'⦄, told complaint = told complaint' → complaint.kind = complaint'.kind) :
    OpensAlike db ((db.on other).withPassword password) (Resembles related event notice) told where
  held _ _ same := same.held
  connected _ _ same := same.connected
  flags _ _ _ _ same := { same with held := rfl, connected := rfl }
  noted _ _ _ same := same.noted rfl
  kind := rfl
  path := rfl
  offset := rfl
  options := rfl
  target := target_withPassword both
  embedded _ := send_resembles rfl concurs.connect
  server := send_resembles keyed concurs.connect
  setup sql := send_resembles rfl (concurs.setup sql)
  openCursor prepared := send_resembles rfl (concurs.openCursor prepared)
  closeCursor := record_resembles _
  close := record_resembles _
  complaint := complaint

theorem runsAlike_resembles (concurs : db.driver.Concurs related told words values other)
    (opens : OpensAlike db ((db.on other).withPassword password) (Resembles related event notice) told)
    (length : ∀ ⦃params others⦄, values params others → params.length = others.length)
    (masked : ∀ sql ⦃params others⦄, values params others → event (.execute sql params) = event (.execute sql others))
    (statement : ∀ ⦃complaint complaint'⦄, words complaint = words complaint' → complaint.kind = complaint'.kind)
    (failed : ∀ sql kind ⦃complaint complaint'⦄, words complaint = words complaint' →
      notice (.failed sql kind complaint.message) = notice (.failed sql kind complaint'.message)) :
    RunsAlike db ((db.on other).withPassword password) (Resembles related event notice) told words values where
  toOpensAlike := opens
  length := length
  execute sql _ _ alike := send_resembles (masked sql alike) (concurs.execute sql alike)
  fetchAll := send_resembles rfl concurs.fetchAll
  commit := send_resembles rfl concurs.commit
  rollback _ _ same := ⟨rfl, same.past rfl (concurs.rollback same.engine)⟩
  statement := statement
  failed sql kind _ _ same _ _ resembles := resembles.noted (failed sql kind same)

/-- Where every value stands for itself only, statements are seen with their values. -/
theorem runsAlike_resembles_eq (concurs : db.driver.Concurs related told words Eq other)
    (opens : OpensAlike db ((db.on other).withPassword password) (Resembles related event notice) told)
    (statement : ∀ ⦃complaint complaint'⦄, words complaint = words complaint' → complaint.kind = complaint'.kind)
    (failed : ∀ sql kind ⦃complaint complaint'⦄, words complaint = words complaint' →
      notice (.failed sql kind complaint.message) = notice (.failed sql kind complaint'.message)) :
    RunsAlike db ((db.on other).withPassword password) (Resembles related event notice) told words Eq := by
  refine runsAlike_resembles concurs opens (fun _ _ same => congrArg List.length same) (fun sql _ _ same => ?_) statement
    failed
  exact congrArg (fun params => event (.execute sql params)) same

end Database
end DataLayer

/-! One database on two engines. When the engines answer alike whatever values a statement brings
along, opening a handle and running a statement end alike, and leave the same trace but for these
values. -/

namespace DataLayer

variable {σ τ : Type} {related : σ → τ → Prop}

/-- Two engines whose answers depend on the text of a statement and on the number of its values, but
not on the values. -/
structure Driver.Agrees (related : σ → τ → Prop) (driver : Driver σ) (other : Driver τ) : Prop where
  connect : Agree related driver.connect other.connect
  setup : ∀ sql, Agree related (driver.setup sql) (other.setup sql)
  openCursor : ∀ prepared, Agree related (driver.openCursor prepared) (other.openCursor prepared)
  execute : ∀ sql {params others : List Value}, params.length = others.length →
    Agree related (driver.execute sql params) (other.execute sql others)
  fetchAll : Agree related driver.fetchAll other.fetchAll
  commit : Agree related driver.commit other.commit
  rollback : ∀ ⦃s t⦄, related s t → related (driver.rollback s) (other.rollback t)

theorem Agree.upTo {α : Type} {request : σ → Except EngineFault α × σ} {other : τ → Except EngineFault α × τ}
    (agree : Agree related request other) (told : EngineFault → EngineFault) : AgreeUpTo told related request other :=
  fun _ _ start => ⟨congrArg (Except.mapError told) (agree start).1, (agree start).2⟩

theorem Driver.Agrees.concurs {driver : Driver σ} {other : Driver τ} (agrees : driver.Agrees related other) :
    driver.Concurs related id id (fun params others => params.length = others.length) other where
  connect := agrees.connect.upTo id
  setup sql := (agrees.setup sql).upTo id
  openCursor prepared := (agrees.openCursor prepared).upTo id
  execute sql _ _ same := (agrees.execute sql same).upTo id
  fetchAll := agrees.fetchAll.upTo id
  commit := agrees.commit.upTo id
  rollback := agrees.rollback

namespace Session

/-- Without a look at the bound values all else is seen. -/
theorem alike_iff_resembles {s : Session σ} {t : Session τ} :
    Alike related s t ↔ Resembles related EngineEvent.masked id s t := by
  constructor
  · intro alike
    exact ⟨alike.engine, alike.held, alike.connected, alike.events, congrArg _ alike.log, alike.context⟩
  · intro same
    exact ⟨same.engine, same.held, same.connected, same.events, same.log_eq, same.context⟩

end Session

namespace Database

open DataLayer.Action
open DataLayer.Session (Alike Resembles alike_iff_resembles)

variable {db : Database σ} {other : Driver τ}

/-- Only the number of the values shows in what comes of a statement. -/
theorem run_mirrors (agrees : db.driver.Agrees related other) (sql : Value) {params others : List Value}
    (same : params.length = others.length) :
    Couples (Alike related) id (run db sql params) (run (db.on other) sql others) := by
  have alike : Alike related = Resembles related EngineEvent.masked id :=
    funext fun _ => funext fun _ => propext alike_iff_resembles
  have opens : OpensAlike db (db.on other) (Alike related) id := by
    rw [alike]
    exact opensAlike_resembles agrees.concurs rfl rfl fun _ _ same => congrArg EngineFault.kind same
  have runs : RunsAlike db (db.on other) (Alike related) id id fun params others => params.length = others.length := by
    rw [alike] at opens ⊢
    refine runsAlike_resembles agrees.concurs opens (fun _ _ same => same) (fun sql params others same => ?_)
      (fun _ _ same => congrArg EngineFault.kind same) fun sql kind _ _ same => ?_
    · exact congrArg (EngineEvent.execute sql) (masks_inj.mpr same)
    · exact congrArg (fun complaint => Notice.failed sql kind complaint.message) same
  exact run_couples runs (shows_whole rfl) sql same

end Database
end DataLayer
