import DataLayer.Proofs.Database.Opening
import DataLayer.Proofs.Database.Protocol
import DataLayer.Proofs.Session.Couple

/-! One database on two engines, and two databases side by side. Where every single request is coupled, so are opening
a handle and running a statement; and where these are coupled, so is everything that is put together from them. -/

namespace DataLayer

open DataLayer.Action

variable {σ τ α κ : Type} {sessions : Session σ → Session τ → Prop}

namespace Database

/-- The same database on another engine. -/
def on (db : Database σ) (other : Driver τ) : Database τ where
  kind := db.kind
  config := db.config
  exposeErrors := db.exposeErrors
  timeout := db.timeout
  now := db.now
  driver := other

/-- The keywords that an embedded database is opened with. -/
def embeddedKeywords (db : Database σ) (locator : Bool) : List (String × Value) :=
  [("path", db.config.embeddedPath), ("timeout", db.timeout), ("check_same_thread", .bool false),
    ("uri", .bool locator)]

/-- A relation between sessions on two databases with the same target that every single step of opening and closing
a handle keeps. `told` is what counts of a complaint. -/
structure OpensAlike (db : Database σ) (other : Database τ) (sessions : Session σ → Session τ → Prop)
    (told : EngineFault → EngineFault) : Prop where
  held : ∀ ⦃s t⦄, sessions s t → s.held = t.held
  connected : ∀ ⦃s t⦄, sessions s t → s.connected = t.connected
  flags : ∀ held connected ⦃s t⦄, sessions s t → sessions { s with held, connected } { t with held, connected }
  noted : ∀ notice ⦃s t⦄, sessions s t → sessions (s.noted notice) (t.noted notice)
  kind : db.kind = other.kind
  path : db.config.embeddedPath = other.config.embeddedPath
  offset : utcOffset db.config.timezone none db.now = utcOffset other.config.timezone none other.now
  options : db.config.options = other.config.options
  target : db.target = other.target
  embedded : ∀ locator, Session.Couples sessions (Except.mapError told)
    (Session.send (.connect .sqlite (embeddedKeywords db locator)) db.driver.connect)
    (Session.send (.connect .sqlite (embeddedKeywords other locator)) other.driver.connect)
  server : Session.Couples sessions (Except.mapError told)
    (Session.send (.connect .mysql (serverKeywords db.config ++ db.config.options)) db.driver.connect)
    (Session.send (.connect .mysql (serverKeywords other.config ++ other.config.options)) other.driver.connect)
  setup : ∀ sql, Session.Couples sessions (Except.mapError told) (Session.send (.setup sql) (db.driver.setup sql))
    (Session.send (.setup sql) (other.driver.setup sql))
  openCursor : ∀ prepared, Session.Couples sessions (Except.mapError told)
    (Session.send (.openCursor prepared) (db.driver.openCursor prepared))
    (Session.send (.openCursor prepared) (other.driver.openCursor prepared))
  closeCursor : Session.Couples sessions id (Session.record .closeCursor) (Session.record .closeCursor)
  close : Session.Couples sessions id (Session.record .close) (Session.record .close)
  complaint : ∀ ⦃complaint complaint'⦄, told complaint = told complaint' → complaint.kind = complaint'.kind

/-- A server is asked for the same keywords whatever their values are. -/
theorem contains_serverKeywords (config config' : Config) (name : String) :
    Entries.contains name (serverKeywords config) = Entries.contains name (serverKeywords config') := rfl

section

variable {db : Database σ} {other : Database τ} {view : Fault → κ} {told : EngineFault → EngineFault}

theorem connectionFailed_couples (kind : EngineKind) {complaint complaint' : EngineFault}
    (same : view (openingFault kind complaint) = view (openingFault kind complaint')) :
    Couples sessions view (connectionFailed (engineName kind) complaint : Action σ α)
      (connectionFailed (engineName kind) complaint') := by
  intro s t related
  have left : (connectionFailed (engineName kind) complaint : Action σ α).run s = _ := on_connectionFailed _ _ s
  have right : (connectionFailed (engineName kind) complaint' : Action τ α).run t = _ := on_connectionFailed _ _ t
  change ((connectionFailed (engineName kind) complaint : Action σ α).run s).1.mapError view =
    ((connectionFailed (engineName kind) complaint' : Action τ α).run t).1.mapError view ∧
    sessions ((connectionFailed (engineName kind) complaint : Action σ α).run s).2
      ((connectionFailed (engineName kind) complaint' : Action τ α).run t).2
  rw [left, right]
  exact ⟨congrArg Except.error same, related⟩

theorem OpensAlike.holds (opens : OpensAlike db other sessions told) (held : Bool) :
    Couples sessions view (modify fun s => { s with held } : Action σ Unit) (modify fun t => { t with held }) := by
  refine couples_modify fun s t related => ?_
  simpa only [opens.connected related] using opens.flags held s.connected related

theorem OpensAlike.counts (opens : OpensAlike db other sessions told) (connected : Bool) :
    Couples sessions view (modify fun s => { s with connected } : Action σ Unit) (modify fun t => { t with connected }) := by
  refine couples_modify fun s t related => ?_
  simpa only [opens.held related] using opens.flags s.held connected related

theorem connectEmbedded_couples (opens : OpensAlike db other sessions told)
    (failed : ∀ ⦃complaint complaint'⦄, told complaint = told complaint' →
      view (openingFault .sqlite complaint) = view (openingFault .sqlite complaint')) :
    Couples sessions view (connectEmbedded db) (connectEmbedded other) := by
  unfold connectEmbedded
  dsimp only
  rw [opens.path, opens.target]
  refine couples_bind (couples_check _) fun locator => ?_
  have asked := opens.embedded locator
  unfold embeddedKeywords at asked
  rw [opens.path] at asked
  refine couples_through asked ?_
  rintro (complaint | nothing) (complaint' | nothing') same
  · exact connectionFailed_couples .sqlite (failed (Except.error.inj same))
  · cases same
  · cases same
  · refine couples_bind (opens.holds _) fun nothing => ?_
    refine couples_through (opens.setup _) ?_
    rintro (complaint | nothing) (complaint' | nothing') same
    · exact connectionFailed_couples .sqlite (failed (Except.error.inj same))
    · cases same
    · cases same
    · refine couples_bind (opens.counts _) fun nothing => ?_
      exact couples_note (opens.noted _)

theorem prepareServer_couples (opens : OpensAlike db other sessions told) (offset : String) :
    Session.Couples sessions (Except.mapError told) (prepareServer db offset) (prepareServer other offset) := by
  unfold prepareServer
  refine Session.couples_bind (opens.openCursor _) ?_
  rintro (complaint | nothing) (complaint' | nothing') same
  · exact Session.couples_pure same
  · cases same
  · cases same
  · refine Session.couples_bind (opens.setup _) fun prepared prepared' same => ?_
    exact Session.couples_bind opens.closeCursor fun _ _ _ => Session.couples_pure same

theorem release_couples (opens : OpensAlike db other sessions told) :
    Session.Couples sessions id (release : StateM (Session σ) Unit) release := by
  refine Session.couples_bind opens.close fun _ _ _ => ?_
  refine Session.couples_modify fun s t related => ?_
  simpa only [opens.connected related] using opens.flags false s.connected related

theorem connectServer_couples (opens : OpensAlike db other sessions told)
    (failed : ∀ ⦃complaint complaint'⦄, told complaint = told complaint' →
      view (openingFault .mysql complaint) = view (openingFault .mysql complaint')) :
    Couples sessions view (connectServer db) (connectServer other) := by
  unfold connectServer
  rw [opens.offset, opens.options, opens.target]
  refine couples_bind (couples_ofExcept _) fun offset => ?_
  dsimp only
  simp only [contains_serverKeywords db.config other.config]
  split
  · exact couples_fail rfl
  · have asked := opens.server
    rw [opens.options] at asked
    refine couples_through asked ?_
    rintro (complaint | nothing) (complaint' | nothing') same
    · exact connectionFailed_couples .mysql (failed (Except.error.inj same))
    · cases same
    · cases same
    · refine couples_bind (opens.holds _) fun nothing => ?_
      refine couples_through (prepareServer_couples opens offset) ?_
      rintro (complaint | nothing) (complaint' | nothing') same
      · have complaints : told complaint = told complaint' := Except.error.inj same
        have reported : Couples sessions view (connectionFailed (engineName .mysql) complaint : Action σ Unit)
            (connectionFailed (engineName .mysql) complaint') := connectionFailed_couples .mysql (failed complaints)
        dsimp only
        rw [opens.complaint complaints]
        split
        · exact couples_bind (couples_ofState (release_couples opens)) fun _ => reported
        · exact reported
      · cases same
      · cases same
      · refine couples_bind (opens.counts _) fun nothing => ?_
        exact couples_note (opens.noted _)

/-- Where the single steps of opening a handle are coupled, so is opening it: what is made of a complaint has to look
the same as soon as the complaint does. -/
theorem connect_couples (opens : OpensAlike db other sessions told)
    (failed : ∀ ⦃complaint complaint'⦄, told complaint = told complaint' →
      view (openingFault db.kind complaint) = view (openingFault db.kind complaint')) :
    Couples sessions view (connect db) (connect other) := by
  unfold connect
  refine couples_get fun s t related => ?_
  rw [opens.held related, ← opens.kind]
  split
  · exact couples_pure _
  · cases kind : db.kind with
    | sqlite =>
      rw [kind] at failed
      exact connectEmbedded_couples opens failed
    | mysql =>
      rw [kind] at failed
      exact connectServer_couples opens failed

theorem disconnect_couples (opens : OpensAlike db other sessions told) :
    Couples sessions view (disconnect db) (disconnect other) := by
  unfold disconnect
  refine couples_get fun s t related => ?_
  rw [opens.held related, ← opens.kind]
  split
  · exact couples_bind (couples_ofState (release_couples opens)) fun _ => opens.counts _
  · exact couples_ite (fun _ => opens.counts _) fun _ => couples_pure _

end

/-- A relation between sessions that the single steps of running a statement keep as well. `words` is what counts
of a complaint about a statement, and `values` says which values may stand for each other. -/
structure RunsAlike (db : Database σ) (other : Database τ) (sessions : Session σ → Session τ → Prop)
    (told words : EngineFault → EngineFault) (values : List Value → List Value → Prop) : Prop
    extends OpensAlike db other sessions told where
  length : ∀ ⦃params others⦄, values params others → params.length = others.length
  execute : ∀ sql ⦃params others⦄, values params others → Session.Couples sessions (Except.mapError words)
    (Session.send (.execute sql params) (db.driver.execute sql params))
    (Session.send (.execute sql others) (other.driver.execute sql others))
  fetchAll : Session.Couples sessions (Except.mapError words) (Session.send .fetchAll db.driver.fetchAll)
    (Session.send .fetchAll other.driver.fetchAll)
  commit : Session.Couples sessions (Except.mapError words) (Session.send .commit db.driver.commit)
    (Session.send .commit other.driver.commit)
  rollback : Session.Couples sessions id
    (Session.send .rollback fun engine => ((), db.driver.rollback engine))
    (Session.send .rollback fun engine => ((), other.driver.rollback engine))
  statement : ∀ ⦃complaint complaint'⦄, words complaint = words complaint' → complaint.kind = complaint'.kind
  failed : ∀ sql kind ⦃complaint complaint'⦄, words complaint = words complaint' → ∀ ⦃s t⦄, sessions s t →
    sessions (s.noted (.failed sql kind complaint.message)) (t.noted (.failed sql kind complaint'.message))

/-- A relation between sessions on two databases, of one kind or of two, that the single steps of running a statement
on an open handle keep. -/
structure SpeaksAlike (db : Database σ) (other : Database τ) (sessions : Session σ → Session τ → Prop)
    (told words : EngineFault → EngineFault) (values : List Value → List Value → Prop) : Prop where
  noted : ∀ notice ⦃s t⦄, sessions s t → sessions (s.noted notice) (t.noted notice)
  length : ∀ ⦃params others⦄, values params others → params.length = others.length
  openCursor : ∀ ⦃params others⦄, values params others → Session.Couples sessions (Except.mapError told)
    (Session.send (.openCursor (db.isPrepared params)) (db.driver.openCursor (db.isPrepared params)))
    (Session.send (.openCursor (other.isPrepared others)) (other.driver.openCursor (other.isPrepared others)))
  execute : ∀ sql ⦃params others⦄, values params others → Session.Couples sessions (Except.mapError words)
    (Session.send (.execute sql params) (db.driver.execute sql params))
    (Session.send (.execute sql others) (other.driver.execute sql others))
  fetchAll : Session.Couples sessions (Except.mapError words) (Session.send .fetchAll db.driver.fetchAll)
    (Session.send .fetchAll other.driver.fetchAll)
  commit : Session.Couples sessions (Except.mapError words) (Session.send .commit db.driver.commit)
    (Session.send .commit other.driver.commit)
  rollback : Session.Couples sessions id
    (Session.send .rollback fun engine => ((), db.driver.rollback engine))
    (Session.send .rollback fun engine => ((), other.driver.rollback engine))
  closeCursor : Session.Couples sessions id (Session.record .closeCursor) (Session.record .closeCursor)
  statement : ∀ ⦃complaint complaint'⦄, words complaint = words complaint' → complaint.kind = complaint'.kind
  failed : ∀ sql kind ⦃complaint complaint'⦄, words complaint = words complaint' → ∀ ⦃s t⦄, sessions s t →
    sessions (s.noted (.failed sql kind complaint.message)) (t.noted (.failed sql kind complaint'.message))

/-- A view of faults in which nothing of a complaint is seen but what counts of it: `told` where a handle or a cursor
is opened, and `words` where a statement runs. -/
structure Shows (db : Database σ) (other : Database τ) (told words : EngineFault → EngineFault)
    (view : Fault → κ) : Prop where
  opened : ∀ ⦃complaint complaint'⦄, told complaint = told complaint' →
    view (openingFault db.kind complaint) = view (openingFault db.kind complaint')
  refused : ∀ ⦃complaint complaint'⦄, told complaint = told complaint' →
    view (.engine complaint) = view (.engine complaint')
  reported : ∀ sql ⦃complaint complaint'⦄, words complaint = words complaint' → complaint.kind.isDriverError = true →
    view (.report (statementReport db sql complaint)) = view (.report (statementReport other sql complaint'))
  passed : ∀ ⦃complaint complaint'⦄, words complaint = words complaint' → complaint.kind.isDriverError = false →
    view (.engine complaint) = view (.engine complaint')

section

variable {db : Database σ} {other : Database τ} {view : Fault → κ} {told words : EngineFault → EngineFault}
  {values : List Value → List Value → Prop}

/-- Where all of a complaint counts, any view will do. -/
theorem shows_whole (exposes : db.exposeErrors.isTruthy = other.exposeErrors.isTruthy) :
    Shows db other id id view where
  opened _ _ same := congrArg (fun complaint => view (openingFault db.kind complaint)) same
  refused _ _ same := congrArg (fun complaint => view (.engine complaint)) same
  reported sql complaint complaint' same _ := by
    obtain rfl : complaint = complaint' := same
    simp only [statementReport, exposes]
  passed _ _ same _ := congrArg (fun complaint => view (.engine complaint)) same

theorem ensureHandle_couples_of (held : ∀ ⦃s t⦄, sessions s t → s.held = t.held)
    (connects : Couples sessions view (connect db) (connect other)) :
    Couples sessions view (ensureHandle db) (ensureHandle other) := by
  unfold ensureHandle
  refine couples_get fun s t related => ?_
  rw [held related]
  exact couples_ite (fun _ => connects) fun _ => couples_pure _

theorem perform_couples (speaks : SpeaksAlike db other sessions told words values) (sql : Value)
    {params others : List Value} (alike : values params others) :
    Couples sessions words (perform db sql params) (perform other sql others) := by
  unfold perform
  refine couples_bind (couples_mk (speaks.execute sql alike)) fun answer => ?_
  dsimp only
  split
  · exact couples_bind (couples_pure _) fun rows => couples_bind (couples_mk speaks.commit) fun _ => couples_pure _
  · refine couples_bind (couples_mk speaks.fetchAll) fun rows => ?_
    exact couples_bind (couples_mk speaks.commit) fun _ => couples_pure _

/-- Where the single steps of a statement are coupled, so is the statement. -/
theorem run_couples_of (speaks : SpeaksAlike db other sessions told words values)
    (opens : Couples sessions view (ensureHandle db) (ensureHandle other)) (shows : Shows db other told words view)
    (sql : Value) {params others : List Value} (alike : values params others) :
    Couples sessions view (run db sql params) (run other sql others) := by
  have length := speaks.length alike
  unfold run
  refine couples_bind opens fun nothing => ?_
  refine couples_through (speaks.openCursor alike) ?_
  rintro (complaint | nothing) (complaint' | nothing') same
  · exact couples_fail (shows.refused (Except.error.inj same))
  · cases same
  · cases same
  · refine couples_attempt (perform_couples speaks sql alike) (fun statement => ?_) fun complaint complaint' same => ?_
    · refine couples_bind (couples_ofState speaks.closeCursor) fun nothing => ?_
      rw [length]
      exact couples_bind (couples_note (speaks.noted _)) fun _ => couples_pure _
    · have kind := speaks.statement same
      dsimp only
      rw [← kind]
      split
      next complains =>
        have kinds : (statementReport db sql complaint).kind = (statementReport other sql complaint').kind := by
          unfold statementReport
          rw [kind]
        refine couples_bind (couples_ofState speaks.rollback) fun nothing => ?_
        refine couples_bind (couples_note ?_) fun nothing => ?_
        · intro s t related
          rw [kinds]
          exact speaks.failed sql _ same related
        · exact couples_bind (couples_ofState speaks.closeCursor) fun _ => couples_fail (shows.reported sql same complains)
      next quiet =>
        refine couples_bind (couples_ofState speaks.closeCursor) fun _ => couples_fail ?_
        exact shows.passed same (Bool.not_eq_true _ ▸ quiet)

/-- Two databases of one kind open the same kind of cursor for as many values. -/
theorem RunsAlike.speaks (runs : RunsAlike db other sessions told words values) :
    SpeaksAlike db other sessions told words values where
  noted := runs.noted
  length := runs.length
  openCursor params others alike := by
    have empty : params.isEmpty = others.isEmpty := by
      rw [Bool.eq_iff_iff, List.isEmpty_iff_length_eq_zero, List.isEmpty_iff_length_eq_zero, runs.length alike]
    have prepared : other.isPrepared others = db.isPrepared params := by
      unfold isPrepared
      rw [empty, runs.kind]
    rw [prepared]
    exact runs.openCursor _
  execute := runs.execute
  fetchAll := runs.fetchAll
  commit := runs.commit
  rollback := runs.rollback
  closeCursor := runs.closeCursor
  statement := runs.statement
  failed := runs.failed

theorem run_couples (runs : RunsAlike db other sessions told words values) (shows : Shows db other told words view)
    (sql : Value) {params others : List Value} (alike : values params others) :
    Couples sessions view (run db sql params) (run other sql others) :=
  run_couples_of runs.speaks (ensureHandle_couples_of runs.held (connect_couples runs.toOpensAlike shows.opened)) shows
    sql alike

end

end Database
end DataLayer
