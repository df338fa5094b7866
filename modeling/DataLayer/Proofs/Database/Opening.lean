import DataLayer.Database.Run
import DataLayer.Proofs.Fault
import DataLayer.Proofs.Session

/-! The ways in which opening a handle can go. The settings are read, the engine is asked for a handle,
and a statement prepares it. A server has a cursor of its own for that statement, and takes a handle back
that it could not prepare; an embedded database keeps it. -/

namespace DataLayer

open DataLayer.Action

namespace Database

variable {σ α : Type} {db : Database σ}

/-- A zone that is not found is reported, and so is a name of none. -/
theorem zoneOffset_owned (zone : Value) (moment : Int) : Fault.Owned (zoneOffset zone moment) := by
  intro fault unfound
  unfold zoneOffset at unfound
  split at unfound
  · split at unfound
    · split at unfound <;> cases unfound <;> trivial
    · cases unfound
      trivial
  · split at unfound
    case h_6 clock found =>
      dsimp only at unfound
      split at unfound <;> cases unfound
      trivial
    all_goals
      cases unfound
      trivial

/-- The report on a zone is about the settings. -/
theorem zoneOffset_report {zone : Value} {moment : Int} {report : Report}
    (unfound : zoneOffset zone moment = .error (.report report)) : report.kind = .config := by
  unfold zoneOffset at unfound
  split at unfound
  · split at unfound
    · split at unfound <;> cases unfound
      rfl
    · cases unfound
  · split at unfound
    case h_6 clock found =>
      dsimp only at unfound
      split at unfound <;> cases unfound
    case h_1 =>
      cases unfound
      rfl
    case h_2 =>
      cases unfound
      rfl
    all_goals cases unfound

/-- Holds of the statements that prepare a handle: watching foreign keys, or the offset that the zone of
the session has at some time. -/
def Prepares (db : Database σ) (sql : String) : Prop :=
  match db.kind with
  | .sqlite => sql = embeddedSetup
  | .mysql => ∃ now offset, utcOffset db.config.timezone none now = .ok offset ∧ sql = serverSetup offset

/-- Preparing a fresh handle: what it ends with, the requests, and the engine afterwards. -/
inductive Readies (db : Database σ) (sql : String) (fresh : σ) :
    Except EngineFault Unit → List EngineEvent → σ → Prop where
  | embedded {result : Except EngineFault Unit} {after : σ} (kind : db.kind = .sqlite)
      (setup : db.driver.setup sql fresh = (result, after)) : Readies db sql fresh result [.setup sql] after
  | bare {fault : EngineFault} {after : σ} (kind : db.kind = .mysql)
      (cursor : db.driver.openCursor false fresh = (.error fault, after)) :
      Readies db sql fresh (.error fault) [.openCursor false] after
  | server {result : Except EngineFault Unit} {ready after : σ} (kind : db.kind = .mysql)
      (cursor : db.driver.openCursor false fresh = (.ok (), ready))
      (setup : db.driver.setup sql ready = (result, after)) :
      Readies db sql fresh result [.openCursor false, .setup sql, .closeCursor] after

/-- Holds when a handle that could not be prepared for this fault is given up. -/
def givesUp (db : Database σ) (complaint : EngineFault) : Bool :=
  db.kind = .mysql && complaint.kind.isDriverError

/-- The name of an engine in the report on a failed attempt to connect. -/
def engineName : EngineKind → String
  | .sqlite => "SQLite"
  | .mysql => "MySQL"

/-- What a complaint about opening a handle comes to. -/
def openingFault (kind : EngineKind) (complaint : EngineFault) : Fault :=
  if complaint.kind.isDriverError then .report
    { kind := .connection,
      message := .text ("Failed to connect to " ++ engineName kind ++ ": " ++ complaint.message),
      cause := some (.words complaint.message) }
  else .engine complaint

/-- What becomes of a session when a connection is opened from it. -/
inductive Connects (db : Database σ) (s : Session σ) : Except Fault Unit × Session σ → Prop where
  | held (held : s.held = true) : Connects db s (.ok (), s)
  | unasked {fault : Fault} (free : s.held = false) (own : fault.IsOwn)
      (unzoned : ∀ report, fault = .report report →
        db.kind = .mysql ∧ zoneOffset db.config.timezone db.now.seconds = .error fault) : Connects db s (.error fault, s)
  | refused {complaint : EngineFault} {keywords : List (String × Value)} {after : σ} (free : s.held = false)
      (connect : db.driver.connect s.engine = (.error complaint, after)) :
      Connects db s (.error (openingFault db.kind complaint), s.past [.connect db.kind keywords] after)
  | abandoned {complaint : EngineFault} {keywords : List (String × Value)} {sql : String}
      {events : List EngineEvent} {fresh after : σ} (free : s.held = false)
      (connect : db.driver.connect s.engine = (.ok (), fresh))
      (readies : Readies db sql fresh (.error complaint) events after) (gives : db.givesUp complaint = true) :
      Connects db s (.error (openingFault db.kind complaint),
        { s.past (.connect db.kind keywords :: events ++ [.close]) after with held := false })
  | halfway {complaint : EngineFault} {keywords : List (String × Value)} {sql : String}
      {events : List EngineEvent} {fresh after : σ} (free : s.held = false)
      (connect : db.driver.connect s.engine = (.ok (), fresh))
      (readies : Readies db sql fresh (.error complaint) events after) (keeps : db.givesUp complaint = false) :
      Connects db s (.error (openingFault db.kind complaint),
        { s.past (.connect db.kind keywords :: events) after with held := true })
  | opened {keywords : List (String × Value)} {sql : String} {events : List EngineEvent} {fresh after : σ}
      {notice : Notice} (free : s.held = false) (connect : db.driver.connect s.engine = (.ok (), fresh))
      (prepares : db.Prepares sql) (readies : Readies db sql fresh (.ok ()) events after) :
      Connects db s (.ok (), Session.noted
        { s.past (.connect db.kind keywords :: events) after with held := true, connected := true } notice)

theorem on_connectionFailed (kind : EngineKind) (complaint : EngineFault) (s : Session σ) :
    Action.on (connectionFailed (engineName kind) complaint : Action σ α) s =
      (.error (openingFault kind complaint), s) := by
  unfold connectionFailed openingFault
  split <;> rfl

theorem connectEmbedded_connects (kind : db.kind = .sqlite) {s : Session σ} (free : s.held = false) :
    Connects db s (Action.on (connectEmbedded db) s) := by
  have failed (complaint : EngineFault) (t : Session σ) :
      Action.on (connectionFailed "SQLite" complaint : Action σ Unit) t = (.error (openingFault db.kind complaint), t) := by
    rw [kind]
    exact on_connectionFailed .sqlite complaint t
  unfold connectEmbedded
  dsimp only
  rw [on_bind]
  cases isLocator db.config.embeddedPath with
  | error misuse => exact .unasked free trivial nofun
  | ok locator =>
    simp only [on_check_ok, on_bind, on_ofState, Session.send_apply]
    rw [← kind]
    rcases connect : db.driver.connect s.engine with ⟨complaint | nothing, fresh⟩
    · simp only [failed]
      exact .refused free connect
    · simp only [on_bind, on_modify, on_ofState, Session.send_apply, Session.past]
      rcases setup : db.driver.setup embeddedSetup fresh with ⟨complaint | nothing, after⟩
      · have keeps : db.givesUp complaint = false := by simp [givesUp, kind]
        simp only [failed, List.append_assoc, List.singleton_append]
        exact .halfway free connect (.embedded kind setup) keeps
      · have prepares : db.Prepares embeddedSetup := by simp [Prepares, kind]
        simp only [on_bind, on_modify, on_note, List.append_assoc, List.singleton_append]
        exact .opened free connect prepares (.embedded kind setup)

theorem prepareServer_readies (kind : db.kind = .mysql) (offset : String) (s : Session σ) :
    ∃ result events after, Readies db (serverSetup offset) s.engine result events after ∧
      prepareServer db offset s = (result, s.past events after) := by
  rcases cursor : db.driver.openCursor false s.engine with ⟨complaint | nothing, ready⟩
  · refine ⟨_, _, _, .bare kind cursor, ?_⟩
    simp only [prepareServer, Session.bind_apply, Session.send_apply, Session.pure_apply, cursor]
  · rcases setup : db.driver.setup (serverSetup offset) ready with ⟨result, after⟩
    refine ⟨_, _, _, .server kind cursor setup, ?_⟩
    simp only [prepareServer, Session.bind_apply, Session.send_apply, Session.record_apply, Session.pure_apply,
      Session.past, List.append_assoc, List.cons_append, List.nil_append, cursor, setup]

theorem release_apply (s : Session σ) :
    (release : StateM (Session σ) Unit) s = ((), { s.past [.close] s.engine with held := false }) := rfl

theorem connectServer_connects (kind : db.kind = .mysql) {s : Session σ} (free : s.held = false) :
    Connects db s (Action.on (connectServer db) s) := by
  have failed (complaint : EngineFault) (t : Session σ) :
      Action.on (connectionFailed "MySQL" complaint : Action σ Unit) t = (.error (openingFault db.kind complaint), t) := by
    rw [kind]
    exact on_connectionFailed .mysql complaint t
  unfold connectServer
  rw [on_bind, on_ofExcept]
  cases zone : utcOffset db.config.timezone none db.now with
  | error fault => exact .unasked free (zoneOffset_owned _ _ fault zone) fun _ _ => ⟨kind, zone⟩
  | ok offset =>
    dsimp only
    split
    · exact .unasked free trivial nofun
    · simp only [on_bind, on_ofState, Session.send_apply]
      rw [← kind]
      rcases connect : db.driver.connect s.engine with ⟨complaint | nothing, fresh⟩
      · simp only [failed]
        exact .refused free connect
      · obtain ⟨result, events, after, readies, prepared⟩ := prepareServer_readies kind offset
          { s.past [.connect db.kind (serverKeywords db.config ++ db.config.options)] fresh with held := true }
        simp only [on_bind, on_modify, on_ofState, prepared]
        rcases result with complaint | nothing
        · dsimp only
          split
          · next complains =>
            have gives : db.givesUp complaint = true := by simp [givesUp, kind, complains]
            simp only [on_bind, on_ofState, release_apply, failed, Session.past, List.append_assoc,
              List.cons_append, List.nil_append]
            exact .abandoned free connect readies gives
          · next quiet =>
            have keeps : db.givesUp complaint = false := by simp [givesUp, kind, quiet]
            simp only [failed, Session.past, List.append_assoc, List.cons_append, List.nil_append]
            exact .halfway free connect readies keeps
        · have prepares : db.Prepares (serverSetup offset) := by
            simp only [Prepares, kind]
            exact ⟨db.now, offset, zone, rfl⟩
          simp only [on_bind, on_modify, on_note, Session.past, List.append_assoc, List.cons_append,
            List.nil_append]
          exact .opened free connect prepares readies

/-- Opening a connection goes one of these ways. -/
theorem connect_connects (db : Database σ) (s : Session σ) : Connects db s (Action.on (connect db) s) := by
  unfold connect
  rw [on_bind, on_get]
  cases held : s.held with
  | true =>
    simp only [held, ↓reduceIte]
    exact .held held
  | false =>
    simp only [held, Bool.false_eq_true, ↓reduceIte]
    cases kind : db.kind with
    | sqlite => exact connectEmbedded_connects kind held
    | mysql => exact connectServer_connects kind held

/-- A server whose zone has no offset is not asked. -/
theorem connect_unzoned {s : Session σ} {fault : Fault} (free : s.held = false) (kind : db.kind = .mysql)
    (unzoned : zoneOffset db.config.timezone db.now.seconds = .error fault) :
    Action.on (connect db) s = (.error fault, s) := by
  have offset : utcOffset db.config.timezone none db.now = .error fault := unzoned
  unfold connect
  rw [on_bind, on_get]
  simp only [free, kind, Bool.false_eq_true, ↓reduceIte]
  unfold connectServer
  rw [on_bind, on_ofExcept, offset]

theorem openingFault_report {kind : EngineKind} {complaint : EngineFault} {report : Report}
    (own : openingFault kind complaint = .report report) : report.kind = .connection := by
  unfold openingFault at own
  split at own <;> cases own
  rfl

/-- A report on the opening of a connection is about the connection, or about the zone of a server. -/
theorem connect_report {s t : Session σ} {report : Report}
    (refused : Action.on (connect db) s = (.error (.report report), t)) :
    report.kind = .connection ∨
      db.kind = .mysql ∧ zoneOffset db.config.timezone db.now.seconds = .error (.report report) := by
  have connects := connect_connects db s
  rw [refused] at connects
  generalize ended : ((.error (.report report), t) : Except Fault Unit × Session σ) = last at connects
  have told {complaint : EngineFault} {after : Session σ}
      (ended : (.error (.report report), t) = ((.error (openingFault db.kind complaint), after) :
        Except Fault Unit × Session σ)) : report.kind = .connection :=
    openingFault_report (Except.error.inj (congrArg Prod.fst ended)).symm
  cases connects with
  | unasked free own unzoned =>
    cases ended
    exact .inr (unzoned report rfl)
  | refused => exact .inl (told ended)
  | abandoned => exact .inl (told ended)
  | halfway => exact .inl (told ended)
  | held => cases ended
  | opened => cases ended

/-- A statement opens the connection that it needs in the same way. -/
theorem on_ensureHandle (db : Database σ) (s : Session σ) : Action.on (ensureHandle db) s = Action.on (connect db) s := by
  unfold ensureHandle
  rw [on_bind, on_get]
  cases held : s.held with
  | true =>
    unfold connect
    simp only [held, Bool.not_true, Bool.false_eq_true, ↓reduceIte, on_bind, on_get]
  | false => simp only [held, Bool.not_false, ↓reduceIte]

/-- Closing a connection cannot fail. -/
theorem on_disconnect (db : Database σ) (s : Session σ) : Action.on (disconnect db) s =
    if s.held then (.ok (), { s.past [.close] s.engine with held := false, connected := false })
    else if db.kind = .mysql then (.ok (), { s with connected := false }) else (.ok (), s) := by
  unfold disconnect
  rw [on_bind, on_get]
  dsimp only
  split
  · rfl
  · split <;> rfl

end Database
end DataLayer
