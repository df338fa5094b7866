import DataLayer.Proofs.Database.Watch
import DataLayer.Proofs.Script.Passage

/-! What the flags of a session tell of its handles, kept along every script. A session counts as connected
when its handle is open and prepared; it is orderly when that is the same as holding a handle, which only a
handle left half prepared can spoil. -/

namespace DataLayer

variable {σ : Type}

open Watch (Always AtStatements IsOpen IsReady)

namespace Database

variable {db : Database σ} {driver : Driver σ} {prepares : String → Prop} {start : σ} {s t : Session σ}

/-- A session whose flags tell of its handles what its requests tell: by being held whether one is open,
and by being connected whether that one was prepared. -/
structure Tracked (driver : Driver σ) (prepares : String → Prop) (start : σ) (s : Session σ) : Prop where
  engine : (s.watch driver start).engine = s.engine
  handles : (s.watch driver start).opened = (s.watch driver start).closed + s.held.toNat
  connected : s.connected = true ↔ s.held = true ∧ ∃ sql, (s.watch driver start).setup = some sql ∧ prepares sql
  statements : Always driver (AtStatements IsOpen) { engine := start } s.events

/-- A session that is connected exactly when it holds a handle, has no other handle open, and ran its
statements on prepared handles only. -/
structure Orderly (driver : Driver σ) (prepares : String → Prop) (start : σ) (s : Session σ) : Prop where
  connected : s.connected = s.held
  handles : (s.watch driver start).opened = (s.watch driver start).closed + s.held.toNat
  statements : Always driver (AtStatements (IsReady prepares)) { engine := start } s.events

theorem tracked_start : Tracked driver prepares start { engine := start } :=
  ⟨rfl, rfl, by simp, trivial⟩

theorem orderly_start : Orderly driver prepares start { engine := start } :=
  ⟨rfl, rfl, trivial⟩

/-- Requests without statements keep a session tracked when the flags follow them. -/
theorem Tracked.silent (tracked : Tracked driver prepares start s) {events : List EngineEvent}
    (grown : t.events = s.events ++ events) (silent : executions events = [])
    (engine : ((s.watch driver start).seeAll driver events).engine = t.engine)
    (handles : ((s.watch driver start).seeAll driver events).opened =
      ((s.watch driver start).seeAll driver events).closed + t.held.toNat)
    (connected : t.connected = true ↔
      t.held = true ∧ ∃ sql, ((s.watch driver start).seeAll driver events).setup = some sql ∧ prepares sql) :
    Tracked driver prepares start t := by
  have watched : t.watch driver start = (s.watch driver start).seeAll driver events := Session.watch_append grown
  refine ⟨watched ▸ engine, watched ▸ handles, watched ▸ connected, ?_⟩
  rw [grown, Watch.always_append]
  exact ⟨tracked.statements, always_silent silent⟩

theorem connects_tracked (tracked : Tracked db.driver db.Prepares start s) {ended : Except Fault Unit × Session σ}
    (connects : Connects db s ended) : Tracked db.driver db.Prepares start ended.2 := by
  have handles := tracked.handles
  have flags := tracked.connected
  cases connects with
  | held held => exact tracked
  | unasked free => exact tracked
  | refused free connect =>
    rw [← tracked.engine] at connect
    refine tracked.silent rfl rfl ?_ ?_ ?_
    · simp [Watch.see_connect, connect, Session.past]
    · simpa [Watch.see_connect, connect, Session.past] using handles
    · simpa [Watch.see_connect, connect, Session.past] using flags
  | @abandoned complaint keywords sql events fresh after free connect readies gives =>
    rw [← tracked.engine] at connect
    have watched : (s.watch db.driver start).seeAll db.driver (.connect db.kind keywords :: events ++ [.close]) =
        { engine := after, opened := (s.watch db.driver start).opened + 1,
          closed := (s.watch db.driver start).closed + 1 } := by
      rw [Watch.seeAll_append, opening_watch connect readies]
      rfl
    have silent : executions (.connect db.kind keywords :: events ++ [.close]) = [] := by
      rw [executions_append, opening_silent readies]
      rfl
    refine tracked.silent rfl silent ?_ ?_ ?_
    · rw [watched]
      rfl
    · rw [watched]
      simp [handles, free]
    · rw [watched]
      simpa [free, Session.past] using flags
  | halfway free connect readies keeps =>
    rw [← tracked.engine] at connect
    refine tracked.silent rfl (opening_silent readies) ?_ ?_ ?_
    · rw [opening_watch connect readies]
      rfl
    · rw [opening_watch connect readies]
      simp [handles, free]
    · rw [opening_watch connect readies]
      simpa [free, Session.past, Except.isOk, Except.toBool] using flags
  | opened free connect prepares readies =>
    rw [← tracked.engine] at connect
    refine tracked.silent rfl (opening_silent readies) ?_ ?_ ?_
    · rw [opening_watch connect readies]
      rfl
    · rw [opening_watch connect readies]
      simp [handles, free, Session.noted]
    · rw [opening_watch connect readies]
      simp [Session.noted, Except.isOk, Except.toBool, prepares]

theorem connect_tracked (tracked : Tracked db.driver db.Prepares start s) :
    Tracked db.driver db.Prepares start (Action.on (connect db) s).2 :=
  connects_tracked tracked (connect_connects db s)

/-- Closing the connection closes the handle that is held. -/
theorem disconnect_tracked (tracked : Tracked db.driver db.Prepares start s) :
    Tracked db.driver db.Prepares start (Action.on (disconnect db) s).2 := by
  rw [on_disconnect]
  cases held : s.held with
  | true =>
    refine tracked.silent rfl rfl ?_ ?_ ?_
    · simpa [Watch.see_close, Session.past] using tracked.engine
    · simpa [Watch.see_close, Session.past, held] using tracked.handles
    · simp [Watch.see_close, Session.past]
  | false =>
    simp only [Bool.false_eq_true, ↓reduceIte]
    split
    · have handles := tracked.handles
      rw [held] at handles
      exact ⟨tracked.engine, handles, by simp, tracked.statements⟩
    · exact tracked

theorem Tracked.noted (tracked : Tracked driver prepares start s) (notice : Notice) :
    Tracked driver prepares start (s.noted notice) :=
  ⟨tracked.engine, tracked.handles, tracked.connected, tracked.statements⟩

/-- Connecting ends with a handle that is held. -/
theorem connect_held {opened : Session σ} (connected : Action.on (connect db) s = (.ok (), opened)) :
    opened.held = true := by
  have connects := connect_connects db s
  rw [connected] at connects
  generalize ended : ((.ok (), opened) : Except Fault Unit × Session σ) = last at connects
  cases connects with
  | held held =>
    cases ended
    exact held
  | opened free connect prepares readies =>
    cases ended
    rfl
  | _ => cases ended

/-- A tracked session that holds a handle has it open. -/
theorem Tracked.isOpen (tracked : Tracked driver prepares start s) (held : s.held = true) :
    IsOpen (s.watch driver start) := by
  have handles := tracked.handles
  rwa [held] at handles

/-- A session after a statement that got as far as its cursor: nothing new is told of the handles, and the
statement ran on what was open before. -/
structure Ran (driver : Driver σ) (start : σ) (opened t : Session σ) : Prop where
  held : t.held = opened.held
  connected : t.connected = opened.connected
  grown : ∃ new, t.events = opened.events ++ new
  watched : ∃ pending, t.watch driver start = { opened.watch driver start with engine := t.engine, pending }
  statements : ∀ {property : Watch σ → Prop}, (∀ engine, property { opened.watch driver start with engine }) →
    Always driver (AtStatements property) { engine := start } opened.events →
    Always driver (AtStatements property) { engine := start } t.events

theorem run_ran (sql : Value) (params : List Value) (tracked : Tracked db.driver db.Prepares start s) :
    (∃ fault, Action.on (connect db) s = (.error fault, (Action.on (run db sql params) s).2)) ∨
      ∃ opened, Action.on (connect db) s = (.ok (), opened) ∧
        Ran db.driver start opened (Action.on (run db sql params) s).2 := by
  have ready := connect_tracked tracked
  have runs := run_runs db sql params s
  generalize Action.on (run db sql params) s = ended at runs
  cases runs with
  | unopened opening =>
    rw [on_ensureHandle] at opening
    exact .inl ⟨_, opening⟩
  | @refused opened fault after opening cursor =>
    rw [on_ensureHandle] at opening
    rw [opening] at ready
    have asked : (opened.past [.openCursor (db.isPrepared params)] after).events =
        opened.events ++ [.openCursor (db.isPrepared params)] := rfl
    refine .inr ⟨opened, opening, rfl, rfl, ⟨_, asked⟩, ⟨(opened.watch db.driver start).pending, ?_⟩,
      fun holds before => ?_⟩
    · rw [Session.watch_append asked, Watch.seeAll_cons, Watch.see_openCursor, ready.engine, cursor]
      rfl
    · rw [asked, Watch.always_append]
      exact ⟨before, always_silent rfl⟩
  | @performed opened onCursor after result events opening cursor performs =>
    rw [on_ensureHandle] at opening
    rw [opening] at ready
    have grown := conclude_events db sql params opened after (db.isPrepared params) events result
    obtain ⟨-, held, connected⟩ := conclude_session db sql params
      (opened.past (.openCursor (db.isPrepared params) :: events) after) result
    refine .inr ⟨opened, opening, held, connected, ⟨_, grown⟩, ⟨_, statement_watch db ready.engine cursor performs⟩,
      fun holds before => ?_⟩
    -- After the cursor comes the statement, and only requests without statements follow.
    obtain ⟨rest, rfl, silent⟩ := performs_executions performs
    rw [grown, Watch.always_append]
    refine ⟨before, trivial, ?_, always_silent ?_⟩
    · rw [Watch.see_openCursor]
      exact holds _
    · exact (executions_append rest (closing result)).trans (by rw [silent, closing_silent, List.append_nil])

theorem run_tracked (sql : Value) (params : List Value) (tracked : Tracked db.driver db.Prepares start s) :
    Tracked db.driver db.Prepares start (Action.on (run db sql params) s).2 := by
  have ready := connect_tracked tracked
  rcases run_ran sql params tracked with ⟨fault, failed⟩ | ⟨opened, opening, ran⟩
  · rwa [failed] at ready
  · rw [opening] at ready
    obtain ⟨pending, watched⟩ := ran.watched
    refine ⟨?_, ?_, ?_, ran.statements (fun engine => ready.isOpen (connect_held opening)) ready.statements⟩
    · rw [watched]
    · rw [watched, ran.held]
      exact ready.handles
    · rw [watched, ran.held, ran.connected]
      exact ready.connected

/-- A property of the requests so far that fails as soon as a handle is left half prepared. -/
structure Spares (db : Database σ) (start : σ) (good : List EngineEvent → Prop) : Prop where
  earlier : ∀ {events more : List EngineEvent}, good (events ++ more) → good events
  whole : ∀ {s : Session σ} {complaint : EngineFault} {keywords : List (String × Value)} {sql : String}
    {events : List EngineEvent} {fresh after : σ}, (s.watch db.driver start).engine = s.engine →
    db.driver.connect s.engine = (.ok (), fresh) → Readies db sql fresh (.error complaint) events after →
    db.givesUp complaint = false → ¬good (s.events ++ .connect db.kind keywords :: events)

/-- A tracked session that is orderly in so far as its requests are good. -/
structure Lawful (driver : Driver σ) (prepares : String → Prop) (start : σ) (good : List EngineEvent → Prop)
    (s : Session σ) : Prop where
  tracked : Tracked driver prepares start s
  orderly : good s.events → Orderly driver prepares start s

section

variable {good : List EngineEvent → Prop}

theorem Lawful.idle (spares : Spares db start good) (lawful : Lawful db.driver db.Prepares start good s)
    (idle : Idle s t) (tracked : Tracked db.driver db.Prepares start t)
    (connected : good t.events → s.connected = s.held → t.connected = t.held) :
    Lawful db.driver db.Prepares start good t := by
  refine ⟨tracked, fun fine => ?_⟩
  obtain ⟨events, grown, silent⟩ := idle
  have before : good s.events := spares.earlier (grown ▸ fine)
  have orderly := lawful.orderly before
  refine ⟨connected fine orderly.connected, tracked.handles, ?_⟩
  rw [grown, Watch.always_append]
  exact ⟨orderly.statements, always_silent silent⟩

theorem connect_lawful (spares : Spares db start good) (lawful : Lawful db.driver db.Prepares start good s) :
    Lawful db.driver db.Prepares start good (Action.on (connect db) s).2 := by
  refine lawful.idle spares (connect_moves (opens_idle db) s) (connect_tracked lawful.tracked) ?_
  have connects := connect_connects db s
  generalize Action.on (connect db) s = ended at connects
  intro fine same
  cases connects with
  | held held => exact same
  | unasked free => exact same
  | refused free connect => exact same
  | abandoned free connect readies gives => exact same.trans free
  | halfway free connect readies keeps =>
    exact absurd fine (spares.whole lawful.tracked.engine connect readies keeps)
  | opened free connect prepares readies => rfl

theorem disconnect_lawful (spares : Spares db start good) (lawful : Lawful db.driver db.Prepares start good s) :
    Lawful db.driver db.Prepares start good (Action.on (disconnect db) s).2 := by
  refine lawful.idle spares (disconnect_moves (opens_idle db) s) (disconnect_tracked lawful.tracked) ?_
  intro fine same
  rw [on_disconnect]
  cases held : s.held with
  | true => rfl
  | false =>
    simp only [Bool.false_eq_true, ↓reduceIte]
    split
    · rfl
    · exact same

/-- A statement runs on a prepared handle where the session is connected. -/
theorem run_lawful (spares : Spares db start good) (sql : Value) (params : List Value)
    (lawful : Lawful db.driver db.Prepares start good s) :
    Lawful db.driver db.Prepares start good (Action.on (run db sql params) s).2 := by
  have tracked := run_tracked sql params lawful.tracked
  have ready := connect_lawful spares lawful
  rcases run_ran sql params lawful.tracked with ⟨fault, failed⟩ | ⟨opened, opening, ran⟩
  · rwa [failed] at ready
  · rw [opening] at ready
    refine ⟨tracked, fun fine => ?_⟩
    obtain ⟨new, grown⟩ := ran.grown
    have orderly := ready.orderly (spares.earlier (grown ▸ fine))
    obtain ⟨holding, prepared⟩ := ready.tracked.connected.mp (orderly.connected.trans (connect_held opening))
    have whole (engine : σ) : IsReady db.Prepares { opened.watch db.driver start with engine } :=
      ⟨ready.tracked.isOpen holding, prepared⟩
    exact ⟨ran.connected.trans (orderly.connected.trans ran.held.symm), tracked.handles,
      ran.statements whole orderly.statements⟩

/-- An attempt to connect that fails leaves no handle. -/
theorem connect_failed (spares : Spares db start good) (lawful : Lawful db.driver db.Prepares start good s)
    {fault : Fault} (fine : good t.events) (failed : Action.on (connect db) s = (.error fault, t)) :
    t.held = false := by
  have connects := connect_connects db s
  rw [failed] at connects
  generalize ended : ((.error fault, t) : Except Fault Unit × Session σ) = last at connects
  cases connects with
  | unasked free =>
    cases ended
    exact free
  | refused free connect =>
    cases ended
    exact free
  | abandoned free connect readies gives =>
    cases ended
    rfl
  | halfway free connect readies keeps =>
    cases ended
    exact absurd fine (spares.whole lawful.tracked.engine connect readies keeps)
  | _ => cases ended

theorem serves_lawful (spares : Spares db start good) : Serves db (Keeps (Lawful db.driver db.Prepares start good)) where
  connect _ lawful := connect_lawful spares lawful
  disconnect _ lawful := disconnect_lawful spares lawful
  run sql params _ lawful := run_lawful spares sql params lawful
  noted s notice lawful := lawful.idle spares ((opens_idle db).noted s notice) (lawful.tracked.noted notice) fun _ same => same

/-- Every session that a script leads through is lawful. -/
theorem passes_lawful (spares : ∀ now, Spares { db with now } start good)
    (script : List (Moment × Script.DatabaseStep))
    (passed : s ∈ { engine := start } :: Script.DatabaseStep.passes db script { engine := start }) :
    Lawful db.driver db.Prepares start good s := by
  have lawful : Lawful db.driver db.Prepares start good { engine := start } :=
    ⟨tracked_start, fun _ => orderly_start⟩
  have serves (now : Moment) : Serves { db with now } (Keeps (Lawful db.driver db.Prepares start good)) :=
    serves_lawful (spares now)
  exact Script.DatabaseStep.passes_keeps serves script lawful passed

end

end Database
end DataLayer
