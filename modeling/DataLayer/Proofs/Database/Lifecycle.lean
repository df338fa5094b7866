import DataLayer.Engine.Scripted
import DataLayer.Proofs.Database.Tracking

/-! The life of a connection, along every script. Main statements: a server whose preparation fails with
complaints only is connected exactly while a handle is open, and its statements run on prepared handles; the
flags of an embedded database tell of its handles, and it is orderly as long as no preparation failed. -/

namespace DataLayer

variable {σ : Type}

open Script.DatabaseStep (passes_first passes_later)
open Watch (Always AtStatements IsReady)

namespace Database

variable {db : Database σ} {start : σ} {s : Session σ}

/-- Holds of every request but the preparation of a handle that fails. -/
def Unharmed (driver : Driver σ) (w : Watch σ) (event : EngineEvent) : Prop :=
  match event with
  | .setup _ => (driver.serve w.engine event).1 = none
  | _ => True

instance (driver : Driver σ) (w : Watch σ) : ∀ event, Decidable (Unharmed driver w event)
  | .setup sql => inferInstanceAs (Decidable ((driver.serve w.engine (.setup sql)).1 = none))
  | .connect _ _ | .openCursor _ | .execute _ _ | .fetchAll | .commit | .rollback | .closeCursor | .close =>
    .isTrue trivial

/-- An engine that leaves a fresh handle unprepared only with a complaint. -/
structure Complains (driver : Driver σ) : Prop where
  openCursor : ∀ {engine fresh after : σ} {fault : EngineFault}, driver.connect engine = (.ok (), fresh) →
    driver.openCursor false fresh = (.error fault, after) → fault.kind.isDriverError = true
  setup : ∀ {engine fresh ready after : σ} {sql : String} {fault : EngineFault},
    driver.connect engine = (.ok (), fresh) → driver.openCursor false fresh = (.ok (), ready) →
    driver.setup sql ready = (.error fault, after) → fault.kind.isDriverError = true

/-- An embedded database keeps a handle whose preparation failed, and only such a handle is unprepared. -/
theorem spares_unharmed (db : Database σ) (kind : db.kind = .sqlite) (start : σ) :
    Spares db start (Always db.driver (Unharmed db.driver) { engine := start }) where
  earlier fine := ((Watch.always_append _ _).mp fine).1
  whole := by
    intro s complaint keywords sql events fresh after same connect readies keeps fine
    have later : Always db.driver (Unharmed db.driver) (s.watch db.driver start) (.connect db.kind keywords :: events) :=
      ((Watch.always_append _ _).mp fine).2
    cases readies with
    | embedded _ setup =>
      have prepared := later.2.1
      simp [Unharmed, Driver.serve, Driver.answered, Watch.see_connect, same, connect, setup] at prepared
    | bare server cursor => cases kind.symm.trans server
    | server server cursor setup => cases kind.symm.trans server

/-- A server takes back every handle that it could not prepare for a complaint. -/
theorem spares_always (db : Database σ) (kind : db.kind = .mysql) (complains : Complains db.driver) (start : σ) :
    Spares db start fun _ => True where
  earlier _ := trivial
  whole := by
    intro s complaint keywords sql events fresh after same connect readies keeps
    have gives (complaining : complaint.kind.isDriverError = true) : db.givesUp complaint = true := by
      simp [givesUp, kind, complaining]
    cases readies with
    | embedded embedded setup => cases kind.symm.trans embedded
    | bare _ cursor => simp [gives (complains.openCursor connect cursor)] at keeps
    | server _ cursor setup => simp [gives (complains.setup connect cursor setup)] at keeps

/-- A server is connected exactly when it holds a handle, has no other handle open, and runs statements on
prepared handles only, as long as what keeps it from preparing one are complaints of the engine. An attempt to
connect that fails leaves no handle. -/
theorem server_orderly (kind : db.kind = .mysql) (complains : Complains db.driver)
    (script : List (Moment × Script.DatabaseStep))
    (passed : s ∈ { engine := start } :: Script.DatabaseStep.passes db script { engine := start }) :
    Orderly db.driver db.Prepares start s ∧
      ∀ now fault t, Action.on (connect { db with now }) s = (.error fault, t) →
        t.held = false ∧ t.connected = false ∧
          (t.watch db.driver start).opened = (t.watch db.driver start).closed := by
  have spares (now : Moment) : Spares { db with now } start fun _ => True :=
    spares_always { db with now } kind complains start
  have lawful := passes_lawful spares script passed
  refine ⟨lawful.orderly trivial, fun now fault t failed => ?_⟩
  have after := connect_lawful (spares now) lawful
  rw [failed] at after
  have orderly := after.orderly trivial
  have free : t.held = false := connect_failed (spares now) lawful trivial failed
  refine ⟨free, orderly.connected.trans free, ?_⟩
  have handles := orderly.handles
  rwa [free] at handles

/-- A server that can prepare no handle at the first attempt. -/
def slowServer : Driver Bool where
  connect ready := (.ok (), ready)
  setup _ ready := if ready then (.ok (), ready) else (.error ⟨.operational, "Unknown or incorrect time zone"⟩, true)
  openCursor _ ready := (.ok (), ready)
  execute _ _ ready := (.ok {}, ready)
  fetchAll ready := (.ok [], ready)
  commit ready := (.ok (), ready)
  rollback ready := ready

theorem slowServer_complains : Complains slowServer where
  openCursor opened refused := by cases refused
  setup := by
    intro engine fresh ready after sql fault opened cursor failed
    cases ready with
    | true => cases failed
    | false =>
      cases failed
      rfl

/-- The first attempt to connect to a slow server fails whatever its zone is. -/
theorem slowServer_refuses (db : Database Bool) (kind : db.kind = .mysql) (slow : db.driver = slowServer) :
    ∃ fault t, Action.on (connect db) { engine := false } = (.error fault, t) := by
  have connects := connect_connects db { engine := false }
  generalize Action.on (connect db) { engine := false } = ended at connects
  cases connects with
  | held held => cases held
  | opened free connect prepares readies =>
    rw [slow] at connect
    cases connect
    cases readies with
    | embedded embedded setup => cases kind.symm.trans embedded
    | server server cursor setup =>
      rw [slow] at cursor setup
      cases cursor
      cases setup
  | _ => exact ⟨_, _, rfl⟩

/-- A block in a block on a slow server, tried twice. -/
theorem server_orderly_retried :
    let now : Moment := ⟨⟨2025, 1, 1⟩, ⟨0, 0, 0, 0, none⟩⟩
    let db : Database Bool := { kind := .mysql, config := {}, now, driver := slowServer }
    let select : Script.DatabaseStep := .call { name := "query", args := [.text "SELECT 1"] }
    let block : Script.DatabaseStep := .within [.within [select], select, .raise "ValueError" (.text "stop")]
    let script := [(now, block), (now, block)]
    let first := (Action.on (block.perform db) { engine := false }).2
    let s := (Action.on (block.perform db) first).2
    let passed := { engine := false } :: Script.DatabaseStep.passes db script { engine := false }
    db.kind = .mysql ∧ Complains db.driver ∧ s ∈ passed ∧ Orderly db.driver db.Prepares false s ∧
      { engine := false } ∈ passed ∧ ∃ fault t, Action.on (connect db) { engine := false } = (.error fault, t) ∧
        t.held = false ∧ t.connected = false ∧
          (t.watch db.driver false).opened = (t.watch db.driver false).closed := by
  intro now db select block script first s passed
  have kind : db.kind = .mysql := rfl
  have complains : Complains db.driver := slowServer_complains
  have last : s ∈ passed := List.mem_cons_of_mem _ (passes_later db now block (passes_first db now block [] first))
  have start : { engine := false } ∈ passed := List.mem_cons_self
  obtain ⟨fault, t, failed⟩ := slowServer_refuses db kind rfl
  exact ⟨kind, complains, last, (server_orderly kind complains script last).1, start, fault, t, failed,
    (server_orderly kind complains script start).2 now fault t failed⟩

/-- The flags of an embedded database tell of its handles what its requests tell, and it is connected exactly
when it holds a handle, with all statements on prepared handles, as long as no preparation failed. -/
theorem embedded_tracked (kind : db.kind = .sqlite) (script : List (Moment × Script.DatabaseStep))
    (passed : s ∈ { engine := start } :: Script.DatabaseStep.passes db script { engine := start }) :
    Tracked db.driver db.Prepares start s ∧
      (Always db.driver (Unharmed db.driver) { engine := start } s.events → Orderly db.driver db.Prepares start s) := by
  have spares (now : Moment) :
      Spares { db with now } start (Always db.driver (Unharmed db.driver) { engine := start }) :=
    spares_unharmed { db with now } kind start
  have lawful := passes_lawful spares script passed
  exact ⟨lawful.tracked, lawful.orderly⟩

/-- A first attempt to connect is refused, and a statement in a block fails. -/
theorem embedded_tracked_reopened :
    let now : Moment := ⟨⟨2025, 1, 1⟩, ⟨0, 0, 0, 0, none⟩⟩
    let db : Database Scripted.Engine := { kind := .sqlite, config := {}, now, driver := Scripted.driver }
    let start : Scripted.Engine :=
      { connectFaults := [some ⟨.operational, "unable to open database file"⟩],
        script := [{ complaint := some (.execute, ⟨.integrity, "UNIQUE constraint failed"⟩) }] }
    let insert : Script.DatabaseStep := .call { name := "run", args := [.text "INSERT INTO t (a) VALUES (1)"] }
    let script : List (Moment × Script.DatabaseStep) := [(now, .call { name := "connect" }), (now, .within [insert])]
    let refused := (Action.on (Script.DatabaseStep.perform db (.call { name := "connect" })) { engine := start }).2
    let s := (Action.on (Script.DatabaseStep.perform db (.within [insert])) refused).2
    db.kind = .sqlite ∧ s ∈ { engine := start } :: Script.DatabaseStep.passes db script { engine := start } ∧
      Always db.driver (Unharmed db.driver) { engine := start } s.events ∧
      Tracked db.driver db.Prepares start s ∧ Orderly db.driver db.Prepares start s := by
  intro now db start insert script refused s
  have passed : s ∈ { engine := start } :: Script.DatabaseStep.passes db script { engine := start } :=
    List.mem_cons_of_mem _ (passes_later db now _ (passes_first db now _ [] refused))
  have kind : db.kind = .sqlite := rfl
  have tracks := embedded_tracked kind script passed
  refine ⟨kind, passed, ?unharmed, tracks.1, tracks.2 ?unharmed⟩
  decide +kernel

/-- A handle whose preparation failed is kept, and the next statement runs on it. -/
theorem embedded_halfway :
    let now : Moment := ⟨⟨2025, 1, 1⟩, ⟨0, 0, 0, 0, none⟩⟩
    let db : Database Scripted.Engine := { kind := .sqlite, config := {}, now, driver := Scripted.driver }
    let start : Scripted.Engine := { setupFaults := [some ⟨.operational, "disk I/O error"⟩] }
    let connecting : Script.DatabaseStep := .call { name := "connect" }
    let select : Script.DatabaseStep := .call { name := "run", args := [.text "SELECT 1"] }
    ∃ s ∈ Script.DatabaseStep.passes db [(now, connecting), (now, select)] { engine := start },
      s.connected ≠ s.held ∧ ¬Always db.driver (AtStatements (IsReady db.Prepares)) { engine := start } s.events := by
  intro now db start connecting select
  let halfway := (Action.on (connecting.perform db) { engine := start }).2
  let t := (Action.on (select.perform db) halfway).2
  have passed : Script.DatabaseStep.passes db [(now, connecting), (now, select)] { engine := start } = [halfway, t] := rfl
  rw [passed]
  refine ⟨t, by simp, by decide +kernel, fun fine => ?_⟩
  have unprepared : ∀ sql, (halfway.watch db.driver start).setup ≠ some sql := fun sql => nofun
  -- The statement is the fourth request.
  obtain ⟨-, -, -, ⟨-, sql, prepared, -⟩, -⟩ := fine
  exact unprepared sql prepared

end Database
end DataLayer
