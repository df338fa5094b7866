import DataLayer.Proofs.Database.Conversation
import DataLayer.Proofs.Database.Parity
import DataLayer.Proofs.Query.Slots
import DataLayer.Proofs.Script.Couple

/-! Queries on an embedded database and on a server. Main statement: on engines that answer alike, every sequence of
calls on a query is answered the same on both and logged the same, and both engines are spoken to in the same words
about the same statements. All that differs is the cursor, which on the server is a prepared one exactly for statements
with values. -/

namespace DataLayer

open DataLayer.Action DataLayer.Database
open DataLayer.Session (Parallel Twins)

variable {σ τ α β : Type} {related : σ → τ → Prop}

/-- A statement as the engine sees it: its cursor is refused, or it is executed and followed up. -/
inductive Talk where
  | refused (statement : Prepared)
  | answered (statement : Prepared) (fetched committed rolledBack : Bool)

namespace Talk

/-- The statement that the talk is about. -/
def statement : Talk → Prepared
  | refused statement => statement
  | answered statement _ _ _ => statement

/-- The requests of a talk. The values of the statement decide on its cursor. -/
def events (cursor : List Value → Bool) : Talk → List EngineEvent
  | refused statement => [.openCursor (cursor statement.params)]
  | answered statement fetched committed rolledBack =>
    conversation (cursor statement.params) (.text statement.sql) statement.params fetched committed rolledBack

/-- Talks about the same statement that differ in the kind of the cursor only are the same. -/
theorem eq_of_plain {cursor other : List Value → Bool} {talk talk' : Talk} (same : talk.statement = talk'.statement)
    (plain : (talk.events cursor).map EngineEvent.plain = (talk'.events other).map EngineEvent.plain) :
    talk = talk' := by
  cases talk with
  | refused prepared =>
    cases talk' with
    | refused prepared' => exact congrArg refused same
    | answered prepared' fetched committed rolledBack => simp [events, conversation] at plain
  | answered prepared fetched committed rolledBack =>
    cases talk' with
    | refused prepared' => simp [events, conversation] at plain
    | answered prepared' fetched' committed' rolledBack' =>
      obtain rfl : prepared = prepared' := same
      cases fetched <;> cases committed <;> cases rolledBack <;>
        cases fetched' <;> cases committed' <;> cases rolledBack' <;>
          simp_all [events, conversation, followUps, EngineEvent.plain]

end Talk

namespace Database

variable {db : Database σ} {s : Session σ}

/-- What the engine sees of a statement on an open handle. -/
theorem run_talks (held : s.held = true) (statement : Prepared) :
    ∃ talk : Talk, talk.statement = statement ∧
      (Action.on (run db (.text statement.sql) statement.params) s).2.events =
        s.events ++ talk.events db.isPrepared := by
  rcases opens : db.driver.openCursor (db.isPrepared statement.params) s.engine with ⟨fault | nothing, ready⟩
  · refine ⟨.refused statement, rfl, ?_⟩
    have runs := run_runs db (.text statement.sql) statement.params s
    generalize Action.on (run db (.text statement.sql) statement.params) s = ended at runs ⊢
    cases runs with
    | unopened opening =>
      rw [ensureHandle_held db held] at opening
      cases opening
    | refused opening cursor =>
      rw [ensureHandle_held db held] at opening
      cases opening
      rfl
    | performed opening cursor performs =>
      rw [ensureHandle_held db held] at opening
      cases opening
      rw [opens] at cursor
      cases cursor
  · have spoken := @run_conversation σ db (.text statement.sql) _ s ready held opens
    obtain ⟨fetched, committed, rolledBack, notices, seen, -⟩ := spoken
    exact ⟨.answered statement fetched committed rolledBack, rfl, seen⟩

end Database

namespace Query

variable {db : Database σ} {s : Session σ}

/-- What the engine sees of a query that ends on an open handle: nothing at all if it cannot be compiled. -/
theorem finish_talks (held : s.held = true) (q : Query) (terminal : Terminal) :
    ∃ talk? : Option Talk, talk?.map Talk.statement = (q.prepare terminal).toOption ∧
      (on (q.finish db terminal) s).2.events = s.events ++ talk?.toList.flatMap (Talk.events db.isPrepared) := by
  rw [finish_eq, on_bind, on_ofExcept]
  cases q.prepare terminal with
  | error fault => exact ⟨none, rfl, (List.append_nil _).symm⟩
  | ok prepared => ?_
  have sent : ∃ talk : Talk, talk.statement = prepared ∧
      (on (send db q prepared) s).2.events = s.events ++ talk.events db.isPrepared := by
    unfold send
    cases prepared.unscoped with
    | none => exact run_talks held prepared
    | some operation => exact run_talks (s := s.noted (.unscopedWrite operation q.table)) held prepared
  obtain ⟨talk, about, seen⟩ := sent
  refine ⟨some talk, congrArg some about, ?_⟩
  rw [Option.toList_some, List.flatMap_singleton, ← seen]
  dsimp only
  rw [on_bind]
  rcases on (send db q prepared) s with ⟨fault | statement, after⟩
  · rfl
  · exact congrArg Session.events (on_ended terminal statement after)

end Query

/-- What two runs come to that go the same way, with a talk of each engine about each of the statements. -/
structure Parity (related : σ → τ → Prop) (statements : List Prepared) (s : Session σ) (t : Session τ)
    (first : α × Session σ) (second : α × Session τ) : Prop where
  result : first.1 = second.1
  twins : Twins related first.2 second.2
  events : ∃ talks : List Talk, talks.map Talk.statement = statements ∧
    first.2.events = s.events ++ talks.flatMap (Talk.events fun _ => false) ∧
    second.2.events = t.events ++ talks.flatMap (Talk.events fun params => !params.isEmpty)
  log : ∃ logged, first.2.log = s.log ++ logged ∧ second.2.log = t.log ++ logged

theorem Parity.quiet {s : Session σ} {t : Session τ} (twins : Twins related s t) (result : α) :
    Parity related [] s t (result, s) (result, t) where
  result := rfl
  twins := twins
  events := ⟨[], rfl, (List.append_nil _).symm, (List.append_nil _).symm⟩
  log := ⟨[], (List.append_nil _).symm, (List.append_nil _).symm⟩

theorem Parity.trans {s : Session σ} {t : Session τ} {earlier later : List Prepared} {first : α × Session σ}
    {second : α × Session τ} {third : β × Session σ} {fourth : β × Session τ}
    (begun : Parity related earlier s t first second) (ended : Parity related later first.2 second.2 third fourth) :
    Parity related (earlier ++ later) s t third fourth := by
  obtain ⟨talks, about, seen, seen'⟩ := begun.events
  obtain ⟨more, about', grown, grown'⟩ := ended.events
  obtain ⟨logged, left, right⟩ := begun.log
  obtain ⟨added, left', right'⟩ := ended.log
  refine ⟨ended.result, ended.twins, ⟨talks ++ more, ?_, ?_, ?_⟩, ⟨logged ++ added, ?_, ?_⟩⟩
  · rw [List.map_append, about, about']
  · rw [grown, seen, List.flatMap_append, List.append_assoc]
  · rw [grown', seen', List.flatMap_append, List.append_assoc]
  · rw [left', left, List.append_assoc]
  · rw [right', right, List.append_assoc]

theorem Parity.map {s : Session σ} {t : Session τ} {statements : List Prepared} {first : α × Session σ}
    {second : α × Session τ} (parity : Parity related statements s t first second) (shown : α → β) :
    Parity related statements s t (shown first.1, first.2) (shown second.1, second.2) :=
  ⟨congrArg shown parity.result, parity.twins, parity.events, parity.log⟩

variable {db : Database σ} {other : Database τ} {s : Session σ} {t : Session τ}

theorem Database.Peers.answersAlike (peers : Peers related db other) :
    AnswersAlike db other (Parallel related s t) id where
  noted notice _ _ parallel := parallel.noted notice
  run := peers.run_couples

/-- A query ends alike on both databases, after the same talk if any. -/
theorem Query.finish_parity (peers : Peers related db other) (twins : Twins related s t) (q : Query)
    (terminal : Terminal) :
    Parity related (q.prepare terminal).toOption.toList s t (on (q.finish db terminal) s)
      (on (q.finish other terminal) t) := by
  obtain ⟨result, parallel⟩ := (q.finish_couples peers.answersAlike terminal).same twins.parallel
  refine ⟨result, parallel.toTwins, ?_, parallel.log⟩
  obtain ⟨talk?, about, seen⟩ := @finish_talks σ db s twins.held q terminal
  obtain ⟨talk'?, about', seen'⟩ := @finish_talks τ other t twins.otherHeld q terminal
  obtain ⟨new, new', grown, grown', plain⟩ := parallel.events
  obtain rfl := List.append_cancel_left (grown.symm.trans seen)
  obtain rfl := List.append_cancel_left (grown'.symm.trans seen')
  have cursors : db.isPrepared = fun _ => false := funext (isPrepared_embedded peers.embedded)
  have cursors' : other.isPrepared = fun params => !params.isEmpty := funext (isPrepared_server peers.server)
  rw [cursors] at seen
  rw [cursors'] at seen'
  -- the talks are about the same statement, and the engines saw the same but for the cursors
  have same : talk? = talk'? := by
    rw [← about'] at about
    cases talk? with
    | none =>
      cases talk'? with
      | none => rfl
      | some talk' => cases about
    | some talk =>
      cases talk'? with
      | none => cases about
      | some talk' =>
        simp only [Option.toList_some, List.flatMap_singleton] at plain
        exact congrArg some (Talk.eq_of_plain (Option.some.inj about) plain)
  refine ⟨talk?.toList, ?_, seen, same ▸ seen'⟩
  rw [← about, Option.toList_map]

namespace Script.QueryStep

open Query

/-- The statement that a step compiles to, if it ends the query. -/
def statement? (q : Query) : QueryStep → Option Prepared
  | .terminal ending => (q.prepare ending).toOption
  | _ => none

/-- The query that a call leaves, and the statement that the call compiles to. -/
def traced (q : Query) (call : Call) : Query × Option Prepared :=
  match ofCall call with
  | .error _ => (q, none)
  | .ok step => (match step.clause? with
    | some change => (q.apply change).2
    | none => q, statement? q step)

/-- The statements that calls in turn compile to. -/
def compiled (q : Query) : List Call → List Prepared
  | [] => []
  | call :: rest => (traced q call).2.toList ++ compiled (traced q call).1 rest

/-- Makes calls one after the other, whether they fail or not, and gathers their answers. -/
def performCalls (db : Database σ) (q : Query) :
    List Call → StateM (Session σ) (List (Except Fault Reply) × Query)
  | [] => return ([], q)
  | call :: rest => do
    let (answer, q) ← performCall db q call
    let (answers, q) ← performCalls db q rest
    return (answer :: answers, q)

theorem performCalls_cons (db : Database σ) (q : Query) (call : Call) (rest : List Call) (s : Session σ) :
    performCalls db q (call :: rest) s =
      let first := performCall db q call s
      let others := performCalls db first.1.2 rest first.2
      ((first.1.1 :: others.1.1, others.1.2), others.2) := rfl

theorem perform_parity (peers : Peers related db other) (twins : Twins related s t) (q : Query) (step : QueryStep) :
    Parity related (statement? q step).toList s t (perform db q step s) (perform other q step t) := by
  cases step with
  | terminal ending =>
    exact (q.finish_parity peers twins ending).map fun ended => (ended.map _, q)
  | _ => exact .quiet twins _

theorem performCall_parity (peers : Peers related db other) (twins : Twins related s t) (q : Query) (call : Call) :
    Parity related (traced q call).2.toList s t (performCall db q call s) (performCall other q call t) ∧
      (performCall db q call s).1.2 = (traced q call).1 := by
  unfold performCall traced
  cases ofCall call with
  | error misuse => exact ⟨.quiet twins _, rfl⟩
  | ok step => exact ⟨perform_parity peers twins q step, perform_query db q step s⟩

/-- Every sequence of calls on a query goes the same way on an embedded database and on a server, both open, whose
engines answer alike: the same answers and faults, the same log, and the same talks with the engine, about what the
calls compile to. -/
theorem performCalls_parity (peers : Peers related db other) (twins : Twins related s t) (q : Query)
    (calls : List Call) :
    Parity related (compiled q calls) s t (performCalls db q calls s) (performCalls other q calls t) := by
  induction calls generalizing q s t with
  | nil => exact .quiet twins _
  | cons call rest ih =>
    obtain ⟨one, left⟩ := performCall_parity peers twins q call
    have right : (performCall other q call t).1.2 = (traced q call).1 := one.result ▸ left
    have others := ih one.twins (traced q call).1
    rw [performCalls_cons, performCalls_cons]
    dsimp only
    rw [left, right, ← one.result]
    exact (one.trans others).map fun shown => ((performCall db q call s).1.1 :: shown.1, shown.2)

/-- A refused row, a call that does not exist and a query with a value, on two databases that were opened in their own
ways. -/
theorem performCalls_parity_refused :
    let now : Moment := ⟨⟨2025, 1, 1⟩, ⟨0, 0, 0, 0, none⟩⟩
    let db : Database Scripted.Engine := { kind := .sqlite, config := {}, now, driver := Scripted.driver }
    let other : Database Scripted.Engine := { kind := .mysql, config := {}, now, driver := Scripted.driver.worded }
    let refusal : Scripted.Response := { complaint := some (.execute, ⟨.integrity, "duplicate"⟩) }
    let engine : Scripted.Engine := { script := [refusal] }
    let s : Session Scripted.Engine :=
      { engine, held := true, connected := true, events := [.connect .sqlite [], .setup "PRAGMA foreign_keys = ON"] }
    let t : Session Scripted.Engine :=
      { engine, held := true, connected := true,
        events := [.connect .mysql [], .openCursor false, .setup "SET time_zone = '+00:00'", .closeCursor] }
    let calls : List Call :=
      [{ name := "insert", args := [.map [(.text "a", .int 1)]] }, { name := "find" },
        { name := "where", args := [.text "a", .int 1] }, { name := "get" }, { name := "delete" }]
    let q : Query := { table := .text "t" }
    let statements : List Prepared :=
      [⟨"INSERT INTO t (a) VALUES (?)", [.int 1], none⟩, ⟨"SELECT * FROM t WHERE a = ?", [.int 1], none⟩,
        ⟨"DELETE FROM t WHERE a = ?", [.int 1], none⟩]
    Peers (fun engine other => engine = other ∧ engine.Worded) db other ∧
      Twins (fun engine other => engine = other ∧ engine.Worded) s t ∧ compiled q calls = statements ∧
      Parity (fun engine other => engine = other ∧ engine.Worded) statements s t (performCalls db q calls s)
        (performCalls other q calls t) := by
  intro now db other refusal engine s t calls q statements
  have peers : Peers (fun engine other => engine = other ∧ engine.Worded) db other :=
    ⟨rfl, rfl, rfl, Scripted.driver_parallels⟩
  have worded : engine.Worded := by
    refine ⟨nofun, fun response among => ?_, nofun, nofun, nofun⟩
    obtain rfl := List.mem_singleton.mp among
    rintro _ _ ⟨⟩
    rfl
  have twins : Twins (fun engine other => engine = other ∧ engine.Worded) s t := ⟨⟨rfl, worded⟩, rfl, rfl, rfl⟩
  have sent : compiled q calls = statements := by rfl
  refine ⟨peers, twins, sent, ?_⟩
  rw [← sent]
  exact performCalls_parity peers twins q calls

end Script.QueryStep
end DataLayer
