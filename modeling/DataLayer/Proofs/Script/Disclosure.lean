import DataLayer.Proofs.Script.Discretion
import Mathlib.Data.List.Forall2

/-! What may be said outside about a fault, and what the engine said. Its words about a statement are kept back, but
those about a handle that it would not open are part of the message of the report. Main statement: two engines that
only put their complaints in other words have the same said about every fault of every program, except about a handle
that was not opened; there both say what the engine said. -/

namespace DataLayer

open DataLayer.Action

variable {σ τ : Type} {related : σ → τ → Prop}

/-- The report that no handle could be opened. -/
def openingReport (kind : EngineKind) (words : String) : Report where
  kind := .connection
  message := .text ("Failed to connect to " ++ Database.engineName kind ++ ": " ++ words)
  cause := some (.words words)

/-- A report without any words. -/
def Report.wordless (r : Report) : Report := { r with message := .null, engineMessage := .null, cause := none }

/-- Faults that are the same but for the words of engines. -/
inductive Fault.Rephrases : Fault → Fault → Prop where
  | same (fault : Fault) : Rephrases fault fault
  | engine {complaint complaint' : EngineFault} (unworded : complaint.unworded = complaint'.unworded) :
      Rephrases (.engine complaint) (.engine complaint')
  | statement {r r' : Report} (carries : r.kind.carriesEngineMessage = true) (wordless : r.wordless = r'.wordless) :
      Rephrases (.report r) (.report r')
  | opening (kind : EngineKind) (words words' : String) :
      Rephrases (.report (openingReport kind words)) (.report (openingReport kind words'))

/-- A notice without the words of engines. -/
def Notice.unworded : Notice → Notice
  | .failed sql kind _ => .failed sql kind ""
  | .migrationFailed _ => .migrationFailed ""
  | .rollbackFailed migration _ => .rollbackFailed migration ""
  | .seedFailed seeder _ => .seedFailed seeder ""
  | notice => notice

theorem Notice.Quotes.unworded {notice : String → Notice} (quotes : Quotes notice) (text text' : String) :
    (notice text).unworded = (notice text').unworded := by
  cases quotes <;> rfl

theorem Report.kind_eq_of_wordless {r r' : Report} (same : r.wordless = r'.wordless) : r.kind = r'.kind := by
  have kinds : r.wordless.kind = r'.wordless.kind := congrArg Report.kind same
  exact kinds

/-- A report on a handle tells which engine it is about, and what that engine said. -/
theorem openingReport_inj {kind kind' : EngineKind} {words words' : String}
    (same : openingReport kind words = openingReport kind' words') : kind = kind' ∧ words = words' := by
  obtain rfl : words = words' := Cause.words.inj (Option.some.inj (congrArg Report.cause same))
  have messages := Value.text.inj (congrArg Report.message same)
  have lengths := congrArg String.length messages
  simp only [String.length_append, Nat.add_right_cancel_iff] at lengths
  refine ⟨?_, rfl⟩
  cases kind with
  | sqlite =>
    cases kind' with
    | sqlite => rfl
    | mysql => exact absurd lengths (by decide)
  | mysql =>
    cases kind' with
    | sqlite => exact absurd lengths (by decide)
    | mysql => rfl

/-- What is said outside of a handle that was not opened tells what the engine said of it. -/
theorem publicMessage_openingReport_inj (kind : EngineKind) {words words' : String} :
    (openingReport kind words).publicMessage false = (openingReport kind words').publicMessage false ↔ words = words' := by
  constructor
  · intro same
    exact (String.append_right_inj _).mp (Value.text.inj same)
  · intro same
    rw [same]

namespace Fault.Rephrases

theorem symm {fault fault' : Fault} (rephrases : Rephrases fault fault') : Rephrases fault' fault := by
  cases rephrases with
  | same => exact .same _
  | engine unworded => exact .engine unworded.symm
  | @statement r r' carries wordless =>
    have kinds : r.kind = r'.kind := Report.kind_eq_of_wordless wordless
    exact .statement (kinds ▸ carries) wordless.symm
  | opening kind words words' => exact .opening kind words' words

theorem trans {first second third : Fault} (left : Rephrases first second) (right : Rephrases second third) :
    Rephrases first third := by
  cases left with
  | same => exact right
  | engine unworded =>
    cases right with
    | same => exact .engine unworded
    | engine unworded' => exact .engine (unworded.trans unworded')
  | @statement r r' carries wordless =>
    have kinds : r.kind = r'.kind := Report.kind_eq_of_wordless wordless
    generalize second : Fault.report r' = fault at right
    cases right with
    | same => exact second ▸ .statement carries wordless
    | engine => cases second
    | statement carries' wordless' =>
      cases second
      exact .statement carries (wordless.trans wordless')
    | opening =>
      -- a report on a statement is none on a handle
      cases second
      rw [kinds] at carries
      cases carries
  | opening kind words words' =>
    generalize second : Fault.report (openingReport kind words') = fault at right
    cases right with
    | same => exact second ▸ .opening kind words words'
    | engine => cases second
    | statement carries' =>
      cases second
      cases carries'
    | opening kind' words'' others =>
      obtain ⟨rfl, rfl⟩ := openingReport_inj (Fault.report.inj second)
      exact .opening kind words others

/-- Faults look the same where they are in the same class. -/
theorem class_eq_iff {fault fault' : Fault} : Rephrases fault = Rephrases fault' ↔ Rephrases fault fault' := by
  constructor
  · intro classes
    rw [classes]
    exact .same fault'
  · intro rephrases
    exact funext fun third => propext ⟨rephrases.symm.trans, rephrases.trans⟩

theorem escapes {fault fault' : Fault} (rephrases : Rephrases fault fault') : fault.escapes = fault'.escapes := by
  cases rephrases <;> rfl

/-- The same is said of both outside, or both say that a handle was not opened. -/
theorem publicMessage {fault fault' : Fault} (rephrases : Rephrases fault fault') :
    fault.publicMessage false = fault'.publicMessage false ∨ ∃ kind words words',
      fault = .report (openingReport kind words) ∧ fault' = .report (openingReport kind words') := by
  cases rephrases with
  | same => exact .inl rfl
  | engine => exact .inl rfl
  | @statement r r' carries wordless =>
    have kinds : r.kind = r'.kind := Report.kind_eq_of_wordless wordless
    have carries' : r'.kind.carriesEngineMessage = true := kinds ▸ carries
    left
    simp only [Fault.publicMessage, Report.publicMessage, carries, carries', ↓reduceIte, Bool.false_eq_true]
  | opening kind words words' => exact .inr ⟨kind, words, words', rfl, rfl⟩

end Fault.Rephrases

namespace Database

open Session (Resembles)
open Fault (Rephrases)

variable {db : Database σ} {other : Driver τ}

theorem openingFault_rephrases (kind : EngineKind) {complaint complaint' : EngineFault}
    (same : complaint.unworded = complaint'.unworded) :
    Rephrases (openingFault kind complaint) (openingFault kind complaint') := by
  have kinds := EngineFault.kind_eq_of_unworded same
  unfold openingFault
  rw [← kinds]
  split
  · exact .opening kind complaint.message complaint'.message
  · exact .engine same

theorem statementReport_rephrases (sql : Value) {complaint complaint' : EngineFault}
    (same : complaint.unworded = complaint'.unworded) :
    Rephrases (.report (statementReport db sql complaint)) (.report (statementReport db sql complaint')) := by
  have kinds := EngineFault.kind_eq_of_unworded same
  refine .statement ?_ ?_
  · unfold statementReport
    dsimp only
    split <;> rfl
  · unfold statementReport Report.wordless
    rw [kinds]

theorem shows_rephrases :
    Shows db (db.on other) EngineFault.unworded EngineFault.unworded Rephrases where
  opened _ _ same := Rephrases.class_eq_iff.mpr (openingFault_rephrases db.kind same)
  refused _ _ same := Rephrases.class_eq_iff.mpr (.engine same)
  reported sql _ _ same _ := Rephrases.class_eq_iff.mpr (statementReport_rephrases sql same)
  passed _ _ same _ := Rephrases.class_eq_iff.mpr (.engine same)

theorem actsAlike_rephrases (concurs : db.driver.Concurs related EngineFault.unworded EngineFault.unworded Eq other) :
    ActsAlike db (db.on other) (Resembles related id Notice.unworded) Rephrases fun _ => "" := by
  have kinds ⦃complaint complaint' : EngineFault⦄ (same : complaint.unworded = complaint'.unworded) :
      complaint.kind = complaint'.kind := EngineFault.kind_eq_of_unworded same
  have opens : OpensAlike db (db.on other) (Resembles related id Notice.unworded) EngineFault.unworded :=
    opensAlike_resembles concurs rfl rfl kinds
  have runs : RunsAlike db (db.on other) (Resembles related id Notice.unworded) EngineFault.unworded
      EngineFault.unworded Eq := runsAlike_resembles_eq concurs opens kinds fun _ _ _ _ _ => rfl
  exact runs.actsAlike shows_rephrases (fun change _ _ same => same.bound change) rfl rfl
    (fun _ _ same => (Rephrases.class_eq_iff.mp same).escapes) (fun _ _ _ => rfl)
    fun _ quotes _ _ _ _ _ resembles => resembles.noted (quotes.unworded _ _)

end Database

namespace Script.Errand

open DataLayer.Session (Resembles)

/-- Results of an errand in two runs of which the same is said outside. -/
inductive Corresponds : Except Fault (List Job.Outcome) → Except Fault (List Job.Outcome) → Prop where
  | ended {outcomes outcomes' : List Job.Outcome}
      (same : outcomes.map (Job.Outcome.heardAs fun _ => "") = outcomes'.map (Job.Outcome.heardAs fun _ => "")) :
      Corresponds (.ok outcomes) (.ok outcomes')
  | kept {fault fault' : Fault} (rephrases : fault.Rephrases fault')
      (same : fault.publicMessage false = fault'.publicMessage false) : Corresponds (.error fault) (.error fault')
  /-- A handle was not opened, and what is said outside ends with the words of the engine. -/
  | unopened (kind : EngineKind) (words words' : String) :
      Corresponds (.error (.report (openingReport kind words))) (.error (.report (openingReport kind words')))

theorem corresponds_of_seen {result result' : Except Fault (List Job.Outcome)}
    (same : seen Fault.Rephrases (fun _ => "") result = seen Fault.Rephrases (fun _ => "") result') :
    Corresponds result result' := by
  rcases result with fault | outcomes
  · rcases result' with fault' | outcomes'
    · have rephrases : fault.Rephrases fault' := Fault.Rephrases.class_eq_iff.mp (Except.error.inj same)
      obtain said | ⟨kind, words, words', rfl, rfl⟩ := rephrases.publicMessage
      · exact .kept rephrases said
      · exact .unopened kind words words'
    · cases same
  · rcases result' with fault' | outcomes'
    · cases same
    · exact .ended (Except.ok.inj same)

/-- Two engines that only put their complaints in other words, wherever they complain, are told apart outside by
nothing but reports on handles that were not opened. Everything else is the same in every program, whether errors are
exposed or not: the same requests, the same results but for the words of failures in them, and faults about which the
same is said. -/
theorem performAll_corresponds {db : Database σ} {other : Driver τ}
    (concurs : db.driver.Concurs related EngineFault.unworded EngineFault.unworded Eq other) (errands : List Errand)
    {s : Session σ} {t : Session τ} (same : Resembles related id Notice.unworded s t) :
    let first := performAll db errands s
    let second := performAll (db.on other) errands t
    List.Forall₂ Corresponds first.1 second.1 ∧ Resembles related id Notice.unworded first.2 second.2 := by
  have acts (now : Moment) : ({ db with now } : Database σ).ActsAlike { db.on other with now }
      (Resembles related id Notice.unworded) Fault.Rephrases fun _ => "" :=
    Database.actsAlike_rephrases concurs
  obtain ⟨results, after⟩ := performAll_couples acts errands same
  rw [← List.forall₂_eq_eq_eq, List.forall₂_map_left_iff, List.forall₂_map_right_iff] at results
  exact ⟨results.imp fun _ _ seen => corresponds_of_seen seen, after⟩

/-- An engine that opens its handle at the second attempt only and refuses every statement, in words of its own. -/
def balky (words : String) : Driver Bool where
  connect tried := (if tried then .ok () else .error ⟨.operational, words⟩, true)
  setup _ tried := (.ok (), tried)
  openCursor _ tried := (.ok (), tried)
  execute _ _ tried := (.error ⟨.operational, words⟩, tried)
  fetchAll tried := (.ok [], tried)
  commit tried := (.ok (), tried)
  rollback tried := tried

theorem balky_concurs (words others : String) :
    (balky words).Concurs Eq EngineFault.unworded EngineFault.unworded Eq (balky others) where
  connect := by
    rintro tried _ rfl
    cases tried <;> exact ⟨rfl, rfl⟩
  setup _ _ _ same := ⟨rfl, same⟩
  openCursor _ _ _ same := ⟨rfl, same⟩
  execute _ _ _ _ _ _ same := ⟨rfl, same⟩
  fetchAll _ _ same := ⟨rfl, same⟩
  commit _ _ same := ⟨rfl, same⟩
  rollback _ _ same := same

/-- A handle that is not opened, a statement that is refused, and a table that is not made. -/
theorem performAll_corresponds_balky :
    let now : Moment := ⟨⟨2025, 1, 1⟩, ⟨0, 0, 0, 0, none⟩⟩
    let db : Database Bool :=
      { kind := .sqlite, config := {}, exposeErrors := .bool true, now, driver := balky "unable to open database file" }
    let other : Driver Bool := balky "disk I/O error"
    let select : Errand := .job now (.database (.call { name := "query", args := [.text "SELECT secret FROM users"] }))
    let errands : List Errand := [.within now [select], select, .job now .ensureLedger]
    let s : Session Bool := { engine := false }
    let first := performAll db errands s
    let second := performAll (db.on other) errands s
    db.driver.Concurs Eq EngineFault.unworded EngineFault.unworded Eq other ∧ Resembles Eq id Notice.unworded s s ∧
      List.Forall₂ Corresponds first.1 second.1 ∧ Resembles Eq id Notice.unworded first.2 second.2 := by
  intro now db other select errands s
  have concurs : db.driver.Concurs Eq EngineFault.unworded EngineFault.unworded Eq other := balky_concurs _ _
  have same : Resembles Eq id Notice.unworded s s := ⟨rfl, rfl, rfl, rfl, rfl, rfl⟩
  clear_value db other errands s
  exact ⟨concurs, same, performAll_corresponds concurs errands same⟩

/-- What the engine says when it opens no handle is told outside. -/
theorem unopened_told :
    let now : Moment := ⟨⟨2025, 1, 1⟩, ⟨0, 0, 0, 0, none⟩⟩
    let db : Database Bool := { kind := .sqlite, config := {}, now, driver := balky "unable to open database file" }
    let other : Driver Bool := balky "disk I/O error"
    let s : Session Bool := { engine := false }
    db.driver.Concurs Eq EngineFault.unworded EngineFault.unworded Eq other ∧ ∃ report report',
      (performAll db [.within now []] s).1 = [.error (.report report)] ∧
        (performAll (db.on other) [.within now []] s).1 = [.error (.report report')] ∧
          report.publicMessage false ≠ report'.publicMessage false := by
  refine ⟨balky_concurs _ _, openingReport .sqlite "unable to open database file", openingReport .sqlite "disk I/O error",
    rfl, rfl, ?_⟩
  rw [Ne, publicMessage_openingReport_inj]
  decide

end Script.Errand
end DataLayer
