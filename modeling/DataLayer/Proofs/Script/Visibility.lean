import DataLayer.Proofs.Database.Access
import DataLayer.Proofs.Database.Course
import DataLayer.Proofs.Script.Passage

/-! Failures that a handler sees. An engine and the library itself fail with nothing else; main statement: only a step
that raises such a fault itself lets one through that no handler sees. -/

namespace DataLayer

variable {σ α β : Type} {db : Database σ}

namespace Action

/-- Whatever some work fails with, a handler sees it. -/
def Visible (work : Action σ α) : Prop := ∀ ⦃s fault t⦄, on work s = (.error fault, t) → fault.escapes = false

theorem visible_bind {work : Action σ α} {next : α → Action σ β} (first : Visible work)
    (rest : ∀ value, Visible (next value)) : Visible (work >>= next) := by
  intro s fault t failed
  rw [on_bind] at failed
  rcases ended : on work s with ⟨other | value, u⟩
  · rw [ended] at failed
    cases failed
    exact first ended
  · rw [ended] at failed
    exact rest value failed

theorem visible_pure (value : α) : Visible (pure value : Action σ α) := by
  intro s fault t failed
  rw [on_pure] at failed
  cases failed

theorem visible_forM {each : β → Action σ PUnit} (visible : ∀ item, Visible (each item)) (items : List β) :
    Visible (items.forM each) := by
  induction items with
  | nil => exact visible_pure _
  | cons item rest ih => exact visible_bind (visible item) fun _ => ih

theorem visible_ofExcept {result : Except Fault α} (owned : Fault.Owned result) :
    Visible (ofExcept result : Action σ α) := by
  intro s fault t failed
  rw [on_ofExcept] at failed
  exact (owned fault (congrArg Prod.fst failed)).seen

theorem visible_check (result : Except Misuse α) : Visible (check result : Action σ α) := by
  intro s fault t failed
  cases result with
  | ok value => cases failed
  | error misuse =>
    cases failed
    rfl

theorem visible_misuse (misuse : Misuse) : Visible (fail (.misuse misuse) : Action σ α) := by
  rintro s fault t ⟨⟩
  rfl

theorem visible_note (notice : Notice) : Visible (note notice : Action σ Unit) := by
  intro s fault t failed
  rw [on_note] at failed
  cases failed

theorem visible_get : Visible (get : Action σ (Session σ)) := by
  intro s fault t failed
  rw [on_get] at failed
  cases failed

end Action

open DataLayer.Action DataLayer.Fault

namespace Database

theorem connect_visible (db : Database σ) : Visible (connect db) := by
  have told (complaint : EngineFault) : (openingFault db.kind complaint).escapes = false := by
    unfold openingFault
    split <;> rfl
  intro s fault t failed
  have connects := connect_connects db s
  rw [failed] at connects
  cases connects with
  | unasked free own => exact own.seen
  | refused => exact told _
  | abandoned => exact told _
  | halfway => exact told _

theorem ensureHandle_visible (db : Database σ) : Visible (ensureHandle db) := by
  intro s fault t failed
  rw [on_ensureHandle] at failed
  exact connect_visible db failed

/-- A statement fails with nothing that no handler sees. -/
theorem run_visible (db : Database σ) (sql : Value) (params : List Value) : Visible (run db sql params) := by
  intro s fault t failed
  have runs := run_runs db sql params s
  rw [failed] at runs
  generalize ended : ((.error fault, t) : Except Fault Statement × Session σ) = last at runs
  cases runs with
  | unopened opening =>
    cases ended
    exact ensureHandle_visible db opening
  | refused opening cursor =>
    cases ended
    rfl
  | @performed opened ready after result events opening cursor performs =>
    cases result with
    | ok statement => cases ended
    | error complaint =>
      unfold conclude at ended
      dsimp only at ended
      split at ended <;> cases ended <;> rfl

theorem disconnect_visible (db : Database σ) : Visible (disconnect db) := by
  intro s fault t failed
  rw [on_disconnect] at failed
  split at failed
  · cases failed
  · split at failed <;> cases failed

end Database

open DataLayer.Database

/-- A query that is not begun is told here why. -/
theorem Query.start_owned (table : Value) : Owned (Query.start table) := by
  unfold Query.start
  refine owned_bind (owned_lift _) fun blank => ?_
  split
  · exact owned_refuse _
  · exact owned_ok _

/-- A clause that is refused is told here why. -/
theorem Query.apply_owned (q : Query) (clause : Clause) : Owned (q.apply clause).1 := by
  have complained (misuse : Misuse) : Owned (.error (.misuse misuse) : Except Fault Unit) := owned_lift (.error misuse)
  cases clause with
  | select columns =>
    change Owned (q.select columns).1
    unfold Query.select
    cases selectionOf columns with
    | error misuse => exact complained misuse
    | ok selection =>
      dsimp only
      split
      · exact owned_refuse _
      · exact owned_ok _
  | join kind table condition =>
    change Owned (q.join kind table condition).1
    unfold Query.join
    cases kind.upperCase with
    | error misuse => exact complained misuse
    | ok kind => exact owned_ok _
  | fragment sql => exact owned_ok _
  | compare column operator value => exact owned_ok _
  | raw sql params =>
    change Owned (q.raw sql params).1
    unfold Query.raw
    dsimp only
    generalize params.elements = elements
    split
    · exact owned_refuse _
    · split
      · exact owned_refuse _
      · cases elements with
        | error misuse => exact complained misuse
        | ok values => exact owned_ok _
  | orderBy column direction =>
    change Owned (q.orderBy column direction).1
    unfold Query.orderBy
    cases direction.upperCase with
    | error misuse => exact complained misuse
    | ok direction =>
      dsimp only
      split
      · split
        · exact owned_ok _
        · exact owned_refuse _
      · exact owned_refuse _
  | limit count =>
    simp only [Query.apply]
    cases countOf? count with
    | none => exact owned_refuse _
    | some n => exact owned_ok _
  | offset count =>
    simp only [Query.apply]
    cases countOf? count with
    | none => exact owned_refuse _
    | some n => exact owned_ok _
  | reset => exact owned_ok _

theorem Query.finish_visible (db : Database σ) (q : Query) (terminal : Query.Terminal) : Visible (q.finish db terminal) := by
  have sent (prepared : Prepared) : Visible (Query.send db q prepared) := by
    unfold Query.send
    cases prepared.unscoped with
    | none => exact run_visible db _ _
    | some operation => exact visible_bind (visible_note _) fun _ => run_visible db _ _
  have read (statement : Statement) : Visible (Query.ended terminal statement : Action σ Query.Ending) := by
    cases terminal with
    | «exists» => exact visible_bind (visible_check _) fun _ => visible_pure _
    | _ => exact visible_pure _
  rw [Query.finish_eq]
  apply visible_bind
  · exact visible_ofExcept (Query.prepare_owned q terminal)
  · exact fun prepared => visible_bind (sent prepared) read

namespace Script

theorem QueryStep.performCall_owned {q : Query} {call : Call} {s : Session σ} {fault : Fault}
    (failed : (QueryStep.performCall db q call s).1.1 = .error fault) : fault.escapes = false := by
  unfold QueryStep.performCall at failed
  cases read : QueryStep.ofCall call with
  | error misuse =>
    rw [read] at failed
    cases failed
    rfl
  | ok step =>
    rw [read] at failed
    cases step with
    | clause change => exact (Query.apply_owned q change fault (map_eq_error.mp failed)).seen
    | terminal ending => exact Query.finish_visible db q ending (Prod.ext (map_eq_error.mp failed) rfl)
    | toSql => exact (owned_map (owned_lift q.toSql) _ fault failed).seen
    | params => cases failed
    | table => cases failed
    | summary => cases failed

theorem QueryStep.performChain_visible (db : Database σ) (q : Query) (reply : Reply) (calls : List Call) :
    Visible (QueryStep.performChain db q reply calls) := by
  induction calls generalizing q reply with
  | nil => exact visible_pure _
  | cons call rest ih =>
    intro s fault t failed
    unfold QueryStep.performChain at failed
    rw [on_bind, on_ofState] at failed
    dsimp only at failed
    rw [on_bind, on_ofExcept] at failed
    cases taken : (QueryStep.performCall db q call s).1.1 with
    | error other =>
      rw [taken] at failed
      cases failed
      exact QueryStep.performCall_owned taken
    | ok reply =>
      rw [taken] at failed
      exact ih _ reply failed

namespace DatabaseStep

theorem runWith_visible {call : Call} {use : Value → List Value → Action σ α}
    (uses : ∀ sql params, Visible (use sql params)) : Visible (runWith db call use) := by
  refine visible_bind (visible_check _) fun bound => ?_
  refine visible_bind (ensureHandle_visible db) fun _ => ?_
  exact visible_bind (visible_check _) fun params => uses _ params

theorem performCall_visible (db : Database σ) (call : Call) : Visible (performCall db call) := by
  have query (sql : Value) (params : List Value) : Visible (Database.query db sql params) :=
    visible_bind (run_visible db sql params) fun _ => visible_pure _
  have started (name : Value) : Visible (Action.ofExcept (Query.start name) : Action σ Query) :=
    visible_ofExcept (Query.start_owned name)
  unfold performCall
  dsimp only
  split
  · exact visible_bind (visible_check _) fun _ => visible_bind (connect_visible db) fun _ => visible_pure _
  · exact visible_bind (visible_check _) fun _ => visible_bind (disconnect_visible db) fun _ => visible_pure _
  · exact visible_bind (visible_check _) fun _ => visible_bind (ensureHandle_visible db) fun _ => visible_pure _
  · exact visible_bind (visible_check _) fun _ => visible_bind (started _) fun _ => visible_pure _
  · exact visible_misuse _
  · exact visible_bind (runWith_visible (run_visible db)) fun _ => visible_pure _
  · exact visible_bind (runWith_visible query) fun _ => visible_pure _
  · refine visible_bind (runWith_visible fun sql params => ?_) fun _ => visible_pure _
    exact visible_bind (query sql params) fun _ => visible_pure _
  · refine visible_bind (runWith_visible fun sql params => ?_) fun _ => visible_pure _
    refine visible_bind (run_visible db sql params) fun _ => ?_
    exact visible_bind (visible_check _) fun _ => visible_pure _
  · exact visible_bind visible_get fun _ => visible_pure _
  · exact visible_pure _
  · exact visible_pure _
  · exact visible_pure _
  · exact visible_pure _
  · exact visible_bind (ensureHandle_visible db) fun _ => visible_bind visible_get fun _ => visible_pure _
  · exact visible_misuse _

mutual

/-- Holds when a step that is taken from a session comes to raise something itself that no handler sees. -/
def quits (db : Database σ) : DatabaseStep → Session σ → Bool
  | .raise name message, _ => (Fault.raise name message).escapes
  | .within steps, s => match Action.on (Database.connect db) s with
    | (.ok (), opened) => quitsAll db steps opened
    | (.error _, _) => false
  | .call _, _ => false
  | .chain _ _, _ => false

/-- Holds when one of some steps in a row does, before any of them fails otherwise. -/
def quitsAll (db : Database σ) : List DatabaseStep → Session σ → Bool
  | [], _ => false
  | step :: rest, s => quits db step s || match Action.on (perform db step) s with
    | (.ok _, after) => quitsAll db rest after
    | (.error _, _) => false

end

theorem quitsAll_eq_false {steps : List DatabaseStep} (stays : ∀ step ∈ steps, ∀ s, quits db step s = false)
    (s : Session σ) : quitsAll db steps s = false := by
  induction steps generalizing s with
  | nil => rfl
  | cons step rest ih =>
    obtain ⟨first, later⟩ := List.forall_mem_cons.mp stays
    unfold quitsAll
    rw [first, Bool.false_or]
    split
    · exact ih later _
    · rfl

mutual

/-- A step that does not come to raise such a fault itself fails with nothing that no handler sees. -/
theorem perform_visible {step : DatabaseStep} {s t : Session σ} {fault : Fault} (stays : quits db step s = false)
    (failed : Action.on (perform db step) s = (.error fault, t)) : fault.escapes = false := by
  match step with
  | .call request => exact performCall_visible db request failed
  | .chain table calls =>
    refine visible_bind (visible_ofExcept (Query.start_owned table)) (fun q => ?_) failed
    exact QueryStep.performChain_visible db q _ calls
  | .within steps =>
    unfold perform at failed
    unfold quits at stays
    rw [on_within] at failed
    rcases opening : Action.on (connect db) s with ⟨other | nothing, opened⟩
    · rw [opening] at failed
      cases failed
      exact connect_visible db opening
    · rw [opening] at failed stays
      dsimp only at failed stays
      rw [on_bind] at failed
      rcases worked : Action.on (performAll db steps) opened with ⟨other | replies, after⟩
      · rw [worked] at failed
        cases failed
        exact performAll_visible stays worked
      · rw [worked] at failed
        cases failed
  | .raise name message =>
    cases failed
    exact stays

theorem performAll_visible {steps : List DatabaseStep} {s t : Session σ} {fault : Fault}
    (stays : quitsAll db steps s = false) (failed : Action.on (performAll db steps) s = (.error fault, t)) :
    fault.escapes = false := by
  match steps with
  | [] => cases failed
  | step :: rest =>
    unfold quitsAll at stays
    obtain ⟨first, later⟩ := Bool.or_eq_false_iff.mp stays
    unfold performAll at failed
    rw [on_bind] at failed
    rcases taken : Action.on (perform db step) s with ⟨other | reply, after⟩
    · rw [taken] at failed
      cases failed
      exact perform_visible first taken
    · rw [taken] at failed later
      dsimp only at failed later
      rw [on_bind] at failed
      rcases ended : Action.on (performAll db rest) after with ⟨other | replies, last⟩
      · rw [ended] at failed
        cases failed
        exact performAll_visible later ended
      · rw [ended] at failed
        cases failed

end

end DatabaseStep
end Script
end DataLayer
