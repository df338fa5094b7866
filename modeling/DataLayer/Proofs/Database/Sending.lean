import DataLayer.Proofs.Database.Access
import DataLayer.Proofs.Database.Course

/-! What reaches an engine of a query and of the description of a table. They are checked and compiled as a
whole before the engine is asked for anything; main statement: what cannot be compiled fails without a trace in
the session, an alteration without content sends nothing, and every other statement is sent once and as it was
compiled, as soon as there is a cursor for it. -/

namespace DataLayer

open DataLayer.Action

variable {σ α β : Type} {db : Database σ} {s : Session σ}

/-- Holds of the reports that a query or a description is malformed. -/
def Fault.IsValidation : Fault → Prop
  | .report r => r.kind = .malformedQuery ∨ r.kind = .schema
  | _ => False

/-- Holds of work that does not fail with the report that something is malformed. -/
def Action.Unvalidated (work : Action σ α) : Prop :=
  ∀ s fault, (on work s).1 = .error fault → ¬ fault.IsValidation

namespace Action

theorem unvalidated_bind {work : Action σ α} {next : α → Action σ β} (first : Unvalidated work)
    (rest : ∀ value, Unvalidated (next value)) : Unvalidated (work >>= next) := by
  intro s fault failed
  have begun := first s
  rw [on_bind] at failed
  generalize on work s = ended at begun failed
  rcases ended with ⟨refused | value, t⟩
  · cases failed
    exact begun fault rfl
  · exact rest value t fault failed

theorem unvalidated_fail {fault : Fault} (other : ¬ fault.IsValidation) :
    Unvalidated (fail fault : Action σ α) := by
  rintro s _ ⟨⟩
  exact other

theorem unvalidated_check (result : Except Misuse α) : Unvalidated (check result : Action σ α) := by
  intro s fault failed
  rw [on_check] at failed
  cases result with
  | ok value => cases failed
  | error misuse =>
    cases failed
    exact not_false

theorem unvalidated_ofState (work : StateM (Session σ) α) : Unvalidated (ofState work) := by
  intro s fault failed
  rw [on_ofState] at failed
  cases failed

theorem unvalidated_get : Unvalidated (get : Action σ (Session σ)) := by
  intro s fault failed
  rw [on_get] at failed
  cases failed

theorem unvalidated_modify (change : Session σ → Session σ) : Unvalidated (modify change : Action σ Unit) := by
  intro s fault failed
  rw [on_modify] at failed
  cases failed

theorem unvalidated_pure (value : α) : Unvalidated (pure value : Action σ α) := by
  intro s fault failed
  rw [on_pure] at failed
  cases failed

end Action

namespace Database

theorem zoneOffset_unvalidated {zone : Value} {moment : Int} {fault : Fault}
    (failed : zoneOffset zone moment = .error fault) : ¬ fault.IsValidation := by
  unfold zoneOffset at failed
  split at failed
  · split at failed
    · split at failed <;> cases failed <;> simp [Fault.IsValidation]
    · cases failed
      exact not_false
  · split at failed
    case h_6 clock found =>
      dsimp only at failed
      split at failed <;> cases failed
      exact not_false
    all_goals
      cases failed
      simp [Fault.IsValidation]

theorem connectionFailed_unvalidated (engine : String) (complaint : EngineFault) :
    Unvalidated (connectionFailed engine complaint : Action σ α) := by
  unfold connectionFailed
  split
  · exact unvalidated_fail (by simp [Fault.IsValidation])
  · exact unvalidated_fail not_false

theorem connect_unvalidated (db : Database σ) : Unvalidated (connect db) := by
  have noted (notice : Notice) : Unvalidated (Action.note notice : Action σ Unit) := unvalidated_ofState _
  unfold connect
  refine unvalidated_bind unvalidated_get fun s => ?_
  split
  · exact unvalidated_pure _
  · cases db.kind with
    | sqlite =>
      refine unvalidated_bind (unvalidated_check _) fun locator => ?_
      refine unvalidated_bind (unvalidated_ofState _) fun opened => ?_
      cases opened with
      | error complaint => exact connectionFailed_unvalidated _ _
      | ok nothing =>
        refine unvalidated_bind (unvalidated_modify _) fun _ => ?_
        refine unvalidated_bind (unvalidated_ofState _) fun prepared => ?_
        cases prepared with
        | error complaint => exact connectionFailed_unvalidated _ _
        | ok nothing => exact unvalidated_bind (unvalidated_modify _) fun _ => noted _
    | mysql =>
      unfold connectServer
      refine unvalidated_bind (fun s fault failed => ?_) fun offset => ?_
      · rw [on_ofExcept] at failed
        exact zoneOffset_unvalidated failed
      · dsimp only
        split
        · exact unvalidated_fail not_false
        · refine unvalidated_bind (unvalidated_ofState _) fun opened => ?_
          cases opened with
          | error complaint => exact connectionFailed_unvalidated _ _
          | ok nothing =>
            refine unvalidated_bind (unvalidated_modify _) fun _ => ?_
            refine unvalidated_bind (unvalidated_ofState _) fun prepared => ?_
            cases prepared with
            | error complaint =>
              dsimp only
              split
              · exact unvalidated_bind (unvalidated_ofState _) fun _ => connectionFailed_unvalidated _ _
              · exact connectionFailed_unvalidated _ _
            | ok nothing => exact unvalidated_bind (unvalidated_modify _) fun _ => noted _

theorem run_unvalidated (db : Database σ) (sql : Value) (params : List Value) : Unvalidated (run db sql params) := by
  intro s fault failed
  have runs := run_runs db sql params s
  generalize Action.on (run db sql params) s = ended at runs failed
  cases runs with
  | unopened opening =>
    rw [on_ensureHandle] at opening
    cases failed
    exact connect_unvalidated db s fault (congrArg Prod.fst opening)
  | refused opening cursor =>
    cases failed
    exact not_false
  | @performed opened ready after result events opening cursor performs =>
    cases result with
    | ok statement => cases failed
    | error complaint =>
      unfold conclude at failed
      dsimp only at failed
      split at failed
      · cases failed
        unfold Fault.IsValidation statementReport
        dsimp only
        split <;> simp
      · cases failed
        exact not_false

end Database

open Database

/-- What work sends whose statement is compiled first, in the session that is ready for it. -/
structure SendsAs (db : Database σ) (compiled : Except Fault (Option (Value × List Value))) (ready : Session σ)
    (work : Action σ α) (s : Session σ) : Prop where
  /-- What does not compile fails with the fault of compiling it, and nothing happens. -/
  refused : ∀ fault, compiled = .error fault → on work s = (.error fault, s)
  nothing : compiled = .ok none → (on work s).2.events = s.events
  once : ∀ sql params, compiled = .ok (some (sql, params)) →
    ∃ new, (on work s).2.events = s.events ++ new ∧
      (db.Admits params ready → executions new = [(sql, params)]) ∧
      (¬ db.Admits params ready → executions new = [])
  /-- Nothing else fails with the report that something is malformed. -/
  reported : ∀ fault, (on work s).1 = .error fault → fault.IsValidation → compiled = .error fault

/-- Work that goes on only with what was compiled, and then runs the statement of that. -/
theorem sendsAs_bind {compiled : Except Fault β} {next : β → Action σ α} {sends : β → Option (Value × List Value)}
    {ready : Session σ} (same : ready.events = s.events)
    (silent : ∀ value, compiled = .ok value → sends value = none → (on (next value) s).2.events = s.events)
    (ran : ∀ value sql params, compiled = .ok value → sends value = some (sql, params) →
      (on (next value) s).2.events = (on (db.run sql params) ready).2.events)
    (unvalidated : ∀ value, Unvalidated (next value)) :
    SendsAs db (compiled.map sends) ready (Action.ofExcept compiled >>= next) s := by
  have started := on_bind (Action.ofExcept compiled) next s
  rw [on_ofExcept] at started
  cases compiled with
  | error fault =>
    refine { refused := ?_, nothing := nofun, once := nofun, reported := ?_ }
    · rintro _ ⟨⟩
      exact started
    · intro other failed validation
      rw [started] at failed
      cases failed
      rfl
  | ok value =>
    have goes : on (Action.ofExcept (.ok value) >>= next) s = on (next value) s := started
    refine { refused := nofun, nothing := ?_, once := ?_, reported := ?_ }
    · intro none
      rw [goes]
      exact silent value rfl (Except.ok.inj none)
    · intro sql params sent
      obtain ⟨new, grown, admitted, unadmitted⟩ := run_sends db sql params ready
      refine ⟨new, ?_, admitted, fun refused => (unadmitted refused).1⟩
      rw [goes, ran value sql params rfl (Except.ok.inj sent), grown, same]
    · intro fault failed validation
      rw [goes] at failed
      exact absurd validation (unvalidated value s fault failed)

namespace Access

theorem announced_events (access : Access) (s : Session σ) : (access.announced s).events = s.events := by
  unfold announced
  split
  · split <;> rfl
  · rfl

/-- The end of a query sends the statement that it compiles to. -/
theorem finish_sends (db : Database σ) (q : Query) (terminal : Query.Terminal) (s : Session σ) :
    SendsAs db ((finish q terminal).statement db) ((finish q terminal).announced s) (q.finish db terminal) s := by
  rw [Query.finish_eq]
  refine sendsAs_bind (announced_events _ s) (fun _ _ none => by cases none) ?_ fun prepared => ?_
  · intro prepared sql params compiled sent
    cases sent
    rw [on_bind, on_send db compiled]
    rcases on (db.run (.text prepared.sql) prepared.params) _ with ⟨fault | outcome, t⟩
    · rfl
    · exact congrArg Session.events (Query.on_ended terminal outcome t)
  · refine unvalidated_bind ?_ fun outcome => ?_
    · unfold Query.send
      split
      · exact unvalidated_bind (unvalidated_ofState _) fun _ => run_unvalidated _ _ _
      · exact run_unvalidated _ _ _
    · cases terminal with
      | «exists» => exact unvalidated_bind (unvalidated_check _) fun _ => unvalidated_pure _
      | _ => exact unvalidated_pure _

/-- A description of a table sends the statement that it compiles to, and returns it. -/
theorem applyBlueprint_sends (db : Database σ) (table : Value) (isCreate : Bool) (describe : Schema.Describe)
    (s : Session σ) :
    SendsAs db
      ((Schema.compile db.dialect table isCreate describe).map (Option.map fun sql => (.text sql, []))) s
      (Schema.applyBlueprint db table isCreate describe) s := by
  unfold Schema.applyBlueprint
  refine sendsAs_bind rfl ?_ ?_ fun sql? => ?_
  · rintro (_ | sql) - silent
    · rfl
    · cases silent
  · intro sql? _ _ compiled sent
    cases sql? with
    | none => cases sent
    | some sql => ?_
    cases sent
    simp only [on_bind, on_change (compile_startsWithWord compiled)]
    rcases on (db.run (.text sql) []) s with ⟨fault | outcome, t⟩ <;> rfl
  · cases sql? with
    | none => exact unvalidated_bind (unvalidated_ofState _) fun _ => unvalidated_pure _
    | some sql =>
      refine unvalidated_bind (unvalidated_bind (unvalidated_bind (run_unvalidated _ _ _) fun outcome => ?_)
        fun _ => unvalidated_pure _) fun _ => unvalidated_pure _
      exact unvalidated_bind (unvalidated_check _) fun _ => unvalidated_pure _

theorem applyBlueprint_returns {table : Value} {isCreate : Bool} {describe : Schema.Describe} {sql? : Option String}
    (succeeds : (on (Schema.applyBlueprint db table isCreate describe) s).1 = .ok sql?) :
    Schema.compile db.dialect table isCreate describe = .ok sql? := by
  rw [on_applyBlueprint] at succeeds
  rcases compiled : Schema.compile db.dialect table isCreate describe with fault | _ | sql
  · rw [compiled] at succeeds
    cases succeeds
  · rw [compiled] at succeeds
    cases succeeds
    rfl
  · rw [compiled] at succeeds
    dsimp only at succeeds
    generalize (on (db.run (.text sql) []) s).1 = ended at succeeds
    rcases ended with fault | outcome
    · cases succeeds
    · cases succeeds
      rfl

end Access
end DataLayer
