import DataLayer.Proofs.Database.Opening
import DataLayer.Proofs.Query.Terminal
import DataLayer.Script.Database

/-! The sessions that a script passes through, one after every step, steps inside blocks among them. All
that a step does to a session is opening and closing its connection, running statements, and logging;
main statement: what these stay within, every session on the way stays within. -/

namespace DataLayer

variable {σ α : Type} {db : Database σ} {relation : Session σ → Session σ → Prop}

namespace Database

open DataLayer.Action (moves_bind moves_pure moves_check moves_fail moves_ofExcept moves_ofState moves_get)

/-- A relation that everything stays within which a step can do to a session. -/
structure Serves (db : Database σ) (relation : Session σ → Session σ → Prop) : Prop where
  connect : Action.Moves relation (connect db)
  disconnect : Action.Moves relation (disconnect db)
  run : ∀ sql params, Action.Moves relation (run db sql params)
  noted : ∀ (s : Session σ) notice, relation s (s.noted notice)

theorem Serves.ensureHandle (serves : Serves db relation) : Action.Moves relation (ensureHandle db) := by
  intro s
  rw [on_ensureHandle]
  exact serves.connect s

/-- A block opens the connection, and closes it whatever becomes of the work inside. -/
theorem on_within (db : Database σ) (work : Action σ α) (s : Session σ) :
    Action.on (within db work) s = match Action.on (connect db) s with
      | (.ok (), opened) => ((Action.on work opened).1, (Action.on (disconnect db) (Action.on work opened).2).2)
      | (.error fault, after) => (.error fault, after) := by
  unfold within
  rw [Action.on_bind]
  rcases Action.on (connect db) s with ⟨fault | nothing, opened⟩
  · rfl
  · have closes (t : Session σ) : ((disconnect db).run t).1 = .ok () := by
      change (Action.on (disconnect db) t).1 = .ok ()
      rw [on_disconnect]
      split
      · rfl
      · split <;> rfl
    dsimp only
    rw [Action.on_mk]
    simp only [Session.bind_apply, closes]
    rfl

variable [Progress relation]

theorem Serves.query (serves : Serves db relation) (sql : Value) (params : List Value) :
    Action.Moves relation (query db sql params) :=
  moves_bind (serves.run sql params) fun _ => moves_pure _

theorem Serves.queryOne (serves : Serves db relation) (sql : Value) (params : List Value) :
    Action.Moves relation (queryOne db sql params) :=
  moves_bind (serves.query sql params) fun _ => moves_pure _

theorem Serves.execute (serves : Serves db relation) (sql : Value) (params : List Value) :
    Action.Moves relation (execute db sql params) :=
  moves_bind (serves.run sql params) fun _ => moves_bind (moves_check _) fun _ => moves_pure _

theorem Serves.within (serves : Serves db relation) {work : Action σ α} (moves : Action.Moves relation work) :
    Action.Moves relation (within db work) := by
  intro s
  have opening := serves.connect s
  rw [on_within]
  rcases ended : Action.on (Database.connect db) s with ⟨fault | nothing, opened⟩
  · rwa [ended] at opening
  · rw [ended] at opening
    exact Progress.trans opening (Progress.trans (moves opened) (serves.disconnect _))

end Database

open DataLayer.Action DataLayer.Database

section

variable [Progress relation]

theorem Query.finish_moves (serves : Serves db relation) (q : Query) (terminal : Query.Terminal) :
    Action.Moves relation (q.finish db terminal) := by
  have sent (prepared : Prepared) : Action.Moves relation (send db q prepared) := by
    have ran := serves.run (.text prepared.sql) prepared.params
    unfold send
    cases prepared.unscoped with
    | none => exact ran
    | some operation => exact moves_bind (moves_note fun s => serves.noted s _) fun _ => ran
  have read (statement : Statement) : Action.Moves relation (ended terminal statement) := by
    intro s
    rw [on_ended]
    exact Progress.refl s
  rw [finish_eq]
  exact moves_bind (moves_ofExcept _) fun prepared => moves_bind (sent prepared) read

namespace Script

theorem QueryStep.performCall_moves (serves : Serves db relation) (q : Query) (call : Call) :
    Session.Moves relation (QueryStep.performCall db q call) := by
  unfold QueryStep.performCall
  cases QueryStep.ofCall call with
  | error misuse => exact Session.moves_pure _
  | ok step =>
    cases step with
    | terminal ending =>
      have finished : Session.Moves relation (q.finish db ending).run := Query.finish_moves serves q ending
      exact Session.moves_bind finished fun _ => Session.moves_pure _
    | _ => exact Session.moves_pure _

theorem QueryStep.performChain_moves (serves : Serves db relation) (q : Query) (reply : Reply) (calls : List Call) :
    Action.Moves relation (QueryStep.performChain db q reply calls) := by
  induction calls generalizing q reply with
  | nil => exact moves_pure _
  | cons call rest ih =>
    refine moves_bind (moves_ofState (performCall_moves serves q call)) fun result => ?_
    exact moves_bind (moves_ofExcept _) fun reply => ih _ reply

namespace DatabaseStep

theorem runWith_moves (serves : Serves db relation) {call : Call} {use : Value → List Value → Action σ α}
    (uses : ∀ sql params, Action.Moves relation (use sql params)) : Action.Moves relation (runWith db call use) := by
  refine moves_bind (moves_check _) fun bound => ?_
  refine moves_bind serves.ensureHandle fun _ => ?_
  exact moves_bind (moves_check _) fun params => uses _ params

theorem performCall_moves (serves : Serves db relation) (call : Call) :
    Action.Moves relation (performCall db call) := by
  unfold performCall
  dsimp only
  split
  · exact moves_bind (moves_check _) fun _ => moves_bind serves.connect fun _ => moves_pure _
  · exact moves_bind (moves_check _) fun _ => moves_bind serves.disconnect fun _ => moves_pure _
  · exact moves_bind (moves_check _) fun _ => moves_bind serves.ensureHandle fun _ => moves_pure _
  · exact moves_bind (moves_check _) fun _ => moves_bind (moves_ofExcept _) fun _ => moves_pure _
  · exact moves_fail _
  · exact moves_bind (runWith_moves serves serves.run) fun _ => moves_pure _
  · exact moves_bind (runWith_moves serves serves.query) fun _ => moves_pure _
  · exact moves_bind (runWith_moves serves serves.queryOne) fun _ => moves_pure _
  · exact moves_bind (runWith_moves serves serves.execute) fun _ => moves_pure _
  · exact moves_bind moves_get fun _ => moves_pure _
  · exact moves_pure _
  · exact moves_pure _
  · exact moves_pure _
  · exact moves_pure _
  · exact moves_bind serves.ensureHandle fun _ => moves_bind moves_get fun _ => moves_pure _
  · exact moves_fail _

mutual

/-- What everything stays within that a step can do, the step stays within. -/
theorem perform_moves (serves : Serves db relation) (step : DatabaseStep) :
    Action.Moves relation (perform db step) := by
  match step with
  | .call request => exact performCall_moves serves request
  | .chain table calls =>
    exact moves_bind (moves_ofExcept _) fun q => QueryStep.performChain_moves serves q _ calls
  | .within steps => exact serves.within (moves_bind (performAll_moves serves steps) fun _ => moves_pure _)
  | .raise name message => exact moves_fail _

theorem performAll_moves (serves : Serves db relation) (steps : List DatabaseStep) :
    Action.Moves relation (performAll db steps) := by
  match steps with
  | [] => exact moves_pure _
  | step :: rest =>
    refine moves_bind (perform_moves serves step) fun reply => ?_
    exact moves_bind (performAll_moves serves rest) fun replies => moves_pure _

end

end DatabaseStep
end Script

end

namespace Script.DatabaseStep

mutual

/-- The sessions that a step leads through: the one in which it ends, and before it, for a block that
opens its connection, the one in which the work starts and those that the work leads through. -/
def visits (db : Database σ) : DatabaseStep → Session σ → List (Session σ)
  | .within steps, s =>
    let inside := match Action.on (Database.connect db) s with
      | (.ok (), opened) => opened :: visitsAll db steps opened
      | (.error _, _) => []
    inside ++ [(Action.on (perform db (.within steps)) s).2]
  | step, s => [(Action.on (perform db step) s).2]

/-- The sessions that steps in a row lead through, up to the first one that fails. -/
def visitsAll (db : Database σ) : List DatabaseStep → Session σ → List (Session σ)
  | [], _ => []
  | step :: rest, s => visits db step s ++ match Action.on (perform db step) s with
    | (.ok _, after) => visitsAll db rest after
    | (.error _, _) => []

end

/-- The sessions that a script leads through. Its steps are taken one after the other, each at a time of
its own, whether those before it failed or not. -/
def passes (db : Database σ) : List (Moment × DatabaseStep) → Session σ → List (Session σ)
  | [], _ => []
  | (now, step) :: rest, s =>
    visits { db with now } step s ++ passes db rest (Action.on (perform { db with now } step) s).2

/-- A step ends in one of its sessions. -/
theorem visits_end (db : Database σ) (step : DatabaseStep) (s : Session σ) :
    (Action.on (perform db step) s).2 ∈ visits db step s := by
  cases step with
  | within steps => exact List.mem_append_right _ (List.mem_singleton_self _)
  | call request => exact List.mem_singleton_self _
  | chain table calls => exact List.mem_singleton_self _
  | raise name message => exact List.mem_singleton_self _

/-- The session after the first step of a script is passed, and so is every later one. -/
theorem passes_first (db : Database σ) (now : Moment) (step : DatabaseStep) (rest : List (Moment × DatabaseStep))
    (s : Session σ) : (Action.on (perform { db with now } step) s).2 ∈ passes db ((now, step) :: rest) s :=
  List.mem_append_left _ (visits_end _ _ _)

theorem passes_later (db : Database σ) (now : Moment) (step : DatabaseStep) {rest : List (Moment × DatabaseStep)}
    {s t : Session σ} (later : t ∈ passes db rest (Action.on (perform { db with now } step) s).2) :
    t ∈ passes db ((now, step) :: rest) s :=
  List.mem_append_right _ later

variable [Progress relation]

mutual

theorem visits_moves (serves : Serves db relation) (step : DatabaseStep) {s t : Session σ}
    (visited : t ∈ visits db step s) : relation s t := by
  have moves := perform_moves serves step s
  match step with
  | .within steps =>
    rw [visits, List.mem_append, List.mem_singleton] at visited
    rcases visited with inside | rfl
    · have opening := serves.connect s
      rcases ended : Action.on (Database.connect db) s with ⟨fault | nothing, opened⟩
      · rw [ended] at inside
        cases inside
      · rw [ended] at inside opening
        rcases List.mem_cons.mp inside with rfl | inner
        · exact opening
        · exact Progress.trans opening (visitsAll_moves serves steps inner)
    · exact moves
  | .call request => exact List.mem_singleton.mp visited ▸ moves
  | .chain table calls => exact List.mem_singleton.mp visited ▸ moves
  | .raise name message => exact List.mem_singleton.mp visited ▸ moves

theorem visitsAll_moves (serves : Serves db relation) (steps : List DatabaseStep) {s t : Session σ}
    (visited : t ∈ visitsAll db steps s) : relation s t := by
  match steps with
  | [] => cases visited
  | step :: rest =>
    have moves := perform_moves serves step s
    rw [visitsAll, List.mem_append] at visited
    rcases visited with first | later
    · exact visits_moves serves step first
    · rcases ended : Action.on (perform db step) s with ⟨fault | reply, after⟩
      · rw [ended] at later
        cases later
      · rw [ended] at later moves
        exact Progress.trans moves (visitsAll_moves serves rest later)

end

/-- What everything stays within that a step can do at any time, every session on the way stays within. -/
theorem passes_moves (serves : ∀ now, Serves { db with now } relation) (script : List (Moment × DatabaseStep))
    {s t : Session σ} (passed : t ∈ passes db script s) : relation s t := by
  induction script generalizing s with
  | nil => cases passed
  | cons timed rest ih =>
    obtain ⟨now, step⟩ := timed
    rcases List.mem_append.mp passed with first | later
    · exact visits_moves (serves now) step first
    · exact Progress.trans (perform_moves (serves now) step s) (ih later)

/-- What every such step keeps holds of every session on the way once it holds of the first. -/
theorem passes_keeps {property : Session σ → Prop} (serves : ∀ now, Serves { db with now } (Keeps property))
    (script : List (Moment × DatabaseStep)) {s t : Session σ} (holds : property s) (passed : t ∈ s :: passes db script s) :
    property t := by
  rcases List.mem_cons.mp passed with rfl | later
  · exact holds
  · exact passes_moves serves script later holds

end Script.DatabaseStep

end DataLayer
