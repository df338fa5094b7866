import DataLayer.Session

/-! What work does to a session: one equation for each way of putting work together, and the
argument that a relation between sessions which every single step stays within also holds between
the beginning and the end of the whole. -/

namespace DataLayer

variable {σ τ ε α β : Type}

namespace Session

/-- The session after the engine saw some more events. -/
def past (s : Session σ) (events : List EngineEvent) (engine : σ) : Session σ :=
  { s with engine, events := s.events ++ events }

/-- The session after a notice was logged. -/
def noted (s : Session σ) (notice : Notice) : Session σ :=
  { s with log := s.log ++ [⟨notice, s.context⟩] }

theorem past_past (s : Session σ) (events more : List EngineEvent) (engine after : σ) :
    (s.past events engine).past more after = s.past (events ++ more) after := by
  simp only [past, List.append_assoc]

theorem send_apply (event : EngineEvent) (request : σ → α × σ) (s : Session σ) :
    send event request s = ((request s.engine).1, s.past [event] (request s.engine).2) := rfl

theorem bind_apply (work : StateM (Session σ) α) (next : α → StateM (Session σ) β) (s : Session σ) :
    (work >>= next) s = next (work s).1 (work s).2 := rfl

theorem pure_apply (value : α) (s : Session σ) : (pure value : StateM (Session σ) α) s = (value, s) := rfl

theorem record_apply (event : EngineEvent) (s : Session σ) : record event s = ((), s.past [event] s.engine) := rfl

end Session

namespace Action

/-- What some work ends with, and the state after it. -/
def on (work : ExceptT ε (StateM σ) α) (s : σ) : Except ε α × σ := work.run s

theorem on_pure (value : α) (s : σ) : on (pure value : ExceptT ε (StateM σ) α) s = (.ok value, s) := rfl

theorem on_mk (work : StateM σ (Except ε α)) (s : σ) : on (ExceptT.mk work) s = work s := rfl

theorem on_bind (work : ExceptT ε (StateM σ) α) (next : α → ExceptT ε (StateM σ) β) (s : σ) :
    on (work >>= next) s = match on work s with
      | (.ok value, after) => on (next value) after
      | (.error fault, after) => (.error fault, after) := by
  change (work.run >>= ExceptT.bindCont next : StateM σ _) s = _
  change ExceptT.bindCont next (work.run s).1 (work.run s).2 = _
  unfold on
  rcases work.run s with ⟨result, after⟩
  cases result <;> rfl

theorem on_ofState (work : StateM (Session σ) α) (s : Session σ) :
    on (ofState work) s = (.ok (work s).1, (work s).2) := rfl

theorem on_ofExcept (result : Except Fault α) (s : Session σ) : on (ofExcept result) s = (result, s) := by
  cases result <;> rfl

theorem on_check (result : Except Misuse α) (s : Session σ) :
    on (check result) s = (result.mapError Fault.misuse, s) := by
  cases result <;> rfl

theorem on_check_ok (value : α) (s : Session σ) : on (check (.ok value) : Action σ α) s = (.ok value, s) := rfl

theorem on_get (s : Session σ) : on (get : Action σ (Session σ)) s = (.ok s, s) := rfl

theorem on_modify (change : Session σ → Session σ) (s : Session σ) :
    on (modify change : Action σ Unit) s = (.ok (), change s) := rfl

theorem on_note (notice : Notice) (s : Session σ) : on (note notice) s = (.ok (), s.noted notice) := rfl

end Action

/-- A relation that holds between a state and itself, and along works in a row. -/
class Progress (relation : σ → σ → Prop) : Prop where
  refl : ∀ s, relation s s
  trans : ∀ {r s t}, relation r s → relation s t → relation r t

/-- A state that has a property leads to states that have it. -/
def Keeps (property : σ → Prop) (s t : σ) : Prop := property s → property t

instance (property : σ → Prop) : Progress (Keeps property) where
  refl _ holds := holds
  trans first second holds := second (first holds)

/-- However it ends, the work leads from a state to a related one. -/
def Action.Moves (relation : σ → σ → Prop) (work : ExceptT ε (StateM σ) α) : Prop :=
  ∀ s, relation s (Action.on work s).2

/-- Work that cannot fail leads from a state to a related one. -/
def Session.Moves (relation : σ → σ → Prop) (work : StateM σ α) : Prop :=
  ∀ s, relation s (work s).2

namespace Session

variable {relation : σ → σ → Prop}

theorem moves_pure [Progress relation] (value : α) : Moves relation (pure value : StateM σ α) :=
  fun s => Progress.refl s

theorem moves_bind [Progress relation] {work : StateM σ α} {next : α → StateM σ β}
    (first : Moves relation work) (rest : ∀ value, Moves relation (next value)) :
    Moves relation (work >>= next) :=
  fun s => Progress.trans (first s) (rest (work s).1 (work s).2)

end Session

namespace Action

section

variable {relation : σ → σ → Prop} {work : ExceptT ε (StateM σ) α}

/-- Work that ends early goes no further, so only the work that was done has to stay within. -/
theorem moves_bind [Progress relation] {next : α → ExceptT ε (StateM σ) β} (first : Moves relation work)
    (rest : ∀ value, Moves relation (next value)) : Moves relation (work >>= next) := by
  intro s
  have done := first s
  rw [on_bind]
  rcases ended : on work s with ⟨result, after⟩
  rw [ended] at done
  cases result with
  | error fault => exact done
  | ok value => exact Progress.trans done (rest value after)

theorem moves_pure [Progress relation] (value : α) : Moves relation (pure value : ExceptT ε (StateM σ) α) :=
  fun s => Progress.refl s

theorem moves_forM [Progress relation] {each : β → ExceptT ε (StateM σ) PUnit}
    (moves : ∀ item, Moves relation (each item)) (items : List β) : Moves relation (items.forM each) := by
  induction items with
  | nil => exact moves_pure _
  | cons item rest ih => exact moves_bind (moves item) fun _ => ih

end

variable {relation : Session σ → Session σ → Prop}

theorem moves_fail [Progress relation] (fault : Fault) : Moves relation (fail fault : Action σ α) :=
  fun s => Progress.refl s

theorem moves_refuse [Progress relation] (report : Report) : Moves relation (refuse report : Action σ α) :=
  fun s => Progress.refl s

theorem moves_ofExcept [Progress relation] (result : Except Fault α) :
    Moves relation (ofExcept result : Action σ α) := by
  intro s
  rw [on_ofExcept]
  exact Progress.refl s

theorem moves_check [Progress relation] (result : Except Misuse α) :
    Moves relation (check result : Action σ α) := by
  intro s
  rw [on_check]
  exact Progress.refl s

theorem moves_get [Progress relation] : Moves relation (get : Action σ (Session σ)) :=
  fun s => Progress.refl s

theorem moves_note {notice : Notice} (noted : ∀ s : Session σ, relation s (s.noted notice)) :
    Moves relation (note notice) :=
  noted

theorem moves_modify {change : Session σ → Session σ} (changed : ∀ s, relation s (change s)) :
    Moves relation (modify change : Action σ Unit) :=
  changed

theorem moves_ofState {work : StateM (Session σ) α} (moves : Session.Moves relation work) :
    Moves relation (ofState work) :=
  moves

end Action
end DataLayer
