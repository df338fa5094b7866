import DataLayer.Proofs.Session

/-! Two works side by side on two sessions. A relation between the sessions says what they have in common, and
what the works end with is compared as far as it is seen. Works are coupled when, from any two related sessions,
they show the same and leave the sessions related; works put together from coupled parts are coupled. -/

namespace DataLayer

variable {σ τ α β γ δ ε κ κ' : Type} {sessions : Session σ → Session τ → Prop}

namespace Session

/-- Works that show the same from any two related sessions, and leave them related. -/
def Couples (sessions : Session σ → Session τ → Prop) (seen : α → γ) (work : StateM (Session σ) α)
    (other : StateM (Session τ) α) : Prop :=
  ∀ ⦃s t⦄, sessions s t → seen (work s).1 = seen (other t).1 ∧ sessions (work s).2 (other t).2

theorem couples_pure {seen : α → γ} {value value' : α} (same : seen value = seen value') :
    Couples sessions seen (pure value) (pure value') :=
  fun _ _ related => ⟨same, related⟩

theorem couples_bind {seen : α → γ} {shown : β → δ} {work : StateM (Session σ) α} {other : StateM (Session τ) α}
    {next : α → StateM (Session σ) β} {otherNext : α → StateM (Session τ) β} (first : Couples sessions seen work other)
    (rest : ∀ ⦃value value'⦄, seen value = seen value' → Couples sessions shown (next value) (otherNext value')) :
    Couples sessions shown (work >>= next) (other >>= otherNext) := by
  intro s t related
  obtain ⟨same, after⟩ := first related
  exact rest same after

theorem couples_modify {change : Session σ → Session σ} {other : Session τ → Session τ}
    (changed : ∀ ⦃s t⦄, sessions s t → sessions (change s) (other t)) :
    Couples sessions id (modify change) (modify other) :=
  fun _ _ related => ⟨rfl, changed related⟩

end Session

namespace Action

/-- Works that end with the same value, or with faults that look the same, and leave two sessions related. -/
def Couples (sessions : Session σ → Session τ → Prop) (view : ε → κ) (work : ExceptT ε (StateM (Session σ)) α)
    (other : ExceptT ε (StateM (Session τ)) α) : Prop :=
  Session.Couples sessions (Except.mapError view) work.run other.run

/-- Works of which the same is seen, whether they end with values or with faults, and that leave two sessions related. -/
def Accords (sessions : Session σ → Session τ → Prop) (view : ε → κ) (seen : α → γ)
    (work : ExceptT ε (StateM (Session σ)) α) (other : ExceptT ε (StateM (Session τ)) α) : Prop :=
  Session.Couples sessions (fun result => (result.mapError view).map seen) work.run other.run

section

variable {view : ε → κ} {seen : α → γ} {shown : β → δ} {work : ExceptT ε (StateM (Session σ)) α}
  {other : ExceptT ε (StateM (Session τ)) α}

/-- Works whose faults have to be the same end with the same. -/
theorem Couples.same {work : ExceptT ε (StateM (Session σ)) α} (couples : Couples sessions id work other)
    {s : Session σ} {t : Session τ} (related : sessions s t) :
    (on work s).1 = (on other t).1 ∧ sessions (on work s).2 (on other t).2 := by
  have bare (result : Except ε α) : result.mapError id = result := by cases result <;> rfl
  obtain ⟨same, after⟩ := couples related
  rw [bare, bare] at same
  exact ⟨same, after⟩

theorem Couples.accords (couples : Couples sessions view work other) (seen : α → γ) :
    Accords sessions view seen work other := by
  intro s t related
  obtain ⟨same, after⟩ := couples related
  exact ⟨congrArg (Except.map seen) same, after⟩

/-- Where the whole value is seen, it is the same. -/
theorem Accords.couples (accords : Accords sessions view id work other) : Couples sessions view work other := by
  have whole (result : Except κ α) : result.map id = result := by cases result <;> rfl
  intro s t related
  obtain ⟨same, after⟩ := accords related
  exact ⟨(whole _).symm.trans (same.trans (whole _)), after⟩

theorem accords_pure {value value' : α} (same : seen value = seen value') :
    Accords sessions view seen (pure value : ExceptT ε (StateM (Session σ)) α) (pure value') :=
  fun _ _ related => ⟨congrArg Except.ok same, related⟩

theorem accords_bind {next : α → ExceptT ε (StateM (Session σ)) β} {otherNext : α → ExceptT ε (StateM (Session τ)) β}
    (first : Accords sessions view seen work other)
    (rest : ∀ ⦃value value'⦄, seen value = seen value' → Accords sessions view shown (next value) (otherNext value')) :
    Accords sessions view shown (work >>= next) (other >>= otherNext) := by
  intro s t related
  obtain ⟨same, after⟩ := first related
  change ((on (work >>= next) s).1.mapError view).map shown = ((on (other >>= otherNext) t).1.mapError view).map shown ∧
    sessions (on (work >>= next) s).2 (on (other >>= otherNext) t).2
  change ((on work s).1.mapError view).map seen = ((on other t).1.mapError view).map seen at same
  change sessions (on work s).2 (on other t).2 at after
  rw [on_bind, on_bind]
  generalize on work s = ended at same after ⊢
  generalize on other t = ended' at same after ⊢
  rcases ended with ⟨fault | value, s'⟩
  · rcases ended' with ⟨fault' | value', t'⟩
    · exact ⟨congrArg Except.error (Except.error.inj same), after⟩
    · cases same
  · rcases ended' with ⟨fault' | value', t'⟩
    · cases same
    · exact rest (Except.ok.inj same) after

/-- What is done with a value that is the same. -/
theorem Couples.then {next : α → ExceptT ε (StateM (Session σ)) β} {otherNext : α → ExceptT ε (StateM (Session τ)) β}
    (first : Couples sessions view work other) (rest : ∀ value, Accords sessions view shown (next value) (otherNext value)) :
    Accords sessions view shown (work >>= next) (other >>= otherNext) := by
  refine accords_bind (first.accords id) ?_
  rintro value _ rfl
  exact rest value

theorem couples_pure (value : α) :
    Couples sessions view (pure value : ExceptT ε (StateM (Session σ)) α) (pure value) :=
  fun _ _ related => ⟨rfl, related⟩

theorem couples_bind {next : α → ExceptT ε (StateM (Session σ)) β} {otherNext : α → ExceptT ε (StateM (Session τ)) β}
    (first : Couples sessions view work other)
    (rest : ∀ value, Couples sessions view (next value) (otherNext value)) :
    Couples sessions view (work >>= next) (other >>= otherNext) :=
  Accords.couples (first.then fun value => (rest value).accords id)

theorem couples_mk {work : StateM (Session σ) (Except ε α)} {other : StateM (Session τ) (Except ε α)}
    (couples : Session.Couples sessions (Except.mapError view) work other) :
    Couples sessions view (ExceptT.mk work) (ExceptT.mk other) :=
  couples

theorem accords_ite {condition : Prop} [Decidable condition] {work' : ExceptT ε (StateM (Session σ)) α}
    {other' : ExceptT ε (StateM (Session τ)) α} (yes : condition → Accords sessions view seen work other)
    (no : ¬ condition → Accords sessions view seen work' other') :
    Accords sessions view seen (if condition then work else work') (if condition then other else other') := by
  by_cases holds : condition
  · rw [if_pos holds, if_pos holds]
    exact yes holds
  · rw [if_neg holds, if_neg holds]
    exact no holds

theorem couples_ite {condition : Prop} [Decidable condition] {work' : ExceptT ε (StateM (Session σ)) α}
    {other' : ExceptT ε (StateM (Session τ)) α} (yes : condition → Couples sessions view work other)
    (no : ¬ condition → Couples sessions view work' other') :
    Couples sessions view (if condition then work else work') (if condition then other else other') :=
  Accords.couples (accords_ite (fun holds => (yes holds).accords id) fun fails => (no fails).accords id)

end

variable {view : Fault → κ}

theorem accords_fail {seen : α → γ} {fault fault' : Fault} (same : view fault = view fault') :
    Accords sessions view seen (fail fault : Action σ α) (fail fault') :=
  fun _ _ related => ⟨congrArg Except.error same, related⟩

theorem couples_fail {fault fault' : Fault} (same : view fault = view fault') :
    Couples sessions view (fail fault : Action σ α) (fail fault') :=
  fun _ _ related => ⟨congrArg Except.error same, related⟩

theorem couples_refuse (report : Report) : Couples sessions view (refuse report : Action σ α) (refuse report) :=
  couples_fail rfl

theorem couples_ofExcept (result : Except Fault α) :
    Couples sessions view (ofExcept result : Action σ α) (ofExcept result) := by
  cases result with
  | ok value => exact couples_pure value
  | error fault => exact couples_fail rfl

theorem couples_check (result : Except Misuse α) :
    Couples sessions view (check result : Action σ α) (check result) := by
  cases result with
  | ok value => exact couples_pure value
  | error misuse => exact couples_fail rfl

/-- What is done next may look at the session, as long as it is coupled from related sessions on. -/
theorem couples_get {next : Session σ → Action σ α} {otherNext : Session τ → Action τ α}
    (rest : ∀ ⦃s t⦄, sessions s t → Couples sessions view (next s) (otherNext t)) :
    Couples sessions view ((get : Action σ (Session σ)) >>= next) ((get : Action τ (Session τ)) >>= otherNext) :=
  fun _ _ related => rest related related

theorem couples_modify {change : Session σ → Session σ} {other : Session τ → Session τ}
    (changed : ∀ ⦃s t⦄, sessions s t → sessions (change s) (other t)) :
    Couples sessions view (modify change : Action σ Unit) (modify other : Action τ Unit) :=
  fun _ _ related => ⟨rfl, changed related⟩

theorem couples_ofState {work : StateM (Session σ) α} {other : StateM (Session τ) α}
    (couples : Session.Couples sessions id work other) : Couples sessions view (ofState work) (ofState other) := by
  intro s t related
  obtain ⟨same, after⟩ := couples related
  exact ⟨congrArg Except.ok same, after⟩

theorem couples_note {notice notice' : Notice}
    (noted : ∀ ⦃s : Session σ⦄ ⦃t : Session τ⦄, sessions s t → sessions (s.noted notice) (t.noted notice')) :
    Couples sessions view (note notice : Action σ Unit) (note notice') :=
  fun _ _ related => ⟨rfl, noted related⟩

/-- Work that cannot fail and hands on something of which only a part is seen. -/
theorem accords_through {seen : α → γ} {shown : β → δ} {work : StateM (Session σ) α} {other : StateM (Session τ) α}
    {next : α → Action σ β} {otherNext : α → Action τ β} (first : Session.Couples sessions seen work other)
    (rest : ∀ ⦃value value'⦄, seen value = seen value' → Accords sessions view shown (next value) (otherNext value')) :
    Accords sessions view shown (ofState work >>= next) (ofState other >>= otherNext) := by
  intro s t related
  obtain ⟨same, after⟩ := first related
  exact rest same after

theorem couples_through {seen : α → γ} {work : StateM (Session σ) α} {other : StateM (Session τ) α}
    {next : α → Action σ β} {otherNext : α → Action τ β} (first : Session.Couples sessions seen work other)
    (rest : ∀ ⦃value value'⦄, seen value = seen value' → Couples sessions view (next value) (otherNext value')) :
    Couples sessions view (ofState work >>= next) (ofState other >>= otherNext) :=
  Accords.couples (accords_through first fun _ _ same => (rest same).accords id)

/-- Work whose failure is looked at. -/
theorem accords_attempt {look : ε → κ'} {shown : β → δ} {work : ExceptT ε (StateM (Session σ)) α}
    {other : ExceptT ε (StateM (Session τ)) α} {next : Except ε α → Action σ β} {otherNext : Except ε α → Action τ β}
    (first : Couples sessions look work other)
    (succeeds : ∀ value, Accords sessions view shown (next (.ok value)) (otherNext (.ok value)))
    (fails : ∀ ⦃fault fault'⦄, look fault = look fault' →
      Accords sessions view shown (next (.error fault)) (otherNext (.error fault'))) :
    Accords sessions view shown (ofState work.run >>= next) (ofState other.run >>= otherNext) := by
  refine accords_through first ?_
  rintro (fault | value) (fault' | value') same
  · exact fails (Except.error.inj same)
  · cases same
  · cases same
  · obtain rfl := Except.ok.inj same
    exact succeeds value

theorem couples_attempt {look : ε → κ'} {work : ExceptT ε (StateM (Session σ)) α}
    {other : ExceptT ε (StateM (Session τ)) α} {next : Except ε α → Action σ β} {otherNext : Except ε α → Action τ β}
    (first : Couples sessions look work other)
    (succeeds : ∀ value, Couples sessions view (next (.ok value)) (otherNext (.ok value)))
    (fails : ∀ ⦃fault fault'⦄, look fault = look fault' →
      Couples sessions view (next (.error fault)) (otherNext (.error fault'))) :
    Couples sessions view (ofState work.run >>= next) (ofState other.run >>= otherNext) :=
  Accords.couples (accords_attempt first (fun value => (succeeds value).accords id) fun _ _ same =>
    (fails same).accords id)

theorem accords_foldlM {seen : β → δ} {work : β → α → Action σ β} {other : β → α → Action τ β}
    (each : ∀ ⦃value value'⦄, seen value = seen value' → ∀ item,
      Accords sessions view seen (work value item) (other value' item))
    (items : List α) {value value' : β} (same : seen value = seen value') :
    Accords sessions view seen (items.foldlM work value) (items.foldlM other value') := by
  induction items generalizing value value' with
  | nil => exact accords_pure same
  | cons item rest ih =>
    rw [List.foldlM_cons, List.foldlM_cons]
    exact accords_bind (each same item) fun _ _ same => ih same

theorem couples_forM {work : α → Action σ PUnit} {other : α → Action τ PUnit}
    (each : ∀ item, Couples sessions view (work item) (other item)) (items : List α) :
    Couples sessions view (items.forM work) (items.forM other) := by
  induction items with
  | nil => exact couples_pure _
  | cons item rest ih => exact couples_bind (each item) fun _ => ih

end Action
end DataLayer

/-! Two sessions side by side that differ in the bound values only. -/

namespace DataLayer

variable {σ τ α : Type} {related : σ → τ → Prop}

/-- Bound values with nothing left of them but their number. -/
def masks (values : List Value) : List Value := values.map fun _ => .null

theorem masks_inj {values others : List Value} : masks values = masks others ↔ values.length = others.length := by
  simp only [masks, List.map_const', List.replicate_inj, and_true, or_true]

/-- What an engine is asked for, without the bound values. -/
def EngineEvent.masked : EngineEvent → EngineEvent
  | .execute sql params => .execute sql (masks params)
  | event => event

/-- Requests to two engines are answered alike and leave them related. -/
def Agree (related : σ → τ → Prop) (request : σ → α × σ) (other : τ → α × τ) : Prop :=
  ∀ ⦃s t⦄, related s t → (request s).1 = (other t).1 ∧ related (request s).2 (other t).2

namespace Session

/-- Two sessions that cannot be told apart without a look at the bound values. -/
structure Alike (related : σ → τ → Prop) (s : Session σ) (t : Session τ) : Prop where
  engine : related s.engine t.engine
  held : s.held = t.held
  connected : s.connected = t.connected
  events : s.events.map EngineEvent.masked = t.events.map EngineEvent.masked
  log : s.log = t.log
  context : s.context = t.context

theorem Alike.noted {s : Session σ} {t : Session τ} (alike : Alike related s t) (notice : Notice) :
    Alike related (s.noted notice) (t.noted notice) :=
  { alike with log := by simp only [Session.noted, alike.log, alike.context] }

end Session
end DataLayer
