import DataLayer.Fault.Raised

/-! Faults by where they come from: those that are found here, which every handler sees, and those that an engine or a
caller told. -/

namespace DataLayer

variable {α β : Type}

namespace Fault

/-- Holds of the faults that are found here and not told by an engine or a caller: reports, and values in
places that cannot take them. -/
def IsOwn : Fault → Prop
  | .report _ => True
  | .misuse _ => True
  | _ => False

/-- A fault that is found here is seen. -/
theorem IsOwn.seen {fault : Fault} (own : fault.IsOwn) : fault.escapes = false := by
  cases fault with
  | report report => rfl
  | misuse misuse => rfl
  | engine complaint => rfl
  | raised name message => exact own.elim
  | settings issues => rfl

/-- Holds of results whose fault, if there is one, was found here. -/
def Owned (result : Except Fault α) : Prop := ∀ fault, result = .error fault → fault.IsOwn

theorem owned_ok (value : α) : Owned (.ok value) := nofun

theorem owned_refuse (report : Report) : Owned (refuse report : Except Fault α) := by
  rintro fault ⟨⟩
  trivial

theorem owned_lift (result : Except Misuse α) : Owned (Misuse.lift result) := by
  cases result with
  | ok value => exact owned_ok value
  | error misuse =>
    rintro fault ⟨⟩
    trivial

theorem owned_bind {result : Except Fault α} {next : α → Except Fault β} (first : Owned result)
    (rest : ∀ value, Owned (next value)) : Owned (result >>= next) := by
  cases result with
  | ok value => exact rest value
  | error fault =>
    rintro fault ⟨⟩
    exact first fault rfl

theorem owned_foldlM {step : β → α → Except Fault β} (owned : ∀ value item, Owned (step value item)) (items : List α)
    (value : β) : Owned (items.foldlM step value) := by
  induction items generalizing value with
  | nil => exact owned_ok value
  | cons item rest ih => exact owned_bind (owned value item) ih

theorem bind_eq_ok {ε : Type} {result : Except ε α} {next : α → Except ε β} {value : β} :
    (result >>= next) = .ok value ↔ ∃ between, result = .ok between ∧ next between = .ok value := by
  cases result with
  | ok between => exact ⟨fun done => ⟨between, rfl, done⟩, fun ⟨_, rfl, done⟩ => done⟩
  | error fault => exact ⟨nofun, nofun⟩

/-- What every step keeps is kept by all of them. -/
theorem foldlM_keeps {ε : Type} {step : β → α → Except ε β} {keeps : β → Prop} {items : List α} {start last : β}
    (kept : ∀ {value item next}, item ∈ items → keeps value → step value item = .ok next → keeps next)
    (begins : keeps start) (ran : items.foldlM step start = .ok last) : keeps last := by
  induction items generalizing start with
  | nil =>
    cases ran
    exact begins
  | cons item rest ih =>
    obtain ⟨between, first, later⟩ := bind_eq_ok.mp ran
    refine ih (fun member => kept (List.mem_cons_of_mem item member)) ?_ later
    exact kept List.mem_cons_self begins first

theorem map_eq_error {ε : Type} {result : Except ε α} {form : α → β} {fault : ε} :
    result.map form = .error fault ↔ result = .error fault := by
  cases result <;> simp [Except.map]

theorem owned_map {result : Except Fault α} (owned : Owned result) (form : α → β) : Owned (result.map form) :=
  fun fault failed => owned fault (map_eq_error.mp failed)

end Fault

end DataLayer
