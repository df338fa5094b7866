import DataLayer.Proofs.Fault
import DataLayer.Settings.Basic

/-! Settings that cannot be used. What is wrong with them is told by the settings themselves: main statement:
no settings, and no choice of a database by them, end with a report. -/

namespace DataLayer

variable {α β : Type}

namespace Fault

/-- Holds of results that are no report. -/
def Unreported (result : Except Fault α) : Prop := ∀ report, result ≠ .error (.report report)

theorem unreported_ok (value : α) : Unreported (.ok value) := by
  rintro report ⟨⟩

theorem unreported_misuse (misuse : Misuse) : Unreported (.error (.misuse misuse) : Except Fault α) := by
  rintro report ⟨⟩

theorem unreported_lift (result : Except Misuse α) : Unreported (Misuse.lift result) := by
  cases result with
  | ok value => exact unreported_ok value
  | error misuse => exact unreported_misuse misuse

theorem unreported_bind {result : Except Fault α} {next : α → Except Fault β} (first : Unreported result)
    (rest : ∀ value, Unreported (next value)) : Unreported (result >>= next) := by
  cases result with
  | ok value => exact rest value
  | error fault =>
    rintro report ⟨⟩
    exact first report rfl

theorem unreported_map {result : Except Fault α} (unreported : Unreported result) (form : α → β) :
    Unreported (result.map form) :=
  fun report failed => unreported report (map_eq_error.mp failed)

/-- A fault is no report wherever it is passed on. -/
theorem unreported_error {result : Except Fault α} (unreported : Unreported result) {fault : Fault}
    (failed : result = .error fault) : Unreported (.error fault : Except Fault β) := by
  rintro report ⟨⟩
  exact unreported report failed

/-- What is wrong with checked values is told as the fault of the settings. -/
theorem unreported_checked (checked : Settings.Checked α) : Unreported (checked.mapError Fault.settings) := by
  cases checked with
  | ok value => exact unreported_ok value
  | error complaints => rintro report ⟨⟩

end Fault

open Fault

namespace Surroundings

theorem checkPaths_unreported (s : Surroundings) (name : String) : Unreported (s.checkPaths name) := by
  unfold checkPaths
  split
  · exact unreported_ok ()
  · exact unreported_misuse _

theorem checkEncoding_unreported (s : Surroundings) : Unreported s.checkEncoding := by
  unfold checkEncoding
  split
  · split
    · dsimp only
      split
      · exact unreported_ok ()
      · rintro report ⟨⟩
    · split
      · exact unreported_misuse _
      · exact unreported_ok ()
  · exact unreported_ok ()

theorem check_unreported (s : Surroundings) (first : String) : Unreported (s.check first) := by
  refine unreported_bind (s.checkPaths_unreported _) fun _ => unreported_bind s.checkEncoding_unreported fun _ => ?_
  split
  · exact unreported_bind (unreported_misuse _) fun _ => s.checkPaths_unreported _
  · exact unreported_bind (unreported_ok ()) fun _ => s.checkPaths_unreported _

end Surroundings

theorem AppSettings.load_unreported (s : Surroundings) : Unreported (AppSettings.load s) := by
  unfold AppSettings.load
  refine unreported_bind (s.check_unreported _) fun _ => ?_
  dsimp only
  exact unreported_checked _

theorem DatabaseSettings.load_unreported (s : Surroundings) : Unreported (DatabaseSettings.load s) := by
  unfold DatabaseSettings.load
  refine unreported_bind (s.check_unreported _) fun _ => ?_
  dsimp only
  exact unreported_checked _

/-- The engine of settings is always known. -/
theorem DatabaseSettings.choose_unreported (settings : DatabaseSettings) (app : AppSettings) :
    Unreported (settings.choose app) := by
  unfold choose Registry.find
  dsimp only
  cases settings.driver with
  | sqlite => exact unreported_lift _
  | mysql => exact unreported_lift _

theorem Surroundings.chooseAt_unreported (s : Surroundings) (path : Option String) : Unreported (s.chooseAt path) := by
  refine unreported_bind (AppSettings.load_unreported s) fun app => ?_
  have settled : Unreported (DatabaseSettings.load s >>= fun settings => settings.choose app) :=
    unreported_bind (DatabaseSettings.load_unreported s) fun settings => settings.choose_unreported app
  cases path with
  | none => exact settled
  | some path =>
    dsimp only
    split
    · exact settled
    · exact unreported_lift _

end DataLayer
