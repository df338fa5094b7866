import DataLayer.Fault.Report

/-! Everything that can go wrong: reports of this library, misused values, what an engine says,
and what callers raise themselves. -/

namespace DataLayer

/-- The kinds of complaints that an engine has. -/
inductive EngineFaultKind where
  | general | interface | database | operational | integrity | programming | data | internal
  | notSupported | warning | runtime | system
deriving DecidableEq, Repr

namespace EngineFaultKind

/-- Holds of the complaints about a statement or a connection. A warning is none of them, nor is
a failure of the machinery below the engine. -/
def isDriverError : EngineFaultKind → Bool
  | .warning => false
  | .runtime => false
  | .system => false
  | _ => true

end EngineFaultKind

/-- A complaint of an engine. -/
structure EngineFault where
  kind : EngineFaultKind
  message : String
deriving DecidableEq, Repr

/-- A settings value that was refused: where it stands, by which rule, and the words for it. -/
structure SettingIssue where
  location : String
  rule : String
  message : String
deriving DecidableEq, Repr

/-- Anything that ends an operation early. -/
inductive Fault where
  | report (report : Report)
  | engine (fault : EngineFault)
  | misuse (misuse : Misuse)
  /-- Raised by a caller's own code under a name of its own. -/
  | raised (name : String) (message : Value)
  | settings (issues : List SettingIssue)

namespace Fault

/-- The words of what a caller raised. A missing key is quoted. -/
def raisedText (name : String) (message : Value) : String :=
  if name = "KeyError" then message.quoted else message.display

/-- The words of a fault. -/
def text : Fault → String
  | .report r => r.message.display
  | .engine complaint => complaint.message
  | .misuse complaint => complaint.text
  | .raised name message => raisedText name message
  | .settings issues => "\n".intercalate (issues.map SettingIssue.message)

/-- What may be said about a fault outside; other people's words only when `expose` is set. -/
def publicMessage (expose : Bool) : Fault → Value
  | .report r => r.publicMessage expose
  | fault => .text (if expose then fault.text else "Internal error")

end Fault

/-- A value or the report that there is none. -/
def refuse {α : Type} (report : Report) : Except Fault α := .error (.report report)

/-- Lifts a complaint about a value to a fault. -/
def Misuse.lift {α : Type} (result : Except Misuse α) : Except Fault α :=
  result.mapError Fault.misuse

end DataLayer
