import DataLayer.Fault.Raised
import DataLayer.Script.Call

/-! Reports that share their contexts. What one report adds to a shared context shows in every
other report on it, also in those made before. -/

namespace DataLayer

/-- Where a context is kept: under a name that reports share, or with one report. -/
inductive Slot where
  | shared (name : String)
  | own (number : Nat)
deriving DecidableEq

/-- A fault that was made: a report with the place of its context, or something else. -/
inductive Filed where
  | report (report : Report) (slot : Slot)
  | other (fault : Fault)

/-- The faults made so far and the contexts of the reports among them. -/
structure Files where
  contexts : List (Slot × Context) := []
  filed : List Filed := []

/-- The cause that a new report is given: something raised elsewhere, or a fault made before, those
being counted from the end when the number is negative. -/
inductive CauseRef where
  | raised (name : String) (message : Value)
  | filed (number : Int)

/-- What a new fault is made from. -/
structure FaultRequest where
  name : String
  message : Value
  category : Option String := none
  context : Option String := none
  cause : Option CauseRef := none
  named : List (String × Value) := []
  additions : List (List (String × Value)) := []

namespace Files

/-- The context in a place. -/
def contextAt (files : Files) (slot : Slot) : Context :=
  (Entries.get? slot files.contexts).getD {}

/-- A fault as it shows now. -/
def resolve (files : Files) : Filed → Fault
  | .report report slot => .report { report with context := files.contextAt slot }
  | .other fault => fault

/-- The fault of a number. -/
def fault? (files : Files) (number : Int) : Option Fault :=
  let position := if number < 0 then number + files.filed.length else number
  if position < 0 then none else files.filed[position.toNat]?.map files.resolve

/-- The words of a cause, which may fail to be made. -/
def causeText (files : Files) : CauseRef → Except Misuse String
  | .raised name message =>
    match Fault.raise name message with
    | .misuse misuse => .error misuse
    | fault => .ok fault.text
  | .filed number =>
    match files.fault? number with
    | some fault => .ok fault.text
    | none => .error (.outOfRange "list index out of range")

/-- The category of a name. -/
def categoryOf (name : String) : Except Misuse Category :=
  match Category.ofName? name with
  | some category => .ok category
  | none => .error (.noSuchKey (.text name))

/-- The place of the context that a request names, or a place of its own. -/
def slotFor (files : Files) (context : Option String) : Except Misuse Slot :=
  match context with
  | none => .ok (.own files.filed.length)
  | some name =>
    if Entries.contains (Slot.shared name) files.contexts then .ok (.shared name)
    else .error (.noSuchKey (.text name))

/-- Makes a context from named arguments. -/
def openContext (named : List (String × Value)) : Except Misuse Context := do
  let bound ← Script.Signature.bind
    { owner := "ErrorContext.__init__",
      parameters := ["table", "sql", "migration", "metadata"].map Script.Signature.optional }
    [] named
  return { table := bound.getD "table" .null, sql := bound.getD "sql" .null,
           migration := bound.getD "migration" .null,
           metadata := bound.getD "metadata" (.map []) }

/-- Opens the shared contexts. -/
def openAll (contexts : List (String × List (String × Value))) : Except Misuse Files :=
  contexts.foldlM (fun files entry => do
    let context ← openContext entry.2
    return { files with contexts := Entries.put (.shared entry.1) context files.contexts }) {}

/-- Adds an argument to a context, unless it was left out or is null. -/
def setGiven (name : String) (bound : Script.Signature.Bound) (context : Context) :
    Except Misuse Context :=
  match bound.get? name with
  | none => .ok context
  | some .null => .ok context
  | some value => context.set name value

/-- The arguments of a report of some kind, apart from its message. -/
def bindReport (kind : ReportKind) (named : List (String × Value)) :
    Except Misuse Script.Signature.Bound :=
  Script.Signature.bind
    { owner := kind.name ++ ".__init__",
      parameters := (["table", "sql", "migration"]
        ++ (if kind.carriesEngineMessage then ["engine_message"] else [])).map
          Script.Signature.keyword }
    [] named

/-- Adds named values to a context. What was added before a failure stays. -/
def addAll (context : Context) : List (String × Value) → Except Misuse Unit × Context
  | [] => (.ok (), context)
  | (name, value) :: rest =>
    match context.set name value with
    | .ok context => addAll context rest
    | .error misuse => (.error misuse, context)

/-- Adds named values to a context call by call. A call that names its own receiver adds nothing. -/
def addCalls (context : Context) : List (List (String × Value)) → Except Misuse Unit × Context
  | [] => (.ok (), context)
  | call :: rest =>
    if Entries.contains Script.Signature.receiver call then
      (.error (.unsuitable "with_context() got multiple values for argument 'self'"), context)
    else match addAll context call with
      | (.ok (), context) => addCalls context rest
      | failed => failed

/-- A new report and its context, before anything is added to it. -/
def draftReport (files : Files) (kind : ReportKind) (request : FaultRequest) (slot : Slot) :
    Except Misuse (Report × Context) := do
  let category ← request.category.mapM categoryOf
  let cause ← request.cause.mapM files.causeText
  let bound ← bindReport kind request.named
  let context ← setGiven "table" bound (files.contextAt slot)
  let context ← setGiven "sql" bound context
  let context ← setGiven "migration" bound context
  let report : Report :=
    { kind, message := request.message, category := category.getD kind.category,
      cause := cause.map .words,
      engineMessage := match bound.getD "engine_message" .null with
        | .null => request.message
        | message => message }
  return (report, context)

/-- Makes a report. It is on file from when it is made, even if nothing can be added to it. -/
def fileReport (files : Files) (kind : ReportKind) (request : FaultRequest) :
    Except Fault Filed × Files :=
  let draft := do
    let slot ← files.slotFor request.context
    return (slot, ← files.draftReport kind request slot)
  match draft with
  | .error misuse => (.error (.misuse misuse), files)
  | .ok (slot, report, context) =>
    let (result, context) := addCalls context request.additions
    let filed := Filed.report report slot
    (Misuse.lift (result.map fun _ => filed),
      { contexts := Entries.put slot context files.contexts, filed := files.filed ++ [filed] })

/-- Makes a fault of a general kind. It takes neither category, context nor cause. -/
def fileGeneral (files : Files) (kind : String) (request : FaultRequest) :
    Except Fault Filed × Files :=
  let bare := request.category.isNone && request.context.isNone && request.cause.isNone
  if bare && GeneralKind.accepts kind (request.named.map Prod.fst) then
    let filed := Filed.other (.raised kind request.message)
    (.ok filed, { files with filed := files.filed ++ [filed] })
  else (.error (.misuse (.unsuitable (kind ++ "() takes no keyword arguments"))), files)

/-- Makes a fault of any name. -/
def make (files : Files) (request : FaultRequest) : Except Fault Filed × Files :=
  match ReportKind.ofName? request.name with
  | some kind => files.fileReport kind request
  | none =>
    match GeneralKind.find request.name with
    | .ok kind => files.fileGeneral kind request
    | .error misuse => (.error (.misuse misuse), files)

end Files

namespace Report

/-- A report as a row of named values. -/
def entries (r : Report) : Except Misuse (List (String × Value)) := do
  let context ← r.context.entries
  return [("error_type", .text r.kind.name), ("message", r.message),
      ("category", .text r.category.name)]
    ++ (if context.isEmpty then [] else [("context", .map context)])
    ++ (match r.cause with
      | some (.words text) => [("cause", .text text)]
      | _ => [])
    ++ (if r.kind.carriesEngineMessage then [("engine_message", r.engineMessage)] else [])

end Report
end DataLayer
