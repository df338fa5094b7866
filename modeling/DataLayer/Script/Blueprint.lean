import DataLayer.Schema.Blueprint
import DataLayer.Fault.Raised
import DataLayer.Script.Member
import DataLayer.Script.Reply

/-! Steps on a blueprint and on its columns. -/

namespace DataLayer.Script

open DataLayer.Schema DataLayer.Text Signature

/-- A step on a column: a modifier, or a look at what was said about it. -/
inductive ColumnStep where
  | modify (modifier : Modifier)
  | modifiers
  | changed
  | summary
  | render (dialect : Value)

namespace ColumnStep

/-- What a column holds under a name, where that is no operation. -/
def held? (c : Column) (name : String) : Option Value :=
  match name with
  | "name" => some c.name
  | "column_type" => some c.type
  | "length" => some c.length
  | "modifiers" => some (.list [])
  | "changed" => some (.bool c.changed)
  | _ => none

/-- The step on a column that a call asks for. No value stands in for the dialect that a
definition is written in. -/
def ofCall (c : Column) (call : Call) : Except Misuse ColumnStep := do
  let bind (parameters : List Parameter) := call.bind ("ColumnDefinition." ++ call.name) parameters
  let written : Except Misuse ColumnStep := do
    let bound ← bind [required "dialect"]
    .error (.noSuchMember (bound.getD "dialect" .null).kindName "quote_identifier")
  match call.name with
  | "nullable" => let _ ← bind []; return .modify .nullable
  | "unique" => let _ ← bind []; return .modify .unique
  | "change" => let _ ← bind []; return .modify .change
  | "default" => return .modify (.default ((← bind [required "value"]).getD "value" .null))
  | "definition" => written
  | "render" => written
  | name =>
    match held? c name with
    | some value => .error (Member.notCallable value.kindName)
    | none => .error (.noSuchMember "ColumnDefinition" name)

/-- The look at a column that a name asks for. -/
def look? (name : String) (dialect : Value) : Option ColumnStep :=
  match name with
  | "modifiers" => some .modifiers
  | "changed" => some .changed
  | "repr" => some .summary
  | "render" => some (.render dialect)
  | _ => none

/-- Takes a step on a column; only one that changes it leads back to it. -/
def perform (c : Column) : ColumnStep → Except Fault (Option Handle) × Column
  | .modify modifier => (.ok none, c.modify modifier)
  | .modifiers => (.ok (some (.texts c.modifiers)), c)
  | .changed => (.ok (some (.plain (.bool c.changed))), c)
  | .summary => (Misuse.lift (c.summary.map fun word => some (.text word)), c)
  | .render dialect =>
    (Misuse.lift (do return some (.text (← c.render (← Dialect.find dialect)))), c)

/-- Takes the step on a column that a call asks for. -/
def performCall (c : Column) (call : Call) : Except Fault Reply × Column :=
  match ofCall c call with
  | .error misuse => (.error (.misuse misuse), c)
  | .ok step =>
    let (result, c) := step.perform c
    (result.map fun _ => .column c.summary, c)

end ColumnStep

/-- A blueprint as steps see it: `flag` is what it was told about creating its table. -/
structure Draft where
  blueprint : Blueprint
  flag : Value

namespace Draft

/-- What a blueprint holds under a name, where that is no operation. -/
def held? (d : Draft) (name : String) : Option Handle :=
  match name with
  | "columns" => some (.list ((List.range d.blueprint.columns.length).map Handle.column))
  | "commands" => some (.texts d.blueprint.commands)
  | "is_create" => some (.ofValue d.flag)
  | "table" => some (.ofValue d.blueprint.table)
  | _ => none

/-- The look at a blueprint that a name asks for. -/
def look? (d : Draft) (name : String) : Option Handle :=
  match name with
  | "repr" => some (.text d.blueprint.summary)
  | "table" => none
  | name => held? d name

end Draft

/-- What a call asks of a blueprint. -/
inductive BlueprintRequest where
  | column (name type length : Value)
  /-- Whole-number columns that count from zero. -/
  | counters (names : List String)
  /-- A modifier of the column that was added last, with the name that it is asked for by. -/
  | modifyLast (name : String) (modifier : Modifier)
  | dropColumn (name : Value)
  | renameColumn (source target definition : Value)
  | fragments
  | build

namespace BlueprintRequest

private def owner (name : String) : String := "Blueprint." ++ name

private def typed (type : ColumnType) (bound : Bound) : BlueprintRequest :=
  .column (bound.getD "name" .null) (.columnType type) .null

/-- The request that a call makes by its name, if that is the name of an operation. -/
def known? (call : Call) : Option (Except Misuse BlueprintRequest) :=
  let given (parameters : List Parameter) (request : Bound → BlueprintRequest) :=
    some ((call.bind (owner call.name) parameters).map request)
  match call.name with
  | "id" => given [] fun _ => .column (.text "id") (.columnType .increments) .null
  | "increments" => given [required "name"] (typed .increments)
  | "integer" => given [required "name"] (typed .integer)
  | "string" => given [required "name", optional "length"] fun bound =>
    .column (bound.getD "name" .null) (.columnType .string)
      (bound.getD "length" (.int Dialect.defaultLength))
  | "text" => given [required "name"] (typed .text)
  | "date" => given [required "name"] (typed .date)
  | "datetime" => given [required "name"] (typed .datetime)
  | "time" => given [required "name"] (typed .time)
  | "boolean" => given [required "name"] (typed .boolean)
  | "add_column" =>
    given [required "name", required "column_type", keyword "length"] fun bound =>
      .column (bound.getD "name" .null) (bound.getD "column_type" .null)
        (bound.getD "length" .null)
  | "timestamps" => given [] fun _ => .counters Blueprint.timestampNames
  | "soft_delete" => given [] fun _ => .counters Blueprint.softDeleteNames
  | "nullable" => given [] fun _ => .modifyLast "nullable" .nullable
  | "default" => given [required "value"] fun bound =>
    .modifyLast "default" (.default (bound.getD "value" .null))
  | "unique" => given [] fun _ => .modifyLast "unique" .unique
  | "change" => given [] fun _ => .modifyLast "change" .change
  | "drop_column" => given [required "name"] fun bound => .dropColumn (bound.getD "name" .null)
  | "rename_column" =>
    given [required "source", required "target", required "definition"] fun bound =>
      .renameColumn (bound.getD "source" .null) (bound.getD "target" .null)
        (bound.getD "definition" .null)
  | "fragments" => given [] fun _ => .fragments
  | "build" => given [] fun _ => .build
  | _ => none

/-- The request that a call makes. -/
def ofCall (d : Draft) (call : Call) : Except Misuse BlueprintRequest :=
  match known? call with
  | some made => made
  | none =>
    match d.held? call.name with
    | some handle => .error (Member.notCallable handle.kindName)
    | none => .error (.noSuchMember "Blueprint" call.name)

/-- What became of a step: where it led, or a fault, and the blueprint after it. -/
abbrev Outcome := Except Fault Handle × Draft

/-- What a change of a blueprint comes to. A change that fails leaves it as it was. -/
def change (d : Draft) (handle : Blueprint → Handle) : Except Fault Blueprint → Outcome
  | .ok blueprint => (.ok (handle blueprint), { d with blueprint })
  | .error fault => (.error fault, d)

private def lastColumn (b : Blueprint) : Handle := .column (b.columns.length - 1)

/-- The handles of so many columns that are added at the end. -/
private def nextColumns (b : Blueprint) (count : Nat) : Handle :=
  .list ((List.range count).map fun n => .column (b.columns.length + n))

private def builtHandle : Option String → Handle
  | none => .nothing
  | some sql => .text sql

/-- Does what a request asks for. -/
def perform (d : Draft) : BlueprintRequest → Outcome
  | .column name type length => change d lastColumn (d.blueprint.addColumn name type length)
  | .counters names =>
    change d (fun _ => nextColumns d.blueprint names.length) (d.blueprint.addCounters names)
  | .modifyLast name modifier => change d (fun _ => .draft) (d.blueprint.modifyLast name modifier)
  | .dropColumn name => change d (fun _ => .draft) (Misuse.lift (d.blueprint.dropColumn name))
  | .renameColumn source target definition =>
    change d (fun _ => .draft) (Misuse.lift (d.blueprint.renameColumn source target definition))
  | .fragments => ((Misuse.lift d.blueprint.fragments).map Handle.texts, d)
  | .build => (d.blueprint.build.map builtHandle, d)

end BlueprintRequest

/-- A step on a blueprint, or on the column at a position. -/
structure BlueprintStep where
  call : Call
  column : Option Int := none
  /-- The dialect of a step that renders. -/
  dialect : Value := .null
  /-- Further steps on what the step leads to. -/
  after : List Call := []

namespace BlueprintStep

open BlueprintRequest (Outcome)

private def keep (d : Draft) (result : Except Fault Handle) : Outcome := (result, d)

private def misused (d : Draft) (misuse : Misuse) : Outcome := (.error (.misuse misuse), d)

private def columnReply (b : Blueprint) (position : Nat) : Reply :=
  .column (match b.columns[position]? with
    | some column => column.summary
    | none => .error (.outOfRange "list index out of range"))

/-- The answer that a handle stands for. -/
def replyOf (b : Blueprint) : Handle → Reply
  | .draft => .blueprint
  | .column position => columnReply b position
  | .plain value => .value value
  | .list items => .list (repliesOf b items)
where
  repliesOf (b : Blueprint) : List Handle → List Reply
    | [] => []
    | item :: rest => replyOf b item :: repliesOf b rest

/-- Takes the step on a blueprint that a call asks for. -/
def performCall (d : Draft) (call : Call) : Outcome :=
  match BlueprintRequest.ofCall d call with
  | .error misuse => misused d misuse
  | .ok request => request.perform d

/-- Takes a step on the column at a position. -/
def performColumn (d : Draft) (position : Nat) (step : Column → Except Misuse ColumnStep) :
    Outcome :=
  match d.blueprint.columns[position]? with
  | none => misused d (.outOfRange "list index out of range")
  | some column =>
    match step column with
    | .error misuse => misused d misuse
    | .ok step =>
      let (result, column) := step.perform column
      let d := { d with blueprint :=
        { d.blueprint with columns := d.blueprint.columns.set position column } }
      (result.map fun handle? => handle?.getD (.column position), d)

/-- Takes a further step on what a step led to. -/
def performOn (d : Draft) (handle : Handle) (call : Call) : Outcome :=
  match handle with
  | .draft => performCall d call
  | .column position => performColumn d position fun column => ColumnStep.ofCall column call
  | .plain value => keep d (Misuse.lift (Member.ofValue value call))
  | .list items => keep d (Misuse.lift (Member.ofList items call))

/-- Takes further steps on what a step led to. -/
def performAfter (outcome : Outcome) : List Call → Outcome
  | [] => outcome
  | call :: rest =>
    match outcome with
    | (.error fault, d) => (.error fault, d)
    | (.ok handle, d) => performAfter (performOn d handle call) rest

/-- The position that an index names, counted from the end when it is negative. -/
def position? (count : Nat) (index : Int) : Option Nat :=
  let position := if index < 0 then index + count else index
  if 0 ≤ position && position < count then some position.toNat else none

/-- What a step leads to without the further ones: a look, a fault that it raises itself, or what
a call does. -/
def performFirst (d : Draft) (step : BlueprintStep) : Outcome :=
  let call := step.call
  if call.name = "raise" then
    keep d (.error (.raise (((call.args[0]?).bind Value.text?).getD "")
      ((call.args[1]?).getD .null)))
  else match step.column with
    | none =>
      match d.look? call.name with
      | some handle => keep d (.ok handle)
      | none => performCall d call
    | some index =>
      match position? d.blueprint.columns.length index with
      | none => misused d (.outOfRange "list index out of range")
      | some position => performColumn d position fun column =>
          match ColumnStep.look? call.name step.dialect with
          | some look => .ok look
          | none => ColumnStep.ofCall column call

/-- Takes a step. -/
def perform (d : Draft) (step : BlueprintStep) : Outcome :=
  performAfter (performFirst d step) step.after

/-- Takes steps one after the other until one fails. -/
def describe (flag : Value) (steps : List BlueprintStep) : Describe := fun blueprint =>
  (go { blueprint, flag } steps).map Draft.blueprint
where
  go (d : Draft) : List BlueprintStep → Except Fault Draft
    | [] => .ok d
    | step :: rest =>
      match perform d step with
      | (.ok _, d) => go d rest
      | (.error fault, _) => .error fault

end BlueprintStep
end DataLayer.Script
