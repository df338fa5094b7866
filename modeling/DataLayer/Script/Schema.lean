import DataLayer.Schema.Change
import DataLayer.Script.Blueprint
import DataLayer.Script.Database

/-! Steps on the tables of a database. -/

namespace DataLayer.Script

open DataLayer.Schema Signature

/-- A step on the tables of a database. -/
inductive SchemaStep where
  | create (table : Value) (columns : List BlueprintStep)
  | alter (table : Value) (columns : List BlueprintStep)
  /-- Compiles a description and sends nothing. -/
  | compile (table : Value) (isCreate : Value) (columns : List BlueprintStep)
  | call (call : Call)
  | database (step : DatabaseStep)
  | raise (name : String) (message : Value)

namespace SchemaStep

variable {σ : Type}

private def statementReply : Option String → Reply
  | none => .nothing
  | some sql => .text sql

/-- Takes the step that a call asks for. -/
def performCall (db : Database σ) (call : Call) : Action σ Reply := do
  let bind (parameters : List Parameter) : Action σ Bound :=
    Action.check (call.bind ("Schema." ++ call.name) parameters)
  match call.name with
  | "rename" =>
    let bound ← bind [required "source", required "target"]
    return .text (← rename db (bound.getD "source" .null) (bound.getD "target" .null))
  | "drop" =>
    let bound ← bind [required "table"]
    return .text (← drop db (bound.getD "table" .null))
  | "drop_if_exists" =>
    let bound ← bind [required "table"]
    return .text (← dropIfExists db (bound.getD "table" .null))
  | "has_table" =>
    let bound ← bind [required "table"]
    return .flag (← hasTable db (bound.getD "table" .null))
  | name => Action.fail (.misuse (.noSuchMember "Schema" name))

/-- Takes a step. -/
def perform (db : Database σ) : SchemaStep → Action σ Reply
  | .create table columns => do
    return statementReply (← Schema.create db table (BlueprintStep.describe (.bool true) columns))
  | .alter table columns => do
    return statementReply (← Schema.alter db table (BlueprintStep.describe (.bool false) columns))
  | .compile table isCreate columns => do
    return statementReply (← Action.ofExcept (Schema.compile db.dialect table isCreate.isTruthy
      (BlueprintStep.describe isCreate columns)))
  | .call request => performCall db request
  | .database step => step.perform db
  | .raise name message => Action.fail (.raise name message)

/-- Takes steps one after the other until one fails. -/
def performAll (db : Database σ) : List SchemaStep → Action σ Unit
  | [] => pure ()
  | step :: rest => do
    let _ ← perform db step
    performAll db rest

end SchemaStep
end DataLayer.Script
