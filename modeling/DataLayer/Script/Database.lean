import DataLayer.Fault.Raised
import DataLayer.Script.Member
import DataLayer.Script.Query

/-! Steps on a database. -/

namespace DataLayer.Script

open Signature

/-- A step on a database. -/
inductive DatabaseStep where
  | call (call : Call)
  /-- Steps on a fresh query. -/
  | chain (table : Value) (calls : List Call)
  /-- Steps on an open connection that is closed afterwards. -/
  | within (steps : List DatabaseStep)
  | raise (name : String) (message : Value)
deriving Inhabited

namespace DatabaseStep

variable {σ : Type}

private def owner (name : String) : String := "DatabaseAdapter." ++ name

/-- The name of the kind of a database. -/
def kindName : EngineKind → String
  | .sqlite => "SQLiteAdapter"
  | .mysql => "MySQLAdapter"

/-- The values that the placeholders of a statement are given. -/
private def paramsOf (value : Value) : Except Misuse (List Value) := value.elements

/-- Runs the statement that a call gives. The connection is opened before the values are looked
at. -/
def runWith {α : Type} (db : Database σ) (call : Call)
    (use : Value → List Value → Action σ α) : Action σ α := do
  let bound ← Action.check (call.bind (owner call.name) [required "sql", optional "params"])
  db.ensureHandle
  let params ← Action.check (paramsOf (bound.getD "params" (.tuple [])))
  use (bound.getD "sql" .null) params

private def rowReply : Option Row → Reply
  | none => .nothing
  | some row => .value row.toValue

private def executeReply : Option (List Row) → Reply
  | none => .flag true
  | some rows => .rows rows

/-- Takes the step that a call asks for. -/
def performCall (db : Database σ) (call : Call) : Action σ Reply := do
  let own := kindName db.kind ++ "." ++ call.name
  match call.name with
  | "connect" =>
    Action.check (call.bare own)
    db.connect
    return .nothing
  | "disconnect" =>
    Action.check (call.bare own)
    db.disconnect
    return .nothing
  | "get_connection" =>
    Action.check (call.bare own)
    db.ensureHandle
    return .connection
  | "table" =>
    let bound ← Action.check (call.bind (owner "table") [required "name"])
    let _ ← Action.ofExcept (Query.start (bound.getD "name" .null))
    return .builder
  | "config" => Action.fail (.misuse (Member.notCallable "DatabaseConfig"))
  | "run" => return .statement (← runWith db call db.run)
  | "query" => return .rows (← runWith db call db.query)
  | "query_one" => return rowReply (← runWith db call db.queryOne)
  | "execute" => return executeReply (← runWith db call db.execute)
  | "is_connected" => return .flag (← get).connected
  | "expose_errors" => return .value db.exposeErrors
  | "db_type" => return .value (.engineKind db.kind)
  | "dialect" => return .text db.dialect.word
  | "describe" => return .text db.target
  | "same_connection" =>
    db.ensureHandle
    return .flag (← get).held
  | name => Action.fail (.misuse (.noSuchMember (kindName db.kind) name))

mutual

/-- Takes a step. -/
def perform (db : Database σ) : DatabaseStep → Action σ Reply
  | .call request => performCall db request
  | .chain table calls => do
    QueryStep.performChain db (← Action.ofExcept (Query.start table)) .builder calls
  | .within steps => db.within (do return .list (← performAll db steps))
  | .raise name message => Action.fail (.raise name message)

/-- Takes steps one after the other until one fails. -/
def performAll (db : Database σ) : List DatabaseStep → Action σ (List Reply)
  | [] => pure []
  | step :: rest => do
    let reply ← perform db step
    return reply :: (← performAll db rest)

end

end DatabaseStep
end DataLayer.Script
