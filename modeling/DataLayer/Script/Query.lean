import DataLayer.Query.Terminal
import DataLayer.Script.Call
import DataLayer.Script.Reply

/-! Steps on a query. -/

namespace DataLayer.Script

open Signature

/-- A step on a query: a clause, an end, or a look at what it is so far. -/
inductive QueryStep where
  | clause (clause : Clause)
  | terminal (terminal : Query.Terminal)
  | toSql
  | params
  | table
  | summary

namespace QueryStep

private def owner (name : String) : String := "QueryBuilder." ++ name

private def joinStep (kind : Value) (bound : Bound) : QueryStep :=
  .clause (.join kind (bound.getD "table" .null) (bound.getD "condition" .null))

/-- A condition of one, two or three arguments. -/
private def whereStep (bound : Bound) : QueryStep :=
  let column := bound.getD "column" .null
  match bound.get? "operator", bound.get? "value" with
  | none, none => .clause (.fragment column)
  | some value, none => .clause (.compare column (.text "=") value)
  | some operator, some value => .clause (.compare column operator value)
  | none, some value => .clause (.compare column (.text "=") value)

/-- The step that a call asks for. -/
def ofCall (call : Call) : Except Misuse QueryStep :=
  let bind (parameters : List Parameter) := call.bind (owner call.name) parameters
  match call.name with
  | "table" => .ok .table
  | "params" => .ok .params
  | "repr" => .ok .summary
  | "select" => (bind [optional "columns"]).map fun b =>
    .clause (.select (b.getD "columns" (.text "*")))
  | "join" => (bind [required "table", required "condition", optional "kind"]).map fun b =>
    joinStep (b.getD "kind" (.text "INNER")) b
  | "left_join" => (bind [required "table", required "condition"]).map (joinStep (.text "LEFT"))
  | "right_join" => (bind [required "table", required "condition"]).map (joinStep (.text "RIGHT"))
  | "where" =>
    (bind [required "column", optional "operator", optional "value"]).map whereStep
  | "where_raw" => (bind [required "sql", optional "params"]).map fun b =>
    .clause (.raw (b.getD "sql" .null) (b.getD "params" (.tuple [])))
  | "order_by" => (bind [required "column", optional "direction"]).map fun b =>
    .clause (.orderBy (b.getD "column" .null) (b.getD "direction" (.text "ASC")))
  | "limit" => (bind [required "limit"]).map fun b => .clause (.limit (b.getD "limit" .null))
  | "offset" => (bind [required "offset"]).map fun b => .clause (.offset (b.getD "offset" .null))
  | "reset" => (bind []).map fun _ => .clause .reset
  | "get" => (bind []).map fun _ => .terminal .get
  | "first" => (bind []).map fun _ => .terminal .first
  | "exists" => (bind []).map fun _ => .terminal .exists
  | "to_sql" => (bind []).map fun _ => .toSql
  | "insert" => (bind [required "data"]).map fun b => .terminal (.insert (b.getD "data" .null))
  | "update" => (bind [required "data"]).map fun b => .terminal (.update (b.getD "data" .null))
  | "delete" => (bind []).map fun _ => .terminal .delete
  | name => .error (.noSuchMember "QueryBuilder" name)

variable {σ : Type}

private def replyOf : Query.Ending → Reply
  | .rows rows => .rows rows
  | .row none => .nothing
  | .row (some row) => .value row.toValue
  | .flag truth => .flag truth
  | .id value => .value value

/-- The statement of a query with its values, as an answer. -/
def sqlReply (q : Query) : Except Fault Reply :=
  (Misuse.lift q.toSql).map fun (sql, values) => .value (.list [.text sql, .list values])

/-- Takes a step. A clause that fails may leave the query changed. -/
def perform (db : Database σ) (q : Query) (step : QueryStep) :
    StateM (Session σ) (Except Fault Reply × Query) := do
  match step with
  | .clause change =>
    let (result, q) := q.apply change
    return (result.map fun _ => .builder, q)
  | .terminal ending => return ((← (q.finish db ending).run).map replyOf, q)
  | .toSql => return (sqlReply q, q)
  | .params => return (.ok (.value (.list q.params)), q)
  | .table => return (.ok (.value q.table), q)
  | .summary => return (.ok (.text q.summary), q)

/-- Takes the step that a call asks for. -/
def performCall (db : Database σ) (q : Query) (call : Call) :
    StateM (Session σ) (Except Fault Reply × Query) :=
  match ofCall call with
  | .ok step => perform db q step
  | .error misuse => return (.error (.misuse misuse), q)

/-- Takes steps one after the other until one fails, and answers what the last one does. -/
def performChain (db : Database σ) (q : Query) (reply : Reply) : List Call → Action σ Reply
  | [] => pure reply
  | call :: rest => do
    let (result, q) ← Action.ofState (performCall db q call)
    performChain db q (← Action.ofExcept result) rest

end QueryStep
end DataLayer.Script
