import DataLayer.Dialect
import DataLayer.Script.Call

/-! Steps on a dialect. -/

namespace DataLayer.Script.DialectStep

open Signature

/-- The number that counts placeholders; fewer than none are none. -/
private def countOf : Value → Except Misuse Nat
  | .int n => .ok n.toNat
  | .bool truth => .ok (if truth then 1 else 0)
  | other => .error (.unsuitable
      ("'" ++ other.kindName ++ "' object cannot be interpreted as an integer"))

/-- Takes the step that a call asks for. -/
def perform (dialect : Dialect) (call : Call) : Except Misuse Value := do
  let bind (parameters : List Parameter) := call.bind ("MySQLDialect." ++ call.name) parameters
  match call.name with
  | "name" => return .text dialect.word
  | "placeholders" =>
    let bound ← bind [required "count"]
    return .text (Dialect.placeholders (← countOf (bound.getD "count" .null)))
  | "quote_identifier" =>
    let bound ← bind [required "name"]
    return .text (← Dialect.quoteIdentifier (bound.getD "name" .null))
  | "column_type" =>
    let bound ← bind [required "column_type", optional "length"]
    return .text (← dialect.columnType (bound.getD "column_type" .null)
      (bound.getD "length" .null))
  | "table_options" =>
    let _ ← bind []
    return .text dialect.tableOptions
  | "rename_table" =>
    let bound ← bind [required "source", required "target"]
    return .text (← dialect.renameTable (bound.getD "source" .null) (bound.getD "target" .null))
  | "table_exists_query" =>
    let _ ← bind []
    return .text dialect.tableExistsQuery
  | name => .error (.noSuchMember "MySQLDialect" name)

end DataLayer.Script.DialectStep
